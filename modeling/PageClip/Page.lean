import PageClip.CharacterClass
import PageClip.Dict

/-! The snapshot of a web page that copy functions see. -/

namespace PageClip

structure Page where
  title : Text
  url : Text
  selection : Text := []
  content : Text := []
  metadata : Dict (Option Text) := []
  deriving DecidableEq, Repr

/-- The metadata under a key; absent and empty look the same. -/
def Page.metaValue (page : Page) (key : Text) : Text :=
  ((page.metadata.get? key).join).getD []

def Page.coreData (page : Page) : Dict Text :=
  [("title".toList, page.title), ("url".toList, page.url),
   ("selection".toList, page.selection), ("content".toList, page.content)]

/-- Adds one entry of metadata, unless its name is taken or no identifier. -/
def addMetadata (data : Dict Text) (entry : Text × Option Text) : Dict Text :=
  if isIdentifier entry.1 && (data.get? entry.1).isNone then
    data.set entry.1 (entry.2.getD [])
  else data

/-- The names a template can use. Metadata never replaces a core field. -/
def Page.templateData (page : Page) : Dict Text :=
  page.metadata.foldl addMetadata page.coreData

/-- The text of a name in a template, empty when there is none. -/
def Page.lookup (page : Page) (name : Text) : Text := (page.templateData.get? name).getD []

end PageClip
