import PageClip.OpenElements
import PageClip.Page

/-! The snapshot of a page out of its HTML document. -/

namespace PageClip

/-- Elements that never show, with all that is below them. -/
def hiddenElements : List Text := words "script style noscript template svg canvas"

/-- Elements whose own text is no text of the page. -/
def silentElements : List Text := words "rt rp script style template"

def attributeText (name : String) (attributes : Dict Text) : Text :=
  (attributes.get? name.toList).getD []

/-- The name and the content of a meta element, when it has both. -/
def metaEntry? (attributes : Dict Text) : Option (Text × Text) :=
  let name := match attributeText "name" attributes with
    | [] => attributeText "property" attributes
    | name => name
  match name, attributeText "content" attributes with
  | [], _ => none
  | _, [] => none
  | name, content => some (name, content)

/-- The metadata of meta elements as they are, the last of a name counting. -/
def collectMetadata (elements : List (Dict Text)) : Dict Text :=
  Dict.ofEntries (elements.filterMap metaEntry?)

def metadataNames : List (Text × List Text) :=
  [("description", "description og:description"), ("keywords", "keywords"),
   ("author", "author article:author")].map fun e => (e.1.toList, words e.2)

/-- Common names first, each from the first of its sources; then all that was collected. -/
def normalMetadata (collected : Dict Text) : Dict (Option Text) :=
  Dict.override (metadataNames.map fun e => (e.1, e.2.findSome? (Dict.get? collected)))
    (collected.map fun e => (e.1, some e.2))

def titleText (forest : List Markup) : Text :=
  match firstNamed "title" forest with
  | some children => ((allTexts children).map trim).flatten
  | none => []

/-- Trims every line and drops the empty ones. -/
def cleanLines (t : Text) : Text :=
  joinWith ['\n'] (((lines t).map trim).filter (!·.isEmpty))

/-- The text that shows, of the body or of a document without one. -/
def visibleText (forest : List Markup) : Text :=
  let shown := prunedOf hiddenElements forest
  joinWith ['\n'] (allTexts ((firstNamed "body" shown).getD shown))

def pageOfHtml (html url selection : Text) : Page :=
  let forest := mutedIn silentElements false (parseMarkup html)
  let metas := (allElements forest).filter fun e => e.name == "meta".toList
  { title := titleText forest
    url := url
    selection := selection
    content := cleanLines (visibleText forest)
    metadata := normalMetadata (collectMetadata (metas.map (·.attributes))) }

end PageClip
