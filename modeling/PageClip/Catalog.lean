import PageClip.FunctionSource
import PageClip.Value

/-! The ready-made copy functions, and the stored ones. Each ready-made one has a source text to
show in an editor and an evaluator of its own; the source text is never run. A stored one runs its
own source, or else an entry of the catalog. -/

namespace PageClip

abbrev Options := Option (Dict Value)

structure CatalogEntry where
  id : Text
  name : Text
  description : Text
  code : Text
  evaluate : Page → Options → Clip Text

def linkTemplate : Text := "<a href=\"\x7b\x7b&url\x7d\x7d\">\x7b\x7btitle\x7d\x7d</a>".toList

def defaultTemplate : Text := "\x7b\x7btitle\x7d\x7d - \x7b\x7burl\x7d\x7d".toList

def richTextLink : CatalogEntry where
  id := "rich-text-link".toList
  name := "Rich Text Link".toList
  description := "Create a rich text link with title and URL".toList
  code := ("(page) => \x7b\n" ++
    "  return \x7b\n" ++
    "    html: render('<a href=\"\x7b\x7b&url\x7d\x7d\">\x7b\x7btitle\x7d\x7d</a>', page),\n" ++
    "    text: page.title,\n" ++
    "  \x7d;\n" ++
    "\x7d").toList
  evaluate page _ :=
    { text := some page.title, html := some (render linkTemplate page.lookup) }

def markdownLink : CatalogEntry where
  id := "markdown-link".toList
  name := "Markdown Link".toList
  description := "Create a markdown-formatted link".toList
  code := ("(page) => \x7b\n" ++
    "  return \x7b\n" ++
    "    text: `[$\x7bpage.title\x7d]($\x7bpage.url\x7d)`,\n" ++
    "  \x7d;\n" ++
    "\x7d").toList
  evaluate page _ :=
    { text := some (['['] ++ page.title ++ [']', '('] ++ page.url ++ [')']) }

def titleAndUrl : CatalogEntry where
  id := "title-and-url".toList
  name := "Title and URL".toList
  description := "Copy page title and URL separately".toList
  code := ("(page) => \x7b\n" ++
    "  return \x7b\n" ++
    "    text: page.title + \"\\n\" + page.url,\n" ++
    "  \x7d;\n" ++
    "\x7d").toList
  evaluate page _ := { text := some (page.title ++ ['\n'] ++ page.url) }

/-- The template of the options, when it is a text that is not empty. -/
def templateOption (options : Options) : Text :=
  match options.bind (·.get? "template".toList) with
  | some (.text (c :: t)) => c :: t
  | _ => defaultTemplate

def customTemplate : CatalogEntry where
  id := "custom-template".toList
  name := "Custom Template".toList
  description := "Use a custom template with page data".toList
  code := ("(page) => \x7b\n" ++
    "  // Custom template - edit this\n" ++
    "  const template = \"\x7b\x7btitle\x7d\x7d - \x7b\x7burl\x7d\x7d\";\n" ++
    "  return \x7b\n" ++
    "    text: render(template, page),\n" ++
    "  \x7d;\n" ++
    "\x7d").toList
  evaluate page options := { text := some (render (templateOption options) page.lookup) }

def selectedText : CatalogEntry where
  id := "selected-text".toList
  name := "Selected Text".toList
  description := "Copy selected text or page title if nothing selected".toList
  code := ("(page) => \x7b\n" ++
    "  return \x7b\n" ++
    "    text: page.selection || page.title,\n" ++
    "  \x7d;\n" ++
    "\x7d").toList
  evaluate page _ :=
    { text := some (if page.selection.isEmpty then page.title else page.selection) }

/-- Title, address and, when the page has one, description, a line each. -/
def summaryLines (page : Page) : List Text :=
  let description := page.metaValue "description".toList
  ["Title: ".toList ++ page.title, "URL: ".toList ++ page.url] ++
    if description.isEmpty then [] else ["Description: ".toList ++ description]

def pageSummary : CatalogEntry where
  id := "page-summary".toList
  name := "Page Summary".toList
  description := "Create a summary with title, URL, and description".toList
  code := ("(page) => \x7b\n" ++
    "  const summary = [\n" ++
    "    \"Title: \" + page.title,\n" ++
    "    \"URL: \" + page.url,\n" ++
    "  ];\n" ++
    "\n" ++
    "  if (page.meta?.description) \x7b\n" ++
    "    summary.push(\"Description: \" + page.meta.description);\n" ++
    "  \x7d\n" ++
    "\n" ++
    "  return \x7b\n" ++
    "    text: summary.join(\"\\n\"),\n" ++
    "  \x7d;\n" ++
    "\x7d").toList
  evaluate page _ := { text := some (joinWith ['\n'] (summaryLines page)) }

def catalog : List CatalogEntry :=
  [richTextLink, markdownLink, titleAndUrl, customTemplate, selectedText, pageSummary]

def findEntry (id : Text) : Except Failure CatalogEntry :=
  match catalog.find? fun e => e.id == id with
  | some e => .ok e
  | none => .error (.unknownTemplate id)

def executeTemplate (id : Text) (page : Page) (options : Options) : Except Failure (Clip Text) :=
  (findEntry id).map fun e => e.evaluate page options

structure CopyFunction where
  id : Text
  code : Text := []
  templateId : Option Text := none
  options : Options := none

inductive ExecutionError where
  | failed (reason : Failure)
  | nothingToRun (id : Text)
  deriving DecidableEq, Repr

def ExecutionError.message : ExecutionError → Text
  | .failed reason => "Failed to execute function: ".toList ++ reason.message
  | .nothingToRun id => "Function ".toList ++ quoted id ++ " has no code and no template".toList

def CopyFunction.execute (f : CopyFunction) (page : Page) : Except ExecutionError (Clip Text) :=
  if !f.code.all isBlank then (extract f.code page).mapError .failed
  else match f.templateId with
    | some (c :: id) => (executeTemplate (c :: id) page f.options).mapError .failed
    | _ => .error (.nothingToRun f.id)

end PageClip
