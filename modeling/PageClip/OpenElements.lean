import PageClip.Markup
import PageClip.MarkupToken

/-! From tokens to a tree. Elements that are left out are supplied, an opening tag ends the
elements that cannot hold it, and a closing tag that matches nothing is passed over. -/

namespace PageClip

/-- An element that is still open, its children with the last one first. -/
structure OpenElement where
  name : Text
  attributes : Dict Text
  children : List Markup

/-- The open elements, innermost first, over the finished forest. -/
structure OpenElements where
  finished : List Markup
  stack : List OpenElement
  headSeen : Bool
  bodySeen : Bool
  passedOver : Nat

def OpenElements.start : OpenElements := ⟨[], [], false, false, 0⟩

def words (t : String) : List Text := splitAtChar ' ' t.toList

/-- An open element and the opening tags that end it. -/
def endedBy : List (Text × List Text) :=
  [("a", "a fieldset table td th"),
   ("address", "dd dl dt form li ul"),
   ("b", "center p td th"),
   ("big", "p"),
   ("caption", "col colgroup tbody tfoot thead tr"),
   ("col", "col colgroup tbody tfoot thead tr"),
   ("colgroup", "colgroup tbody tfoot thead tr"),
   ("dd", "dt"),
   ("dir", "dd dl dt form ul"),
   ("dl", "form li"),
   ("dt", "dd dl"),
   ("font", "center td th"),
   ("form", "form"),
   ("h1", "fieldset form li p table"),
   ("h2", "fieldset form li p table"),
   ("h3", "fieldset form li p table"),
   ("h4", "fieldset form li p table"),
   ("h5", "fieldset form li p table"),
   ("h6", "fieldset form li p table"),
   ("head", "a abbr acronym address b bdo big blockquote body br center cite code dd dfn dir div " ++
     "dl dt em fieldset font form frameset h1 h2 h3 h4 h5 h6 hr i iframe img kbd li listing map " ++
     "menu ol p pre q s samp small span strike strong sub sup table tt u ul var xmp"),
   ("hr", "form"),
   ("i", "center"),
   ("legend", "fieldset"),
   ("li", "li"),
   ("link", "body frameset"),
   ("listing", "dd dl dt fieldset form li table ul"),
   ("menu", "dd dl dt form ul"),
   ("ol", "form"),
   ("option", "optgroup option"),
   ("p", "address blockquote body caption center col colgroup dd dir div dl dt frameset h1 h2 h3 " ++
     "h4 h5 h6 head hr li listing menu ol p pre table tbody td tfoot th title tr ul xmp"),
   ("pre", "dd dl dt fieldset form li table ul"),
   ("s", "p"),
   ("script", "noscript"),
   ("small", "p"),
   ("span", "td th"),
   ("strike", "p"),
   ("style", "body frameset"),
   ("tbody", "tbody tfoot"),
   ("td", "tbody td tfoot th tr"),
   ("tfoot", "tbody"),
   ("th", "tbody td tfoot th tr"),
   ("thead", "tbody tfoot"),
   ("title", "body frameset"),
   ("tr", "tbody tfoot tr"),
   ("tt", "p"),
   ("u", "p td th"),
   ("ul", "address form menu pre"),
   ("xmp", "dd dl dt fieldset form li table ul")].map fun e => (e.1.toList, words e.2)

def ends (tag name : Text) : Bool := endedBy.any fun e => e.1 == name && e.2.contains tag

/-- Elements that have no content. -/
def voidNames : List Text :=
  words "area base basefont br col frame hr img input isindex link meta param"

/-- Elements that belong to the head. -/
def headNames : List Text := words "script style meta link title base"

def frameNames : List Text := words "noframes frame frameset"

/-- A closing tag does not reach past an open element of a higher rank. -/
def closingRank (name : Text) : Nat :=
  let ranks := [("div", 150), ("td", 160), ("th", 160), ("tr", 170), ("thead", 180),
    ("tbody", 180), ("tfoot", 180), ("table", 190), ("head", 200), ("body", 200), ("html", 220)]
  ((ranks.find? fun e => e.1.toList == name).map (·.2)).getD 100

def OpenElement.closed (e : OpenElement) : Markup :=
  .element e.name e.attributes e.children.reverse

/-- Adds a node behind its siblings, a text to the text in front of it. -/
def addNode (node : Markup) (siblings : List Markup) : List Markup :=
  match node, siblings with
  | .text t, .text before :: rest => .text (before ++ t) :: rest
  | m, rest => m :: rest

namespace OpenElements

def current? (o : OpenElements) : Option Text := o.stack.head?.map (·.name)

def isOpen (o : OpenElements) (name : String) : Bool :=
  o.stack.any fun e => e.name == name.toList

def add (o : OpenElements) (node : Markup) : OpenElements :=
  match o.stack with
  | [] => { o with finished := addNode node o.finished }
  | e :: rest => { o with stack := { e with children := addNode node e.children } :: rest }

def push (o : OpenElements) (name : Text) (attributes : Dict Text) : OpenElements :=
  { o with
    stack := ⟨name, attributes, []⟩ :: o.stack
    headSeen := o.headSeen || name == "head".toList || name == "body".toList
    bodySeen := o.bodySeen || name == "body".toList }

/-- Closes the innermost element. -/
def pop (o : OpenElements) : OpenElements :=
  match o.stack with
  | [] => o
  | e :: rest => { o with stack := rest }.add e.closed

def popTimes : Nat → OpenElements → OpenElements
  | 0, o => o
  | n + 1, o => popTimes n o.pop

/-- Closes the innermost elements that a tag ends. -/
def endFor (o : OpenElements) (tag : Text) : OpenElements :=
  popTimes (o.stack.takeWhile fun e => ends tag e.name).length o

/-- Supplies the outer elements that a tag needs around it. -/
def supplyFor (o : OpenElements) (tag : Text) : OpenElements :=
  if tag == "html".toList then o
  else
    let o := if o.stack.isEmpty then o.push "html".toList [] else o
    if tag == "head".toList || tag == "body".toList then o
    else if o.stack.length ≤ 1 && headNames.contains tag then
      if o.headSeen then o else o.push "head".toList []
    else if frameNames.contains tag || o.bodySeen || o.isOpen "head" then o
    else o.push "body".toList []

/-- Whether a tag of the document's frame stands where it cannot. -/
def isMisplaced (o : OpenElements) (tag : Text) : Bool :=
  (tag == "html".toList && !o.stack.isEmpty) ||
    (tag == "head".toList && o.stack.length != 1) ||
    (tag == "body".toList && o.isOpen "body")

def openTag (o : OpenElements) (tag : Text) (attributes : Dict Text) (closed : Bool)
    (content : Text) : OpenElements :=
  let o := (o.endFor tag).supplyFor tag
  if o.isMisplaced tag then { o with passedOver := o.passedOver + 1 }
  else
    let o := o.push tag attributes
    if closed || voidNames.contains tag then o.pop
    else if content.isEmpty then o
    else o.add (.text content)

def closeTag (o : OpenElements) (tag : Text) : OpenElements :=
  if 0 < o.passedOver && (words "html head body").contains tag then
    { o with passedOver := o.passedOver - 1 }
  else
    let inner := o.stack.takeWhile fun e => e.name != tag
    if inner.length == o.stack.length then o
    else if inner.any fun e => closingRank tag < closingRank e.name then o
    else popTimes (inner.length + 1) o

/-- Whether the innermost element cannot hold text itself. -/
def needsParagraph (o : OpenElements) : Bool :=
  match o.current? with
  | some name => name == "html".toList || name == "head".toList
  | none => true

/-- Text outside the body goes into a paragraph; the blanks in front of it stay outside. -/
def addText (o : OpenElements) (t : Text) : OpenElements :=
  if !o.needsParagraph then o.add (.text t)
  else
    let blanks := t.takeWhile isMarkupBlank
    let o := if blanks.isEmpty then o else o.add (.text blanks)
    match t.dropWhile isMarkupBlank with
    | [] => o
    | c :: rest =>
      let p := "p".toList
      (((o.endFor p).supplyFor p).push p []).add (.text (c :: rest))

def addToken (o : OpenElements) : MarkupToken → OpenElements
  | .text t => o.addText t
  | .opening tag attributes closed content => o.openTag tag attributes closed content
  | .closing tag => o.closeTag tag
  | .note => o.add .note

def read (o : OpenElements) (t : Text) : OpenElements :=
  match _h : markupToken? t with
  | none => o
  | some (token, rest) => (o.addToken token).read rest
termination_by t.length
decreasing_by exact markupToken?_length _h

/-- The forest, every open element closed. -/
def forest (o : OpenElements) : List Markup := (popTimes o.stack.length o).finished.reverse

end OpenElements

/-- The tree of a document. A byte order mark in front of it is no part of it. -/
def parseMarkup (document : Text) : List Markup :=
  let t := match document with
    | '\ufeff' :: t => t
    | t => t
  (OpenElements.start.read (plainInput t)).forest

end PageClip
