import PageClip.Dict

/-! Markup as a tree, and the parts of it that a page is read from. -/

namespace PageClip

/-- A note is a comment or a declaration. It holds no text but keeps the texts around it
apart. -/
inductive Markup where
  | text (t : Text)
  | note
  | element (name : Text) (attributes : Dict Text) (children : List Markup)

/-- An element without its place in the tree. -/
structure Element where
  name : Text
  attributes : Dict Text
  children : List Markup

mutual

def Markup.elements : Markup → List Element
  | .element name attributes children => ⟨name, attributes, children⟩ :: allElements children
  | _ => []

/-- The elements of a forest in document order. -/
def allElements : List Markup → List Element
  | [] => []
  | m :: ms => m.elements ++ allElements ms

end

mutual

def Markup.texts : Markup → List Text
  | .text t => [t]
  | .note => []
  | .element _ _ children => allTexts children

/-- The texts of a forest in document order. -/
def allTexts : List Markup → List Text
  | [] => []
  | m :: ms => m.texts ++ allTexts ms

end

mutual

def Markup.muted (silent : List Text) (quiet : Bool) : Markup → Markup
  | .text t => if quiet then .note else .text t
  | .note => .note
  | .element name attributes children =>
    .element name attributes (mutedIn silent (quiet || silent.contains name) children)

/-- Turns the texts below the silent elements into notes. -/
def mutedIn (silent : List Text) (quiet : Bool) : List Markup → List Markup
  | [] => []
  | m :: ms => m.muted silent quiet :: mutedIn silent quiet ms

end

mutual

def Markup.pruned (hidden : List Text) : Markup → List Markup
  | .element name attributes children =>
    if hidden.contains name then [] else [.element name attributes (prunedOf hidden children)]
  | m => [m]

/-- Removes the hidden elements with all that is below them. -/
def prunedOf (hidden : List Text) : List Markup → List Markup
  | [] => []
  | m :: ms => m.pruned hidden ++ prunedOf hidden ms

end

/-- The children of the first element of a name. -/
def firstNamed (name : String) (forest : List Markup) : Option (List Markup) :=
  ((allElements forest).find? fun e => e.name == name.toList).map (·.children)

end PageClip
