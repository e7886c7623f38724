import LiveText.Text.Basic

/-!
# Nodes of a fragment

A fragment of markup is a list of nodes: texts, elements with nodes of their own, comments and
declarations of the document type.

## What is here

A text knows the `Region` it was written in, since the text of a script or of a template is not part
of the text of the elements around it. `textIn` collects the text of one region, `elements` lists
the elements of a fragment.
-/

set_option autoImplicit false

namespace LiveText.Markup

/-- A named value of an element. -/
structure Attribute where
  name : Text
  value : Text
  deriving DecidableEq, Repr

/-- What the text of an element is for. -/
inductive Region
  | prose
  | script
  | style
  | template
  | rubyText
  | rubyBracket
  deriving DecidableEq, Repr

/-- The region that an element opens. -/
def Region.ofElement? (name : Text) : Option Region :=
  if name = "script".toList then some script
  else if name = "style".toList then some style
  else if name = "template".toList then some template
  else if name = "rt".toList then some rubyText
  else if name = "rp".toList then some rubyBracket
  else none

/-- A node of a fragment. -/
inductive Node
  | text (region : Region) (content : Text)
  | comment (content : Text)
  | doctype (content : Text)
  | element (name : Text) (attributes : List Attribute) (children : List Node)
  deriving Repr

namespace Node

/-- A text that a reader sees. -/
def prose (t : Text) : Node := .text .prose t

end Node

/-- The name of the element of a paragraph. -/
def paragraphName : Text := "p".toList

/-- The name of the element of a tag. -/
def spanName : Text := "span".toList

mutual

/-- Whether two nodes are the same. -/
def Node.decEq : (m n : Node) → Decidable (m = n)
  | .text r t, .text s u => decidable_of_iff (r = s ∧ t = u) (by rw [Node.text.injEq])
  | .comment t, .comment u => decidable_of_iff (t = u) (by rw [Node.comment.injEq])
  | .doctype t, .doctype u => decidable_of_iff (t = u) (by rw [Node.doctype.injEq])
  | .element name as ms, .element tag bs ns =>
    have : Decidable (ms = ns) := decEqAll ms ns
    decidable_of_iff (name = tag ∧ as = bs ∧ ms = ns) (by rw [Node.element.injEq])
  | .text .., .comment _ | .text .., .doctype _ | .text .., .element .. => isFalse nofun
  | .comment _, .text .. | .comment _, .doctype _ | .comment _, .element .. => isFalse nofun
  | .doctype _, .text .. | .doctype _, .comment _ | .doctype _, .element .. => isFalse nofun
  | .element .., .text .. | .element .., .comment _ | .element .., .doctype _ => isFalse nofun

/-- Whether two lists of nodes are the same. -/
def decEqAll : (ms ns : List Node) → Decidable (ms = ns)
  | [], [] => isTrue rfl
  | [], _ :: _ => isFalse nofun
  | _ :: _, [] => isFalse nofun
  | m :: ms, n :: ns =>
    have : Decidable (m = n) := m.decEq n
    have : Decidable (ms = ns) := decEqAll ms ns
    decidable_of_iff (m = n ∧ ms = ns) (by rw [List.cons.injEq])

end

instance : DecidableEq Node := Node.decEq

/-- The value of the attribute of a name. -/
def Attribute.find? (name : Text) (attributes : List Attribute) : Option Text :=
  (attributes.find? (·.name == name)).map (·.value)

/-! ## Text -/

mutual

/-- The text of one region in a node. -/
def Node.textIn (r : Region) : Node → Text
  | .text region content => if region = r then content else []
  | .comment _ => []
  | .doctype _ => []
  | .element _ _ children => textIn r children

/-- The text of one region in a fragment. -/
def textIn (r : Region) : List Node → Text
  | [] => []
  | n :: ns => n.textIn r ++ textIn r ns

end

/-- The text of an element with this name and these children. -/
def elementText (name : Text) (children : List Node) : Text :=
  textIn ((Region.ofElement? name).getD .prose) children

/-! ## Elements -/

/-- An element without its surroundings. -/
structure Element where
  name : Text
  attributes : List Attribute
  children : List Node
  deriving DecidableEq, Repr

mutual

/-- The elements of a node, each one before its children. -/
def Node.elements : Node → List Element
  | .element name attributes children => ⟨name, attributes, children⟩ :: elements children
  | _ => []

/-- The elements of a fragment, each one before its children. -/
def elements : List Node → List Element
  | [] => []
  | n :: ns => n.elements ++ elements ns

end

end LiveText.Markup
