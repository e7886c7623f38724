import LiveText.Document.Tag
import LiveText.Markup.Fragment
import LiveText.Resolution

/-!
# Resolving a document

`Snapshot.resolveDocument` puts the current values into a document: a variable tag is replaced by
the value of its record, and identifiers in texts are resolved as in any text. Where a variable tag
refers to no record, its identifier is put in its place.
-/

set_option autoImplicit false

namespace LiveText.Snapshot

open Markup

/-- What stands for a variable tag in a resolved document. -/
def valueOfTag (s : Snapshot) (e : Element) : Text :=
  match s.resolveText e.identifierText with
  | some r => r.value
  | none => e.identifierText

/-- A text that resolving changes is text that a reader sees from then on. -/
def resolveString (s : Snapshot) (t : Text) (asItWas : Node) : Node :=
  if s.resolveIn t = t then asItWas else .prose (s.resolveIn t)

mutual

/-- A node with the values put in. -/
def resolveNode (s : Snapshot) : Node → Node
  | .text region t => s.resolveString t (.text region t)
  | .comment t => s.resolveString t (.comment t)
  | .doctype t => s.resolveString t (.doctype t)
  | .element name as children =>
    if marksVariable as then .prose (s.valueOfTag ⟨name, as, children⟩)
    else .element name as (s.resolveNodes children)

/-- Nodes with the values put in. -/
def resolveNodes (s : Snapshot) : List Node → List Node
  | [] => []
  | n :: ns => s.resolveNode n :: s.resolveNodes ns

end

/-- A document with the values put in. -/
def resolveDocument (s : Snapshot) (html : Text) : Text := write (s.resolveNodes (read html))

end LiveText.Snapshot
