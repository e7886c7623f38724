import LiveText.Text.Basic

/-!
# Catalog values

The entries of a catalog are trees of plain data, whose shape has changed over time. `Value` is
such a tree; whole and floating-point numbers are told apart, and the members of an object keep
their order.
-/

set_option autoImplicit false

namespace LiveText

/-- A tree of plain data. -/
inductive Value
  | null
  | bool (b : Bool)
  | int (n : Int)
  | float (x : Float)
  | text (t : Text)
  | list (items : List Value)
  | object (members : List (Text × Value))
  deriving Inhabited

namespace Value

/-- Whether a value counts as missing: nothing, false, zero, or without content. -/
def isBlank : Value → Bool
  | null => true
  | bool b => !b
  | int n => n == 0
  | float x => x == 0
  | text t => t.isEmpty
  | list items => items.isEmpty
  | object members => members.isEmpty

/-- The value, unless it counts as missing. -/
def present? (v : Value) : Option Value := if v.isBlank then none else some v

/-- The member of an object under a key; other values have no members. -/
def get? (key : String) : Value → Option Value
  | object members => (members.find? fun m => m.1 == key.toList).map Prod.snd
  | _ => none

/-- The member of an object under a key, `null` where there is none. -/
def get (key : String) (v : Value) : Value := (v.get? key).getD null

/-- The member of an object under a key, unless it counts as missing. -/
def getPresent? (key : String) (v : Value) : Option Value := (v.get key).present?

/-- Whether the value is an object. -/
def isObject : Value → Bool
  | object _ => true
  | _ => false

/-- The word for the kind of a value. -/
def kindWord : Value → String
  | null => "NoneType"
  | bool _ => "bool"
  | int _ => "int"
  | float _ => "float"
  | text _ => "str"
  | list _ => "list"
  | object _ => "dict"

/-- Puts a member into an object under construction; a key that is there already keeps its
place. -/
def putMember (members : List (Text × Value)) (key : Text) (v : Value) : List (Text × Value) :=
  match members with
  | [] => [(key, v)]
  | m :: ms => if m.1 = key then (key, v) :: ms else m :: putMember ms key v

end Value
end LiveText
