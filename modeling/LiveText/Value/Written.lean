import LiveText.Value.Basic
import LiveText.Decimal.Written
import LiveText.Text.Quoted

/-!
# Values as text

What a catalog value looks like in a document. A text stands for itself; inside lists and objects
texts are quoted.
-/

set_option autoImplicit false

namespace LiveText.Value

mutual

/-- A value as a member of a list or an object. -/
def quoted : Value → Text
  | null => "None".toList
  | bool true => "True".toList
  | bool false => "False".toList
  | int n => Decimal.ofInt n
  | float x => Decimal.ofFloat x
  | text t => Text.quoted t
  | list items => '[' :: (quotedItems items ++ [']'])
  | object members => '\x7b' :: (quotedMembers members ++ ['\x7d'])

/-- The items of a list, with a comma and a space between neighbours. -/
def quotedItems : List Value → Text
  | [] => []
  | [v] => quoted v
  | v :: vs => quoted v ++ ',' :: ' ' :: quotedItems vs

/-- The members of an object, with a comma and a space between neighbours. -/
def quotedMembers : List (Text × Value) → Text
  | [] => []
  | [(k, v)] => Text.quoted k ++ ':' :: ' ' :: quoted v
  | (k, v) :: ms => Text.quoted k ++ ':' :: ' ' :: (quoted v ++ ',' :: ' ' :: quotedMembers ms)

end

/-- A value as text. -/
def written : Value → Text
  | text t => t
  | v => quoted v

end LiveText.Value
