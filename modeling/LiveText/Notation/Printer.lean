import LiveText.Value.Basic
import LiveText.Decimal.Written

/-!
# Writing the data notation

`print` writes a value on one line, so that `read` gives the value back. Characters beyond ASCII
stand for themselves.
-/

set_option autoImplicit false

namespace LiveText.Notation

/-- A hexadecimal digit. -/
def hexChar (n : Nat) : Char := Nat.digitChar (n % 16)

/-- A character inside a text literal. -/
def printChar (c : Char) : Text :=
  if c = '"' ∨ c = '\\' then ['\\', c]
  else if c = '\n' then ['\\', 'n']
  else if c = '\r' then ['\\', 'r']
  else if c = '\t' then ['\\', 't']
  else if c.toNat < 32 ∨ c.toNat = 127 then
    ['\\', 'u', '0', '0', hexChar (c.toNat / 16), hexChar c.toNat]
  else [c]

/-- A text literal. -/
def printText (t : Text) : Text := '"' :: (t.flatMap printChar ++ ['"'])

/-- A floating-point number; the infinite ones are spelled out. -/
def printFloat (x : Float) : Text :=
  match Decimal.ofFloat x with
  | 'i' :: _ => "Infinity".toList
  | '-' :: 'i' :: _ => "-Infinity".toList
  | 'n' :: _ => "NaN".toList
  | t => t

mutual

/-- A value in the data notation. -/
def print : Value → Text
  | .null => "null".toList
  | .bool true => "true".toList
  | .bool false => "false".toList
  | .int n => Decimal.ofInt n
  | .float x => printFloat x
  | .text t => printText t
  | .list items => '[' :: (printItems items ++ [']'])
  | .object members => '\x7b' :: (printMembers members ++ ['\x7d'])

/-- The items of a list with commas between them. -/
def printItems : List Value → Text
  | [] => []
  | [v] => print v
  | v :: vs => print v ++ ',' :: printItems vs

/-- The members of an object with commas between them. -/
def printMembers : List (Text × Value) → Text
  | [] => []
  | [(k, v)] => printText k ++ ':' :: print v
  | (k, v) :: ms => printText k ++ ':' :: (print v ++ ',' :: printMembers ms)

end

end LiveText.Notation
