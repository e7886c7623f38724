import LiveText.Notation.Lexeme

/-!
# Escapes in addresses

A character that may not stand in a part of an address is written as the bytes of its encoding,
each in two hexadecimal digits behind a percent sign. What may stand differs from part to part; a
percent sign may stand everywhere, so that escapes which are there already stay.
-/

set_option autoImplicit false

namespace LiveText.Http

open Notation (hexDigit?)

/-- A byte in two hexadecimal digits, behind a percent sign. -/
def escapedByte (b : UInt8) : Text :=
  let digit (n : Nat) : Char := if n < 10 then Char.ofNat (48 + n) else Char.ofNat (55 + n)
  ['%', digit (b.toNat / 16), digit (b.toNat % 16)]

/-- The text with the characters that are not kept escaped, byte by byte. -/
def escape (kept : Char → Bool) (t : Text) : Text :=
  t.flatMap fun c => if kept c then [c] else (String.utf8EncodeChar c).flatMap escapedByte

/-- The text with the escapes of ASCII characters undone. -/
def unescape : Text → Text
  | '%' :: a :: b :: t =>
    match (hexDigit? a).bind fun a => (hexDigit? b).map fun b => a * 16 + b with
    | some n => if n < 128 then Char.ofNat n :: unescape t else '%' :: a :: b :: unescape t
    | none => '%' :: unescape (a :: b :: t)
  | c :: t => c :: unescape t
  | [] => []

/-! ## What may stand -/

/-- The printable characters of ASCII, apart from the space and from some others. -/
def printableBut (others : String) (c : Char) : Bool :=
  32 < c.toNat && c.toNat < 127 && !others.toList.contains c

/-- The characters that a path may hold. -/
def inPath : Char → Bool := printableBut "\"#<>?`\x7b\x7d"

/-- The characters that a query may hold. -/
def inQuery : Char → Bool := printableBut "\"#<>"

/-- The characters that a fragment may hold. -/
def inFragment : Char → Bool := printableBut "\"<>`"

/-- The characters that the name of a user may hold. -/
def inUser : Char → Bool := printableBut "\"#<>?`\x7b\x7d/;=@[\\]^|"

/-- The characters that the name of a host may hold. -/
def inHost : Char → Bool := printableBut "#/:<>?@[]^"

/-! ## Cuts -/

/-- What stands before the first separator, and what stands behind it if there is one. -/
def cutAt (separator : Char) (t : Text) : Text × Option Text :=
  match t.dropWhile (· ≠ separator) with
  | [] => (t, none)
  | _ :: r => (t.takeWhile (· ≠ separator), some r)

/-- What stands before the last separator, if there is one, and what stands behind it. -/
def cutAtLast (separator : Char) (t : Text) : Option Text × Text :=
  match cutAt separator t.reverse with
  | (behind, some before) => (some before.reverse, behind.reverse)
  | (_, none) => (none, t)

end LiveText.Http
