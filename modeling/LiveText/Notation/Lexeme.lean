import LiveText.Value.Basic

/-!
# Lexemes of the data notation

Catalogs, requests and settings arrive as text in the usual notation for plain data: lists in
brackets, objects in braces, texts in double quotes. `lexemes` takes such a text apart into
lexemes, each with the offset where it starts. A text literal that is broken is a lexeme too, which
carries its fault: whether the fault matters depends on what is expected at its place. In the same
way a whole number carries how many digits it is written with, as readers limit them.
-/

set_option autoImplicit false

namespace LiveText.Notation

open Text

/-- What can be wrong with a text in the data notation. -/
inductive Fault
  | valueExpected
  | nameExpected
  | colonExpected
  | commaExpected
  | extraData
  | unterminatedText
  | controlCharacter
  | badEscape
  | badUnicodeEscape
  /-- a whole number with so many digits, where fewer are allowed -/
  | tooManyDigits (limit digits : Nat)
  /-- a list that opens inside too many lists and objects -/
  | listTooDeep
  | objectTooDeep
  deriving DecidableEq, Repr

/-- A fault and the offset where it shows. -/
structure ReadError where
  fault : Fault
  position : Nat
  deriving DecidableEq, Repr

/-- A word of the data notation. -/
inductive Lexeme
  | openList
  | closeList
  | openObject
  | closeObject
  | comma
  | colon
  | text (t : Text)
  | plain (v : Value)
  /-- a whole number, and how many digits it is written with -/
  | whole (n : Int) (digits : Nat)
  | broken (e : ReadError)
  | junk
  | stop

/-! ## Text literals -/

/-- The value of a hexadecimal digit. -/
def hexDigit? (c : Char) : Option Nat :=
  if c.isDigit then some (c.toNat - 48)
  else if 'a' ≤ c ∧ c ≤ 'f' then some (c.toNat - 87)
  else if 'A' ≤ c ∧ c ≤ 'F' then some (c.toNat - 55)
  else none

/-- The value of four hexadecimal digits. -/
def hexQuad? (a b c d : Char) : Option Nat := do
  let a ← hexDigit? a
  let b ← hexDigit? b
  let c ← hexDigit? c
  let d ← hexDigit? d
  return ((a * 16 + b) * 16 + c) * 16 + d

/-- The character that a backslash and a letter stand for. -/
def escaped? : Char → Option Char
  | '"' => some '"'
  | '\\' => some '\\'
  | '/' => some '/'
  | 'b' => some '\x08'
  | 'f' => some '\x0c'
  | 'n' => some '\n'
  | 'r' => some '\r'
  | 't' => some '\t'
  | _ => none

/-- The character with a code; half of a surrogate pair stands for the replacement character. -/
def charOfCode (n : Nat) : Char :=
  if 0xD800 ≤ n ∧ n < 0xE000 then '\uFFFD' else Char.ofNat n

/-- The character that two halves of a surrogate pair stand for. -/
def pairOfCodes? (high low : Nat) : Option Char :=
  if 0xD800 ≤ high ∧ high < 0xDC00 ∧ 0xDC00 ≤ low ∧ low < 0xE000 then
    some (Char.ofNat (0x10000 + (high - 0xD800) * 0x400 + (low - 0xDC00)))
  else none

/-- Reads a text literal behind its opening quote: its content and the number of characters it
takes, the closing quote included. `start` is the offset of the opening quote, `pos` the one where
reading is. -/
def textLiteral (start pos : Nat) : Text → Except ReadError (Text × Nat)
  | [] => .error ⟨.unterminatedText, start⟩
  | '"' :: _ => .ok ([], 1)
  | ['\\'] => .error ⟨.unterminatedText, start⟩
  | '\\' :: 'u' :: a :: b :: c :: d :: e :: t =>
    match hexQuad? a b c d with
    | none => .error ⟨.badUnicodeEscape, pos + 1⟩
    | some n =>
      match pairAhead n e t with
      | .error () => .error ⟨.badUnicodeEscape, pos + 7⟩
      | .ok (some p) =>
        match t with
        | _ :: _ :: _ :: _ :: _ :: t =>
          (textLiteral start (pos + 12) t).map fun (u, k) => (p :: u, k + 12)
        | _ => .error ⟨.badUnicodeEscape, pos + 7⟩
      | .ok none =>
        (textLiteral start (pos + 6) (e :: t)).map fun (u, k) => (charOfCode n :: u, k + 6)
  | '\\' :: 'u' :: _ => .error ⟨.badUnicodeEscape, pos + 1⟩
  | '\\' :: c :: t =>
    match escaped? c with
    | some d => (textLiteral start (pos + 2) t).map fun (u, k) => (d :: u, k + 2)
    | none => .error ⟨.badEscape, pos⟩
  | c :: t =>
    if c.toNat < 32 then .error ⟨.controlCharacter, pos⟩
    else (textLiteral start (pos + 1) t).map fun (u, k) => (c :: u, k + 1)
where
  /-- The character that a first half and the escape behind it stand for. An escape behind a first
  half must be well formed even where it is no second half. -/
  pairAhead (high : Nat) (e : Char) (t : Text) : Except Unit (Option Char) :=
    if 0xD800 ≤ high ∧ high < 0xDC00 then
      match e, t with
      | '\\', 'u' :: a :: b :: c :: d :: _ :: _ =>
        match hexQuad? a b c d with
        | some low => .ok (pairOfCodes? high low)
        | none => .error ()
      | _, _ => .ok none
    else .ok none

/-! ## Numbers -/

/-- The number that decimal digits stand for. -/
def decimalNumber (t : Text) : Nat := t.foldl (fun n c => 10 * n + (c.toNat - 48)) 0

/-- The floating-point number nearest to `digits * 10 ^ exponent`. Exponents far outside the range
are answered at once. -/
def nearestFloat (digits : Nat) (exponent : Int) : Float :=
  let size := (Nat.toDigits 10 digits).length + exponent
  if digits = 0 then 0.0
  else if size > 310 then 1.0 / 0.0
  else if size < -330 then 0.0
  else Float.ofScientific digits (exponent < 0) exponent.natAbs

/-- The exponent part behind a number: its value and its length. -/
def exponentPart (t : Text) : Option (Int × Nat) :=
  match t with
  | e :: t =>
    if e = 'e' ∨ e = 'E' then
      let (sign, signLength, t) : Bool × Nat × Text := match t with
        | '-' :: t => (true, 1, t)
        | '+' :: t => (false, 1, t)
        | t => (false, 0, t)
      match t.takeWhile Char.isDigit with
      | [] => none
      | ds =>
        let n : Int := decimalNumber ds
        some (if sign then -n else n, 1 + signLength + ds.length)
    else none
  | [] => none

/-- Reads an unsigned number: its value and the number of characters it takes. -/
def unsignedNumber? (negative : Bool) (t : Text) : Option (Value × Nat) :=
  let whole : Text := match t with
    | '0' :: _ => ['0']
    | t => t.takeWhile Char.isDigit
  if whole.isEmpty then none
  else
    let t := t.drop whole.length
    let fraction : Text := match t with
      | '.' :: t => t.takeWhile Char.isDigit
      | _ => []
    let fractionLength := if fraction.isEmpty then 0 else fraction.length + 1
    let t := t.drop fractionLength
    let length := whole.length + fractionLength
    let signed (x : Float) : Float := if negative then -x else x
    match exponentPart t with
    | some (e, n) =>
      some (.float (signed (nearestFloat (decimalNumber (whole ++ fraction))
        (e - fraction.length))), length + n)
    | none =>
      if fraction.isEmpty then
        let n : Int := decimalNumber whole
        some (.int (if negative then -n else n), length)
      else
        some (.float (signed (nearestFloat (decimalNumber (whole ++ fraction))
          (-(fraction.length : Int)))), length)

/-- Reads a number with its sign. -/
def number? : Text → Option (Value × Nat)
  | '-' :: t => (unsignedNumber? true t).map fun (v, n) => (v, n + 1)
  | t => unsignedNumber? false t

/-! ## Lexemes -/

/-- The words that stand for values. -/
def words : List (String × Value) :=
  [("null", .null), ("true", .bool true), ("false", .bool false),
   ("NaN", .float (0.0 / 0.0)), ("Infinity", .float (1.0 / 0.0)),
   ("-Infinity", .float (-1.0 / 0.0))]

/-- Reads a word. -/
def word? (t : Text) : Option (Value × Nat) :=
  words.findSome? fun (w, v) => if w.toList.isPrefixOf t then some (v, w.length) else none

/-- The lexeme at the start of a text, which is not empty and starts with no blank, and the number
of characters it takes. -/
def lexeme (pos : Nat) (t : Text) : Lexeme × Nat :=
  match t with
  | '[' :: _ => (.openList, 1)
  | ']' :: _ => (.closeList, 1)
  | '\x7b' :: _ => (.openObject, 1)
  | '\x7d' :: _ => (.closeObject, 1)
  | ',' :: _ => (.comma, 1)
  | ':' :: _ => (.colon, 1)
  | '"' :: t =>
    match textLiteral pos (pos + 1) t with
    | .ok (u, n) => (.text u, n + 1)
    | .error e => (.broken e, 1)
  | t =>
    match (word? t).or (number? t) with
    | some (.int k, n) => (.whole k ((t.take n).countP Char.isDigit), n)
    | some (v, n) => (.plain v, n)
    | none => (.junk, 1)

/-- The blanks between lexemes. -/
def isGap (c : Char) : Bool := c == ' ' || c == '\t' || c == '\n' || c == '\r'

/-- The lexemes of a text whose first character has the offset `pos`. The next `skip` characters
belong to a lexeme that has been read. -/
def lexemesFrom (pos : Nat) : Nat → Text → List (Nat × Lexeme)
  | _, [] => [(pos, .stop)]
  | skip + 1, _ :: t => lexemesFrom (pos + 1) skip t
  | 0, c :: t =>
    if isGap c then lexemesFrom (pos + 1) 0 t
    else
      let (l, n) := lexeme pos (c :: t)
      (pos, l) :: lexemesFrom (pos + 1) (n - 1) t

/-- The lexemes of a text, with their offsets; the last one is `stop`. -/
def lexemes (t : Text) : List (Nat × Lexeme) := lexemesFrom 0 0 t

end LiveText.Notation
