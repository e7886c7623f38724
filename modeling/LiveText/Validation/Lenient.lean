import LiveText.Decimal.Written
import LiveText.Notation.Lexeme
import LiveText.Validation.Basic

/-!
# Lenient checks

Settings come from people and from environments in which everything is a text; so numbers and
switches are also taken from texts that spell them, and from other plain data that mean them. Texts
themselves are never made up from other data.

## What is here

* `switch?`, `wholeNumber?` and `floatNumber?` are the readers of spelled switches and numbers.
* `checkBool`, `checkInt`, `checkFloat` and `checkTexts` are the checks that use them.
-/

set_option autoImplicit false

namespace LiveText

/-! ## Spelled data -/

/-- The words for a switch that is on. -/
def onWords : List Text := ["1", "t", "y", "on", "yes", "true"].map String.toList

/-- The words for a switch that is off. -/
def offWords : List Text := ["0", "f", "n", "no", "off", "false"].map String.toList

/-- The switch that a text spells; the case of its letters does not matter. -/
def switch? (t : Text) : Option Bool :=
  let t := t.map Char.toLower
  if onWords.contains t then some true
  else if offWords.contains t then some false
  else none

/-- The text without the underscores that group its characters; each must stand between two
others. -/
def ungrouped? (t : Text) : Option Text :=
  if t.head? = some '_' ∨ t.getLast? = some '_' ∨ Text.occursIn ['_', '_'] t then none
  else some (t.filter (· ≠ '_'))

/-- The sign of a spelled number, and what follows it. -/
def splitSign : Text → Bool × Text
  | '-' :: t => (true, t)
  | '+' :: t => (false, t)
  | t => (false, t)

/-- The text without a fraction of zeros at its end. -/
def dropZeroFraction (t : Text) : Text :=
  match t.dropWhile (· ≠ '.') with
  | '.' :: fraction => if fraction.all (· == '0') then t.takeWhile (· ≠ '.') else t
  | _ => t

/-- The whole number that a text spells. Blanks around it do not matter. -/
def wholeNumber? (t : Text) : Option Int := do
  let (negative, t) := splitSign (Text.trim t)
  let digits ← ungrouped? (dropZeroFraction t)
  if digits.isEmpty || !digits.all Char.isDigit then none
  else
    let n : Int := Notation.decimalNumber digits
    some (if negative then -n else n)

/-- The unsigned floating-point number that a text spells. -/
def unsignedFloat? (t : Text) : Option Float :=
  let word := t.map Char.toLower
  if word = "inf".toList ∨ word = "infinity".toList then some (1.0 / 0.0)
  else if word = "nan".toList then some (0.0 / 0.0)
  else
    let whole := t.takeWhile Char.isDigit
    let rest := t.dropWhile Char.isDigit
    let fraction := match rest with
      | '.' :: r => r.takeWhile Char.isDigit
      | _ => []
    let rest := match rest with
      | '.' :: r => r.dropWhile Char.isDigit
      | r => r
    let value (exponent : Int) : Float :=
      Notation.nearestFloat (Notation.decimalNumber (whole ++ fraction))
        (exponent - fraction.length)
    if whole.isEmpty && fraction.isEmpty then none
    else match rest with
      | [] => some (value 0)
      | _ =>
        match Notation.exponentPart rest with
        | some (e, n) => if n = rest.length then some (value e) else none
        | none => none

/-- The floating-point number that a text spells. Blanks around it do not matter. -/
def floatNumber? (t : Text) : Option Float := do
  let (negative, t) := splitSign (← ungrouped? (Text.trim t))
  let x ← unsignedFloat? t
  return if negative then -x else x

/-! ## Whole floating-point numbers -/

/-- The bound on whole numbers that fit a machine word. -/
def wordBound : Int := Nat.pow 2 63

/-- The whole part of a finite floating-point number. -/
def truncated (x : Float) : Int :=
  let n : Int := x.abs.toUInt64.toNat
  if x < 0 then -n else n

/-- Whether a floating-point number is whole. -/
def isWhole (x : Float) : Bool := x.floor == x

/-- The check that a floating-point number is a whole number of a machine word. -/
def checkWhole (location : List Text) (x : Float) : Checked Int :=
  if !x.isFinite then .error [⟨location, .notFinite⟩]
  else if !isWhole x then .error [⟨location, .fractionalInt⟩]
  else if x.abs ≥ Float.ofScientific 9223372036854775808 false 0 then
    .error [⟨location, .oversizedInt⟩]
  else .ok (truncated x)

/-! ## Checks -/

/-- The longest spelling of a whole number that is read. -/
def longestSpelling : Nat := 4300

/-- The check of a whole number. -/
def checkInt (location : List Text) : Value → Checked Int
  | .int n => .ok n
  | .bool b => .ok (if b then 1 else 0)
  | .float x => checkWhole location x
  | .text t =>
    if longestSpelling < t.length then .error [⟨location, .oversizedInt⟩]
    else match wholeNumber? t with
      | some n => .ok n
      | none => .error [⟨location, .unreadableInt⟩]
  | _ => .error [⟨location, .notInt⟩]

/-- The check of a floating-point number. A whole number is taken for one unless it is out of
range. -/
def checkFloat (location : List Text) : Value → Checked Float
  | .float x => .ok x
  | .bool b => .ok (if b then 1 else 0)
  | .int n =>
    let x := Notation.nearestFloat n.natAbs 0
    if x.isInf then .error [⟨location, .notFloat⟩] else .ok (if n < 0 then -x else x)
  | .text t =>
    match floatNumber? t with
    | some x => .ok x
    | none => .error [⟨location, .unreadableFloat⟩]
  | _ => .error [⟨location, .notFloat⟩]

/-- The check that a whole number means a switch. -/
def checkBit (location : List Text) (n : Int) : Checked Bool :=
  if n = 0 then .ok false
  else if n = 1 then .ok true
  else .error [⟨location, .unreadableBool⟩]

/-- The check of a switch. -/
def checkBool (location : List Text) : Value → Checked Bool
  | .bool b => .ok b
  | .int n =>
    if -wordBound ≤ n ∧ n < wordBound then checkBit location n
    else .error [⟨location, .notBool⟩]
  | .float x =>
    match checkWhole location x with
    | .ok n => checkBit location n
    | .error _ => .error [⟨location, .notBool⟩]
  | .text t =>
    match switch? t with
    | some b => .ok b
    | none => .error [⟨location, .unreadableBool⟩]
  | _ => .error [⟨location, .notBool⟩]

/-- The check of a list of texts; every item that is no text is an issue. -/
def checkTexts (location : List Text) : Value → Checked (List Text)
  | .list items =>
    items.zipIdx.foldr
      (fun (v, i) rest =>
        (fun t ts => t :: ts) <$> checkText (location ++ [Decimal.ofNat i]) v <*> rest)
      (.ok [])
  | _ => .error [⟨location, .notList⟩]

end LiveText
