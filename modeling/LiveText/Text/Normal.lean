import LiveText.Text.NormalTable

/-!
# Compatibility normalization

`compatible` brings a text into the Unicode normal form NFKC: every character is replaced by its
full compatibility decomposition, combining marks are put into the order of their classes, and
neighbours are composed again where a composite exists. Full-width letters become ordinary ones,
ligatures fall apart, a letter and its accent become one character.
-/

set_option autoImplicit false

namespace LiveText.Text

/-! ## Hangul syllables -/

/-- The Hangul syllable with a number, counted from the first one. -/
def hangul (n : Nat) : Char := Char.ofNat (0xAC00 + n)

/-- The number of a Hangul syllable. -/
def hangulNumber? (c : Char) : Option Nat :=
  if 0xAC00 ≤ c.toNat && c.toNat < 0xAC00 + 11172 then some (c.toNat - 0xAC00) else none

/-- The letters that a Hangul syllable consists of. -/
def hangulLetters (n : Nat) : Text :=
  let lead := Char.ofNat (0x1100 + n / 588)
  let vowel := Char.ofNat (0x1161 + n % 588 / 28)
  if n % 28 = 0 then [lead, vowel] else [lead, vowel, Char.ofNat (0x11A7 + n % 28)]

/-- The Hangul syllable that a letter or a syllable and the letter behind it make up. -/
def hangulComposite? (a b : Char) : Option Char :=
  let l := a.toNat
  let v := b.toNat
  if 0x1100 ≤ l && l < 0x1113 && 0x1161 ≤ v && v < 0x1176 then
    some (hangul (((l - 0x1100) * 21 + (v - 0x1161)) * 28))
  else match hangulNumber? a with
    | some n =>
      if n % 28 = 0 && 0x11A8 ≤ v && v < 0x11C3 then some (hangul (n + (v - 0x11A7))) else none
    | none => none

/-! ## The three steps -/

/-- The full compatibility decomposition of one character. -/
def decomposeChar (c : Char) : Text :=
  if c.toNat < 128 then [c]
  else match hangulNumber? c with
    | some n => hangulLetters n
    | none => decompositionTable.image c

/-- The combining class of a character; starters have class zero. -/
def combiningClass (c : Char) : Nat :=
  if c.toNat < 128 then 0 else combiningClassTable.getD c.toNat 0

/-- Puts a mark in front of a text in which the marks at the start are in order. -/
def insertMark (c : Char) : Text → Text
  | [] => [c]
  | d :: ds =>
    if combiningClass d != 0 && combiningClass d < combiningClass c then d :: insertMark c ds
    else c :: d :: ds

/-- The text with every run of combining marks in the order of their classes. -/
def orderMarks (t : Text) : Text := t.foldr insertMark []

/-- The character that two characters compose to. -/
def composite? (a b : Char) : Option Char :=
  (hangulComposite? a b).or ((compositeTable[(a.toNat, b.toNat)]?).map Char.ofNat)

/-- Composes the rest of a text behind a starter and the marks behind it that did not compose with
it, which are given last first. -/
def composeBehind (starter : Char) (marks : Text) : Text → Text
  | [] => starter :: marks.reverse
  | c :: cs =>
    let free := match marks with
      | [] => true
      | m :: _ => combiningClass m < combiningClass c
    match if free then composite? starter c else none with
    | some d => composeBehind d marks cs
    | none =>
      if combiningClass c = 0 then starter :: (marks.reverse ++ composeBehind c [] cs)
      else composeBehind starter (c :: marks) cs

/-- Composes each starter of a text with the marks behind it. -/
def compose : Text → Text
  | [] => []
  | c :: cs => if combiningClass c = 0 then composeBehind c [] cs else c :: compose cs

/-- The compatibility normal form of a text. -/
def compatible (t : Text) : Text := compose (orderMarks (t.flatMap decomposeChar))

end LiveText.Text
