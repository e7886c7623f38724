import LiveText.Markup.NamedCharacter

/-!
# Character references

Behind an ampersand, markup names a character: by its number, as in `&#65;` and `&#x41;`, or by a
name, as in `&amp;`. An ampersand that no reference follows stands for itself.

## What is here

* `reference?` reads what follows an ampersand, `decode` a whole text.
* `escape` writes the three characters that markup is made of as references; `decode_escape` says
  that they are read back.
-/

set_option autoImplicit false

namespace LiveText.Markup

open Text

/-- Where a text stands that holds references. -/
inductive Place
  /-- between tags -/
  | content
  /-- in the value of an attribute, where a loose name must not run on -/
  | value
  /-- in a text whose tags were cut off by eye, where numbers that no text holds are dropped -/
  | bare
  deriving DecidableEq, Repr

/-! ## Numbers -/

/-- The value of a digit in some base up to sixteen. -/
def digitValue (c : Char) : Nat :=
  if c.isDigit then c.toNat - 48
  else if c.isLower then c.toNat - 87
  else c.toNat - 55

/-- The number that digits stand for. -/
def digitsValue (base : Nat) (digits : Text) : Nat :=
  digits.foldl (fun n c => base * n + digitValue c) 0

/-- Hexadecimal digits of both cases. -/
def isHexDigit (c : Char) : Bool :=
  c.isDigit || ('a' ≤ c && c ≤ 'f') || ('A' ≤ c && c ≤ 'F')

/-- What the numbers from 0x80 to 0x9F stand for; five of them are left as they are. -/
def c1Characters : List Nat :=
  [0x20AC, 0x81, 0x201A, 0x192, 0x201E, 0x2026, 0x2020, 0x2021, 0x2C6, 0x2030, 0x160, 0x2039, 0x152,
   0x8D, 0x17D, 0x8F, 0x90, 0x2018, 0x2019, 0x201C, 0x201D, 0x2022, 0x2013, 0x2014, 0x2DC, 0x2122,
   0x161, 0x203A, 0x153, 0x9D, 0x17E, 0x178]

/-- Numbers of control characters and of code points that are no characters. -/
def isNoText (n : Nat) : Bool :=
  (1 ≤ n && n ≤ 8) || n == 0xB || (0xE ≤ n && n ≤ 0x1F) || n == 0x7F ||
    (0xFDD0 ≤ n && n ≤ 0xFDEF) || n % 0x10000 == 0xFFFE || n % 0x10000 == 0xFFFF

/-- The characters that a number stands for. -/
def numbered (place : Place) (n : Nat) : Text :=
  if n = 0 ∨ 0x10FFFF < n ∨ (0xD800 ≤ n ∧ n ≤ 0xDFFF) then [Char.ofNat 0xFFFD]
  else if 0x80 ≤ n ∧ n ≤ 0x9F then [Char.ofNat (c1Characters.getD (n - 0x80) n)]
  else if place = .bare ∧ isNoText n then []
  else [Char.ofNat n]

/-- The rest of a text, behind a semicolon if it begins with one. -/
def skipSemicolon : Text → Text
  | ';' :: t => t
  | t => t

/-- Reads the digits of a reference by number. -/
def digits? (place : Place) (base : Nat) (p : Char → Bool) (t : Text) : Option (Text × Text) :=
  (run? p t).map fun (digits, rest) =>
    (numbered place (digitsValue base digits), skipSemicolon rest)

/-! ## Names -/

/-- Whether a text goes on in a way that keeps a name in front of it from counting in a value. -/
def runsOn : Text → Bool
  | [] => false
  | c :: _ => c == '=' || c.isAlphanum

/-- Reads a name without a semicolon: the longest one that a text begins with, of at most `n`
characters. -/
def looseReference? (place : Place) (t : Text) : Nat → Option (Text × Text)
  | 0 => none
  | n + 1 =>
    match if n < t.length then looseCharacter? (t.take (n + 1)) else none with
    | none => looseReference? place t n
    | some chars =>
      let rest := t.drop (n + 1)
      if place = .value ∧ runsOn rest = true then none else some (chars, rest)

/-- Reads a reference by name. -/
def name? (place : Place) (t : Text) : Option (Text × Text) :=
  let name := t.takeWhile Char.isAlphanum
  match t.dropWhile Char.isAlphanum with
  | ';' :: rest =>
    match namedCharacter? name with
    | some chars => some (chars, rest)
    | none => looseReference? place t longestLooseName
  | _ => looseReference? place t longestLooseName

/-! ## References in a text -/

/-- What the reference behind an ampersand stands for, and what follows it. -/
def reference? (place : Place) (t : Text) : Option (Text × Text) :=
  match t with
  | '#' :: 'x' :: ds => digits? place 16 isHexDigit ds
  | '#' :: 'X' :: ds => digits? place 16 isHexDigit ds
  | '#' :: ds => digits? place 10 Char.isDigit ds
  | _ => name? place t

theorem length_skipSemicolon (t : Text) : (skipSemicolon t).length ≤ t.length := by
  unfold skipSemicolon
  split <;> simp

theorem length_digits? {place : Place} {base : Nat} {p : Char → Bool} {t chars rest : Text}
    (h : digits? place base p t = some (chars, rest)) : rest.length ≤ t.length := by
  simp only [digits?, Option.map_eq_some_iff, Prod.mk.injEq] at h
  obtain ⟨⟨ds, r⟩, hr, -, rfl⟩ := h
  have := length_skipSemicolon r
  rw [run?_append hr, List.length_append]
  simp only
  omega

theorem length_looseReference? {place : Place} {t chars rest : Text} {n : Nat}
    (h : looseReference? place t n = some (chars, rest)) : rest.length ≤ t.length := by
  induction n with
  | zero => simp [looseReference?] at h
  | succ n ih =>
    simp only [looseReference?] at h
    split at h
    · exact ih h
    · split at h
      · simp at h
      · simp only [Option.some.injEq, Prod.mk.injEq] at h
        rw [← h.2, List.length_drop]
        omega

theorem length_name? {place : Place} {t chars rest : Text}
    (h : name? place t = some (chars, rest)) : rest.length ≤ t.length := by
  simp only [name?] at h
  split at h
  · next r hr =>
    split at h
    · simp only [Option.some.injEq, Prod.mk.injEq] at h
      have := congrArg List.length (List.takeWhile_append_dropWhile (p := Char.isAlphanum) (l := t))
      rw [hr, List.length_append, List.length_cons] at this
      rw [← h.2]
      omega
    · exact length_looseReference? h
  · exact length_looseReference? h

/-- What follows a reference is no longer than what follows the ampersand. -/
theorem length_reference? {place : Place} {t chars rest : Text}
    (h : reference? place t = some (chars, rest)) : rest.length ≤ t.length := by
  unfold reference? at h
  split at h
  · have := length_digits? h; simp only [List.length_cons]; omega
  · have := length_digits? h; simp only [List.length_cons]; omega
  · have := length_digits? h; simp only [List.length_cons]; omega
  · exact length_name? h

/-- The text with its references replaced by what they stand for. -/
def decode (place : Place) : Text → Text
  | [] => []
  | c :: cs =>
    match _h : if c = '&' then reference? place cs else none with
    | some (chars, rest) => chars ++ decode place rest
    | none => c :: decode place cs
termination_by t => t.length
decreasing_by
  · have hr : reference? place cs = some (chars, rest) := by
      split at _h
      · exact _h
      · simp at _h
    have := length_reference? hr
    simp only [List.length_cons]
    omega
  · simp

/-! ## Writing references -/

/-- A character as it is written between tags. -/
def escapeChar : Char → Text
  | '&' => ['&', 'a', 'm', 'p', ';']
  | '<' => ['&', 'l', 't', ';']
  | '>' => ['&', 'g', 't', ';']
  | c => [c]

/-- A text as it is written between tags. -/
def escape (t : Text) : Text := t.flatMap escapeChar

theorem reference?_amp (place : Place) (t : Text) :
    reference? place ('a' :: 'm' :: 'p' :: ';' :: t) = some (['&'], t) := rfl

theorem reference?_lt (place : Place) (t : Text) :
    reference? place ('l' :: 't' :: ';' :: t) = some (['<'], t) := rfl

theorem reference?_gt (place : Place) (t : Text) :
    reference? place ('g' :: 't' :: ';' :: t) = some (['>'], t) := rfl

theorem decode_cons_of_ne (place : Place) {c : Char} (h : c ≠ '&') (t : Text) :
    decode place (c :: t) = c :: decode place t := by
  rw [decode]
  split
  · next hr => rw [if_neg h] at hr; cases hr
  · rfl

theorem decode_reference (place : Place) {t chars rest : Text}
    (h : reference? place t = some (chars, rest)) :
    decode place ('&' :: t) = chars ++ decode place rest := by
  rw [decode]
  split
  · next c r hr => rw [if_pos rfl, h] at hr; cases hr; rfl
  · next hr => rw [if_pos rfl, h] at hr; cases hr

/-- A written text is read back. -/
theorem decode_escape (place : Place) (t : Text) : decode place (escape t) = t := by
  induction t with
  | nil => rw [escape, List.flatMap_nil, decode]
  | cons c cs ih =>
    have hstep : escape (c :: cs) = escapeChar c ++ escape cs := rfl
    rw [hstep]
    unfold escapeChar
    split
    · exact (decode_reference place (reference?_amp place (escape cs))).trans (by rw [ih]; rfl)
    · exact (decode_reference place (reference?_lt place (escape cs))).trans (by rw [ih]; rfl)
    · exact (decode_reference place (reference?_gt place (escape cs))).trans (by rw [ih]; rfl)
    · next h _ _ => rw [List.singleton_append, decode_cons_of_ne place h, ih]

end LiveText.Markup
