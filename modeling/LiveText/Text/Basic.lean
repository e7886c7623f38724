/-!
# Text

Offsets and lengths in this library count characters, so a text is the list of its characters.

## What is here

* `isBlank` is the class of blank characters, `trim` cuts them off at both ends.
* `lines` and `joinLines` take a text apart at its line feeds and put it together again;
  `joinLines_lines` says that nothing is lost.
* `words` are the runs of characters between the blanks of a text.
* `upTo` is the prefix of a signed length: a negative length leaves that many characters out at
  the end.
* `run?` and `literal?` are the two elementary readers; each returns the rest of the text, and
  `run?_append` and `literal?_append` say that what they read and the rest make up the text.
-/

set_option autoImplicit false

namespace LiveText

/-- A text, as the list of its characters. -/
abbrev Text := List Char

namespace Text

/-- The hash of a text depends on its characters alone. -/
instance : Hashable Text where
  hash t := t.foldl (fun h c => mixHash h c.val.toUInt64) 7

/-- The order of texts: by the first characters in which they differ, a prefix first. -/
def notAfter : Text → Text → Bool
  | [], _ => true
  | _ :: _, [] => false
  | c :: s, d :: t => decide (c.toNat < d.toNat) || c == d && notAfter s t

/-! ## Blank characters -/

/-- Blank characters: the white space of the Unicode property and the four information
separators U+001C to U+001F. -/
def isBlank (c : Char) : Bool :=
  let n := c.toNat
  (9 ≤ n && n ≤ 13) || (28 ≤ n && n ≤ 32) || n == 0x85 || n == 0xA0 || n == 0x1680 ||
    (0x2000 ≤ n && n ≤ 0x200A) || n == 0x2028 || n == 0x2029 || n == 0x202F || n == 0x205F ||
    n == 0x3000

/-- Every character of the text is blank; so is the empty text. -/
def allBlank (t : Text) : Bool := t.all isBlank

/-- The text without the characters of a class at its end. -/
def trimEndOf (p : Char → Bool) (t : Text) : Text := (t.reverse.dropWhile p).reverse

/-- The text without the blanks at its end. -/
def trimEnd (t : Text) : Text := trimEndOf isBlank t

/-- The text without the blanks at its two ends. -/
def trim (t : Text) : Text := trimEnd (t.dropWhile isBlank)

/-! ## Pieces -/

/-- The pieces of a text between its separators: one more than there are separators. -/
def pieces (separator : Char) : Text → List Text
  | [] => [[]]
  | c :: t =>
    if c = separator then [] :: pieces separator t
    else match pieces separator t with
      | [] => [[c]]
      | p :: ps => (c :: p) :: ps

/-- Every text has at least one piece. -/
theorem pieces_ne_nil (separator : Char) (t : Text) : pieces separator t ≠ [] := by
  cases t with
  | nil => simp [pieces]
  | cons c t =>
    rw [pieces]
    split
    · simp
    · split <;> simp

theorem pieces_cons_of_ne {separator c : Char} (hc : c ≠ separator) {t p : Text} {ps : List Text}
    (h : pieces separator t = p :: ps) : pieces separator (c :: t) = (c :: p) :: ps := by
  rw [pieces, if_neg hc, h]

/-! ## Lines -/

/-- The pieces of a text between its line feeds. -/
def lines (t : Text) : List Text := pieces '\n' t

theorem lines_nil : lines [] = [[]] := rfl

theorem lines_cons_feed (t : Text) : lines ('\n' :: t) = [] :: lines t := rfl

/-- The lines with one line feed between neighbours. -/
def joinLines : List Text → Text
  | [] => []
  | [l] => l
  | l :: ls => l ++ '\n' :: joinLines ls

theorem joinLines_cons_cons (l m : Text) (ls : List Text) :
    joinLines (l :: m :: ls) = l ++ '\n' :: joinLines (m :: ls) := rfl

/-- Every text has at least one line. -/
theorem lines_ne_nil (t : Text) : lines t ≠ [] := pieces_ne_nil '\n' t

/-- Taking a text apart into lines loses nothing. -/
theorem joinLines_lines (t : Text) : joinLines (lines t) = t := by
  induction t with
  | nil => rfl
  | cons c t ih =>
    obtain ⟨l, ls, hlines⟩ := List.exists_cons_of_ne_nil (lines_ne_nil t)
    rw [hlines] at ih
    by_cases hc : c = '\n'
    · rw [hc, lines_cons_feed, hlines, joinLines_cons_cons, ih, List.nil_append]
    · rw [lines, pieces_cons_of_ne hc hlines]
      cases ls with
      | nil => exact congrArg (c :: ·) ih
      | cons m ms => exact congrArg (c :: ·) ih

/-- The text with every carriage return that stands before a line feed left out. -/
def unifyLineEnds : Text → Text
  | [] => []
  | '\r' :: '\n' :: cs => '\n' :: unifyLineEnds cs
  | c :: cs => c :: unifyLineEnds cs

/-! ## Words -/

/-- The runs of characters between the blanks of a text. -/
def words (t : Text) : List Text :=
  (t.splitBy fun c d => isBlank c == isBlank d).filter fun w => !allBlank w

/-- The words with one space between neighbours. -/
def joinWords (ws : List Text) : Text := [' '].intercalate ws

theorem joinWords_singleton (w : Text) : joinWords [w] = w := List.intercalate_singleton

theorem joinWords_cons {ws : List Text} (h : ws ≠ []) (w : Text) :
    joinWords (w :: ws) = w ++ ' ' :: joinWords ws := by
  rw [joinWords, List.intercalate_cons_of_ne_nil h, List.append_assoc, List.singleton_append,
    ← joinWords]

theorem joinWords_append {us vs : List Text} (hus : us ≠ []) (hvs : vs ≠ []) :
    joinWords (us ++ vs) = joinWords us ++ ' ' :: joinWords vs := by
  induction us with
  | nil => exact absurd rfl hus
  | cons u us ih =>
    cases us with
    | nil => rw [List.singleton_append, joinWords_cons hvs, joinWords_singleton]
    | cons w us =>
      have hne : w :: us ++ vs ≠ [] := List.cons_ne_nil w _
      rw [List.cons_append, joinWords_cons hne, joinWords_cons (List.cons_ne_nil w us),
        ih (List.cons_ne_nil w us), List.append_assoc, List.cons_append]

/-- The first word goes on into the rest. -/
theorem joinWords_append_cons (t w : Text) (ws : List Text) :
    joinWords ((t ++ w) :: ws) = t ++ joinWords (w :: ws) := by
  cases ws with
  | nil => rw [joinWords_singleton, joinWords_singleton]
  | cons v ws =>
    rw [joinWords_cons (List.cons_ne_nil v ws), joinWords_cons (List.cons_ne_nil v ws),
      List.append_assoc]

theorem joinWords_cons_cons (c : Char) (w : Text) (ws : List Text) :
    joinWords ((c :: w) :: ws) = c :: joinWords (w :: ws) :=
  joinWords_append_cons [c] w ws

/-! ## Prefixes -/

/-- The first `n` characters; for a negative `n` the text without its last `-n` characters. -/
def upTo (n : Int) (t : Text) : Text :=
  if 0 ≤ n then t.take n.toNat else t.take (t.length - (-n).toNat)

theorem upTo_prefix (n : Int) (t : Text) : upTo n t <+: t := by
  unfold upTo
  split <;> exact List.take_prefix _ _

/-- A text occurs in another one. -/
def occursIn (needle : Text) : Text → Bool
  | [] => needle.isEmpty
  | c :: cs => needle.isPrefixOf (c :: cs) || occursIn needle cs

/-! ## Elementary readers -/

/-- The longest run of characters of a class at the start of a text, unless it is empty, and the
rest. -/
def run? (p : Char → Bool) (t : Text) : Option (Text × Text) :=
  match t.takeWhile p with
  | [] => none
  | c :: w => some (c :: w, t.dropWhile p)

/-- What follows a literal at the start of a text. -/
def literal? : Text → Text → Option Text
  | [], t => some t
  | _ :: _, [] => none
  | l :: ls, c :: cs => if l = c then literal? ls cs else none

/-- A run and the rest make up the text. -/
theorem run?_append {p : Char → Bool} {t w r : Text} (h : run? p t = some (w, r)) :
    t = w ++ r := by
  unfold run? at h
  split at h
  · simp at h
  · next c v hv =>
    simp only [Option.some.injEq, Prod.mk.injEq] at h
    obtain ⟨rfl, rfl⟩ := h
    rw [← hv, List.takeWhile_append_dropWhile]

/-- A run is not empty. -/
theorem run?_ne_nil {p : Char → Bool} {t w r : Text} (h : run? p t = some (w, r)) : w ≠ [] := by
  unfold run? at h
  split at h
  · simp at h
  · simp only [Option.some.injEq, Prod.mk.injEq] at h
    rw [← h.1]; simp

/-- A literal and what follows it make up the text. -/
theorem literal?_append {l t r : Text} (h : literal? l t = some r) : t = l ++ r := by
  induction l generalizing t with
  | nil => simpa [literal?] using h
  | cons a l ih =>
    cases t with
    | nil => simp [literal?] at h
    | cons c cs =>
      simp only [literal?] at h
      split at h
      · next hac => subst hac; rw [ih h, List.cons_append]
      · simp at h

end Text
end LiveText
