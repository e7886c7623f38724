import LiveText.Text.Basic
import Mathlib.Tactic.ByContra

/-!
# Runs of characters

A run is read up to the first character that is not of its class. What stands behind such a
character, or any character that no run goes on with, has no influence on what is read in front of
it. `run?_append_stop` and `literal?_append_stop` say so of the two elementary readers.

`IsRun` is the declarative side: a word of a class is what a run reads (`isRun_of_run?`,
`IsRun.run?_append`). A `LongestRun` is one that cannot be made longer, which is what `run?` looks
for (`run?_eq_some_iff_longestRun`); `literal?_eq_some_iff` says so of literals.
-/

set_option autoImplicit false

namespace LiveText

open Text

/-- A character of a class is none of those that are not of it. -/
theorem ne_of_class {p : Char → Bool} {c d : Char} (hc : p c = true) (hd : p d = false) : c ≠ d := by
  rintro rfl
  rw [hc] at hd
  exact Bool.noConfusion hd

theorem all_of_subset {p : Char → Bool} {s t : Text} (h : s ⊆ t) (ht : t.all p = true) :
    s.all p = true :=
  List.all_eq_true.2 fun c hc => List.all_eq_true.1 ht c (h hc)

/-- The last character of a text that follows the character `prev`. -/
theorem getLast?_cons_or (c : Char) (t : Text) (prev : Option Char) :
    (c :: t).getLast?.or prev = t.getLast?.or (some c) := by
  rw [List.getLast?_cons]
  cases t.getLast? with
  | none => rfl
  | some d => rfl

/-! ## What stands behind a run -/

section
variable {x : Text} {p : Char → Bool}

theorem takeWhile_append_stop (hx : ∀ c ∈ x.head?, p c = false) (t : Text) :
    (t ++ x).takeWhile p = t.takeWhile p := by
  induction t with
  | nil =>
    cases x with
    | nil => rfl
    | cons c x => simp [hx c rfl]
  | cons c t ih =>
    rw [List.cons_append, List.takeWhile_cons, List.takeWhile_cons, ih]

theorem dropWhile_append_stop (hx : ∀ c ∈ x.head?, p c = false) (t : Text) :
    (t ++ x).dropWhile p = t.dropWhile p ++ x := by
  induction t with
  | nil =>
    cases x with
    | nil => rfl
    | cons c x => simp [hx c rfl]
  | cons c t ih =>
    rw [List.cons_append, List.dropWhile_cons, List.dropWhile_cons, ih]
    split
    · rfl
    · rfl

/-- A run is the same whatever stands behind a character that ends it. -/
theorem run?_append_stop (hx : ∀ c ∈ x.head?, p c = false) (t : Text) :
    run? p (t ++ x) = (run? p t).map fun q => (q.1, q.2 ++ x) := by
  rw [run?, run?, takeWhile_append_stop hx, dropWhile_append_stop hx]
  split
  · rfl
  · rfl

/-- A run is the longest prefix of its class, and it is not empty. -/
theorem run?_eq_some_iff {t w r : Text} :
    run? p t = some (w, r) ↔ w ≠ [] ∧ t.takeWhile p = w ∧ t.dropWhile p = r := by
  rw [run?]
  split
  · next h =>
    refine ⟨fun hn => absurd hn (by simp), fun hw => ?_⟩
    rw [h] at hw
    exact absurd hw.2.1.symm hw.1
  · next c v h =>
    rw [h, Option.some.injEq, Prod.mk.injEq]
    refine ⟨fun h => ⟨?_, h⟩, fun h => h.2⟩
    rw [← h.1]
    exact List.cons_ne_nil c v

/-- A run does not stop before a character of its class. -/
theorem not_mem_head?_of_run? {t w r : Text} (h : run? p t = some (w, r)) :
    ∀ c ∈ r.head?, p c = false := by
  obtain ⟨-, -, hdrop⟩ := run?_eq_some_iff.1 h
  intro c hc
  have hnot := List.head?_dropWhile_not p t
  rw [hdrop, Option.mem_def.1 hc] at hnot
  exact hnot

/-- A text that a run begins with begins with a character of its class. -/
theorem cons_of_run? {t w r : Text} (h : run? p t = some (w, r)) :
    ∃ c v, t = c :: v ∧ p c = true := by
  obtain ⟨hne, hw, -⟩ := run?_eq_some_iff.1 h
  cases t with
  | nil => exact absurd hw.symm hne
  | cons c v =>
    refine ⟨c, v, rfl, ?_⟩
    by_contra hc
    rw [List.takeWhile_cons, if_neg hc] at hw
    exact hne hw.symm

/-- A literal is met, or not, before a character that does not occur in it. -/
theorem literal?_append_stop {l : Text} (hx : ∀ c ∈ x.head?, c ∉ l) (t : Text) :
    literal? l (t ++ x) = (literal? l t).map (· ++ x) := by
  induction l generalizing t with
  | nil => rfl
  | cons a l ih =>
    cases t with
    | nil =>
      cases x with
      | nil => rfl
      | cons c x =>
        have hca : a ≠ c := fun h => hx c rfl (h ▸ List.mem_cons_self)
        simp [literal?, hca]
    | cons c t =>
      rw [List.cons_append, literal?, literal?]
      split
      · exact ih (fun d hd hm => hx d hd (List.mem_cons_of_mem a hm)) t
      · rfl

end

/-! ## Words of a class -/

/-- A word of a class of characters: not empty, and all its characters are of the class. -/
def IsRun (p : Char → Bool) (t : Text) : Prop := t ≠ [] ∧ ∀ c ∈ t, p c = true

instance (p : Char → Bool) (t : Text) : Decidable (IsRun p t) :=
  decidable_of_iff ((!t.isEmpty && t.all p) = true) (by simp [IsRun])

section
variable {p : Char → Bool} {t w r : Text}

theorem isRun_of_run? (h : run? p t = some (w, r)) : IsRun p w := by
  obtain ⟨hne, rfl, -⟩ := run?_eq_some_iff.1 h
  refine ⟨hne, fun c hc => ?_⟩
  have := List.all_takeWhile (p := p) (l := t)
  exact List.all_eq_true.1 this c hc

/-- A word is read up to a text that does not go on with its class. -/
theorem IsRun.run?_append (h : IsRun p w) (hr : ∀ c ∈ r.head?, p c = false) :
    run? p (w ++ r) = some (w, r) := by
  refine run?_eq_some_iff.2 ⟨h.1, ?_, ?_⟩
  · have hnil : r.takeWhile p = [] := takeWhile_append_stop hr []
    rw [List.takeWhile_append_of_pos h.2, hnil, List.append_nil]
  · rw [List.dropWhile_append_of_pos h.2]
    exact dropWhile_append_stop hr []

theorem IsRun.mono {q : Char → Bool} (h : IsRun p w) (hpq : ∀ c, p c = true → q c = true) :
    IsRun q w :=
  ⟨h.1, fun c hc => hpq c (h.2 c hc)⟩

end

/-! ## Longest words -/

/-- A word of a class at the start of a text that cannot be made longer, and the rest. -/
structure LongestRun (p : Char → Bool) (t w r : Text) : Prop where
  isRun : IsRun p w
  eq_append : t = w ++ r
  ends : ∀ c ∈ r.head?, p c = false

section
variable {p : Char → Bool} {t v w r s : Text}

/-- A run is the longest word of its class. -/
theorem run?_eq_some_iff_longestRun : run? p t = some (w, r) ↔ LongestRun p t w r := by
  constructor
  · exact fun h => ⟨isRun_of_run? h, run?_append h, not_mem_head?_of_run? h⟩
  · rintro ⟨hw, rfl, hr⟩
    exact hw.run?_append hr

/-- A text that begins with a word of a class begins with a longest one. -/
theorem IsRun.exists_longestRun (hv : IsRun p v) (s : Text) : ∃ w r, LongestRun p (v ++ s) w r := by
  refine ⟨_, _, run?_eq_some_iff_longestRun.1 (run?_eq_some_iff.2 ⟨?_, rfl, rfl⟩)⟩
  rw [List.takeWhile_append_of_pos hv.2]
  exact List.append_ne_nil_of_left_ne_nil hv.1 _

theorem exists_longestRun_cons {c : Char} (hc : p c = true) (t : Text) :
    ∃ w r, LongestRun p (c :: t) w r :=
  IsRun.exists_longestRun ⟨List.cons_ne_nil c [], by simpa using hc⟩ t

/-- There is no run in front of a character that is not of its class. -/
theorem run?_eq_none_iff : run? p t = none ↔ ∀ c ∈ t.head?, p c = false := by
  constructor
  · intro h c hc
    obtain ⟨v, rfl⟩ := List.head?_eq_some_iff.1 hc
    by_contra hclass
    obtain ⟨w, r, hrun⟩ := exists_longestRun_cons (Bool.not_eq_false _ ▸ hclass) v
    rw [← run?_eq_some_iff_longestRun, h] at hrun
    cases hrun
  · intro h
    rw [Option.eq_none_iff_forall_ne_some]
    intro q hq
    obtain ⟨c, v, rfl, hc⟩ := cons_of_run? hq
    rw [h c rfl] at hc
    cases hc

/-- The longest word goes on from every word of the class that the text begins with. -/
theorem LongestRun.eq_append_of_isRun (h : LongestRun p (v ++ s) w r) (hv : IsRun p v) :
    ∃ u, w = v ++ u ∧ s = u ++ r := by
  obtain ⟨-, hw, -⟩ := run?_eq_some_iff.1 (run?_eq_some_iff_longestRun.2 h)
  rw [List.takeWhile_append_of_pos hv.2] at hw
  have heq := h.eq_append
  rw [← hw, List.append_assoc, List.append_cancel_left_eq] at heq
  exact ⟨s.takeWhile p, hw.symm, heq⟩

end

/-- A literal is met where the text begins with it. -/
theorem literal?_eq_some_iff {l t r : Text} : literal? l t = some r ↔ t = l ++ r := by
  refine ⟨literal?_append, ?_⟩
  rintro rfl
  induction l with
  | nil => rfl
  | cons c l ih => simpa [literal?] using ih

/-! ## Blanks -/

/-- A text without blanks has none at its ends. -/
theorem trim_of_not_isBlank {t : Text} (h : ∀ c ∈ t, isBlank c = false) : trim t = t := by
  have drop : ∀ {u : Text}, (∀ c ∈ u, isBlank c = false) → u.dropWhile isBlank = u := by
    intro u hu
    cases u with
    | nil => rfl
    | cons c u => rw [List.dropWhile_cons, if_neg (by simp [hu c List.mem_cons_self])]
  rw [trim, trimEnd, trimEndOf, drop h, drop (fun c hc => h c (List.mem_reverse.1 hc)),
    List.reverse_reverse]

end LiveText
