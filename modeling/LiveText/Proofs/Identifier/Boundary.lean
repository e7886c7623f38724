import LiveText.Identifier.Separation
import LiveText.Proofs.Text.Letters
import LiveText.Proofs.Text.Run

/-!
# Where reading an identifier stops

Every part of an identifier is a longest run of characters of some class, so what stands behind a
character that belongs to none of the classes cannot change how the part in front of it is read.
At signs, blanks and line feeds are such characters.

## What is here

* `isStop` is the class of these characters, `Stops` says that a text is empty or begins with one.
* `read_append_stop` says that an identifier is read in the same way whatever stands behind a stop.
* `SameStart` relates two texts that agree up to a stop. `StandsBefore.congr` and
  `readAfter_none_congr` let one of them stand for the other: an identifier that is read before the
  one is read before the other, and where none is read, none is read.
-/

set_option autoImplicit false

namespace LiveText

open Text

/-! ## Stops -/

/-- Whether every part of an identifier ends before this character. -/
def isStop (c : Char) : Bool := !(isNameChar c || ['-', '.', '#', '='].contains c)

/-- Every part of an identifier ends before this text. -/
def Stops (t : Text) : Prop := ∀ c ∈ t.head?, isStop c = true

theorem stops_nil : Stops [] := by simp [Stops]

theorem stops_cons {c : Char} (h : isStop c = true) (t : Text) : Stops (c :: t) := by
  simpa [Stops] using h

theorem stops_at (t : Text) : Stops ('@' :: t) := stops_cons (by decide) t

theorem stops_space (t : Text) : Stops (' ' :: t) := stops_cons (by decide) t

theorem not_isNameChar_of_isBlank {c : Char} (h : isBlank c = true) : isNameChar c = false := by
  rw [Bool.eq_false_iff]
  intro hname
  simp only [isBlank, Bool.or_eq_true, Bool.and_eq_true, decide_eq_true_eq, beq_iff_eq] at h
  simp only [isNameChar, isWord, isIdeograph, Bool.or_eq_true, Bool.and_eq_true,
    decide_eq_true_eq, beq_iff_eq] at hname
  rcases hname with (hc | rfl) | hc
  · have := toNat_of_isAlphanum hc
    omega
  · revert h
    decide
  · omega

/-- Blanks are stops. -/
theorem isStop_of_isBlank {c : Char} (h : isBlank c = true) : isStop c = true := by
  have hne : ∀ d : Char, isBlank d = false → c ≠ d := fun d => ne_of_class h
  simp [isStop, not_isNameChar_of_isBlank h, hne '-' (by decide), hne '.' (by decide),
    hne '#' (by decide), hne '=' (by decide)]

theorem isNameChar_of_isWord {c : Char} (h : isWord c = true) : isNameChar c = true := by
  simp [isNameChar, h]

theorem isWord_of_isAlphanum {c : Char} (h : c.isAlphanum = true) : isWord c = true := by
  simp [isWord, h]

/-- The characters of ids are ASCII characters. -/
theorem toNat_lt_of_isIdChar {c : Char} (h : isIdChar c = true) : c.toNat < 128 := by
  rw [isIdChar, Bool.or_eq_true, beq_iff_eq] at h
  rcases h with h | rfl
  · have := toNat_of_isAlphanum h
    omega
  · decide

theorem not_isNameChar_of_isStop {c : Char} (h : isStop c = true) : isNameChar c = false := by
  simp only [isStop, Bool.not_eq_true', Bool.or_eq_false_iff] at h
  exact h.1

theorem not_isWord_of_isStop {c : Char} (h : isStop c = true) : isWord c = false := by
  have := not_isNameChar_of_isStop h
  simp only [isNameChar, Bool.or_eq_false_iff] at this
  exact this.1

theorem not_isAlphanum_of_isStop {c : Char} (h : isStop c = true) : c.isAlphanum = false := by
  have := not_isWord_of_isStop h
  simp only [isWord, Bool.or_eq_false_iff] at this
  exact this.1

theorem not_isAlpha_of_isStop {c : Char} (h : isStop c = true) : c.isAlpha = false := by
  rw [Bool.eq_false_iff]
  intro hc
  exact absurd (isAlphanum_of_isAlpha hc) (by simp [not_isAlphanum_of_isStop h])

theorem not_isIdChar_of_isStop {c : Char} (h : isStop c = true) : isIdChar c = false := by
  rw [isIdChar, Bool.or_eq_false_iff]
  exact ⟨not_isAlphanum_of_isStop h, by simpa using ne_of_class h (d := '-') (by decide)⟩

namespace Identifier

section
variable {x : Text} (hx : Stops x)
include hx

theorem run?_name_append (t : Text) :
    run? isNameChar (t ++ x) = (run? isNameChar t).map fun q => (q.1, q.2 ++ x) :=
  run?_append_stop (fun c hc => not_isNameChar_of_isStop (hx c hc)) t

theorem run?_word_append (t : Text) :
    run? isWord (t ++ x) = (run? isWord t).map fun q => (q.1, q.2 ++ x) :=
  run?_append_stop (fun c hc => not_isWord_of_isStop (hx c hc)) t

theorem run?_id_append (t : Text) :
    run? isIdChar (t ++ x) = (run? isIdChar t).map fun q => (q.1, q.2 ++ x) :=
  run?_append_stop (fun c hc => not_isIdChar_of_isStop (hx c hc)) t

theorem run?_alphanum_append (t : Text) :
    run? Char.isAlphanum (t ++ x) = (run? Char.isAlphanum t).map fun q => (q.1, q.2 ++ x) :=
  run?_append_stop (fun c hc => not_isAlphanum_of_isStop (hx c hc)) t

theorem run?_alpha_append (t : Text) :
    run? Char.isAlpha (t ++ x) = (run? Char.isAlpha t).map fun q => (q.1, q.2 ++ x) :=
  run?_append_stop (fun c hc => not_isAlpha_of_isStop (hx c hc)) t

/-- The marks between the parts of an identifier are no stops. -/
theorem literal?_mark_append {l : Text} (hl : l.all (!isStop ·) = true) (t : Text) :
    literal? l (t ++ x) = (literal? l t).map (· ++ x) := by
  refine literal?_append_stop (fun c hc hm => ?_) t
  have := List.all_eq_true.1 hl c hm
  rw [hx c hc] at this
  exact Bool.noConfusion this

/-! ## The three forms -/

theorem readLegacy_append_stop (t : Text) :
    readLegacy (t ++ x) = (readLegacy t).map fun q => (q.1, q.2 ++ x) := by
  have mark := @literal?_mark_append x hx systemMark (by decide)
  have low := @literal?_mark_append x hx ['_'] (by decide)
  have stop := @literal?_mark_append x hx ['-', '='] (by decide)
  simp only [readLegacy, Option.bind_eq_bind, Option.pure_def, mark, low, stop,
    run?_alpha_append hx, run?_id_append hx, run?_word_append hx, Option.map_bind,
    Option.bind_map, Function.comp_def, Option.map_some]

theorem readShortId_append_stop (t : Text) :
    readShortId (t ++ x) = (readShortId t).map fun q => (q.1, q.2 ++ x) := by
  have mark := @literal?_mark_append x hx ['#'] (by decide)
  -- behind the letters and digits comes what came before, or else the stop, which is no underscore
  have hhead : ∀ r : Text, (r ++ x).head? ≠ some '_' ↔ r.head? ≠ some '_' := by
    intro r
    cases r with
    | nil =>
      refine ⟨fun _ => by simp, fun _ h => ?_⟩
      exact ne_of_class (hx '_' h) (d := '_') (by decide) rfl
    | cons c r => simp
  simp only [readShortId, Option.bind_eq_bind, mark, run?_alphanum_append hx, Option.map_bind,
    Option.bind_map, Function.comp_def, hhead]
  refine congrArg _ (funext fun u => congrArg _ (funext fun q => ?_))
  split <;> rfl

theorem readDisplay_append_stop (t : Text) :
    readDisplay (t ++ x) = (readDisplay t).map fun q => (q.1, q.2 ++ x) := by
  have dot := @literal?_mark_append x hx ['.'] (by decide)
  simp only [readDisplay, Option.bind_eq_bind, Option.pure_def, dot, run?_name_append hx,
    run?_word_append hx, readShortId_append_stop hx, Option.map_bind, Option.bind_map,
    Function.comp_def]
  refine congrArg _ (funext fun q => congrArg _ (funext fun u => congrArg _ (funext fun f => ?_)))
  cases readShortId f.2 with
  | none => rfl
  | some s => rfl

theorem readSystem_append_stop (t : Text) :
    readSystem (t ++ x) = (readSystem t).map fun q => (q.1, q.2 ++ x) := by
  have mark := @literal?_mark_append x hx systemMark (by decide)
  simp only [readSystem, Option.bind_eq_bind, Option.pure_def, mark, run?_id_append hx,
    Option.map_bind, Option.bind_map, Function.comp_def]
  refine congrArg _ (funext fun u => congrArg _ (funext fun q => ?_))
  obtain ⟨id, r⟩ := q
  cases r with
  | nil =>
    -- an id at the end stays at the end, since a stop is no underscore
    cases x with
    | nil => rfl
    | cons c x =>
      have hc : c ≠ '_' := ne_of_class (hx c rfl) (by decide)
      simp only [List.nil_append]
      split
      · next h => exact absurd (List.cons.inj h).1 hc
      · rfl
  | cons c r =>
    by_cases hc : c = '_'
    · subst hc
      simp only [List.cons_append, run?_word_append hx]
      cases run? isWord r with
      | some f => rfl
      | none =>
        cases cutBack id with
        | none => rfl
        | some f => simp
    · simp only [List.cons_append]
      split
      · next h => exact absurd (List.cons.inj h).1 hc
      · split
        · next h => exact absurd (List.cons.inj h).1 hc
        · rfl

end

theorem read_at (t : Text) :
    read ('@' :: t) = (readLegacy t).or ((readDisplay t).or (readSystem t)) := rfl

/-- Only an at sign opens an identifier. -/
theorem read_of_ne_at {c : Char} (h : c ≠ '@') (t : Text) : read (c :: t) = none := by
  rw [read]
  rintro u hu
  exact h (List.cons.inj hu).1

/-- **Reading does not look behind a stop.** -/
theorem read_append_stop {x : Text} (hx : Stops x) {t : Text} (ht : t ≠ []) :
    read (t ++ x) = (read t).map fun q => (q.1, q.2 ++ x) := by
  cases t with
  | nil => exact absurd rfl ht
  | cons c t =>
    by_cases hc : c = '@'
    · subst hc
      rw [List.cons_append, read_at, read_at, readLegacy_append_stop hx,
        readDisplay_append_stop hx, readSystem_append_stop hx]
      cases readLegacy t with
      | some q => rfl
      | none =>
        cases readDisplay t with
        | some q => rfl
        | none => rfl
    · rw [List.cons_append, read_of_ne_at hc, read_of_ne_at hc]
      rfl

/-! ## A first look at a text -/

theorem startsBare_of_ne_at {c : Char} (h : c ≠ '@') (t : Text) : startsBare (c :: t) = false := by
  rw [startsBare]
  rintro u hu
  exact h (List.cons.inj hu).1

/-- From its first characters a text looks like a display identifier, or like a system identifier,
whatever the field or the id goes on with. -/
theorem startsBare_iff {t : Text} :
    startsBare t = true ↔
      (∃ source c r, IsRun isNameChar source ∧ isWord c = true ∧ t = '@' :: source ++ '.' :: c :: r) ∨
        ∃ c r, isIdChar c = true ∧ t = '@' :: systemMark ++ c :: r := by
  constructor
  · intro h
    cases t with
    | nil => cases h
    | cons a u =>
      by_cases ha : a = '@'
      · subst ha
        rw [startsBare, Bool.or_eq_true] at h
        rcases h with h | h
        · split at h
          · next c r hdot =>
            rw [Bool.and_eq_true] at h
            have hsplit := List.takeWhile_append_dropWhile (p := isNameChar) (l := u)
            rw [literal?_append hdot] at hsplit
            refine .inl ⟨u.takeWhile isNameChar, c, r, ⟨fun hnil => ?_, ?_⟩, h.2, ?_⟩
            · obtain ⟨a, ha, hname⟩ := (Option.any_eq_true _ _).1 h.1
              obtain ⟨v, rfl⟩ := List.head?_eq_some_iff.1 ha
              rw [List.takeWhile_cons, if_pos hname] at hnil
              cases hnil
            · exact List.all_eq_true.1 List.all_takeWhile
            · exact congrArg ('@' :: ·) hsplit.symm
          · cases h
        · split at h
          · next c r hmark =>
            exact .inr ⟨c, r, h, congrArg ('@' :: ·) (literal?_append hmark)⟩
          · cases h
      · rw [startsBare_of_ne_at ha] at h
        cases h
  · rintro (⟨source, c, r, hsource, hc, rfl⟩ | ⟨c, r, hc, rfl⟩)
    · obtain ⟨a, u, rfl⟩ := List.exists_cons_of_ne_nil hsource.1
      have hdrop : (a :: u ++ '.' :: c :: r).dropWhile isNameChar = '.' :: c :: r := by
        rw [List.dropWhile_append_of_pos hsource.2, List.dropWhile_cons_of_neg (by decide)]
      rw [List.cons_append, startsBare, hdrop]
      simp [literal?, hsource.2 a List.mem_cons_self, hc]
    · simp [startsBare, systemMark, literal?, hc]

/-- What looks like an identifier begins with an at sign. -/
theorem at_of_startsBare {t : Text} (h : startsBare t = true) : ∃ v, t = '@' :: v := by
  rcases startsBare_iff.1 h with ⟨_, _, _, -, -, rfl⟩ | ⟨_, _, -, rfl⟩
  · exact ⟨_, rfl⟩
  · exact ⟨_, rfl⟩

/-- A text that begins with an identifier looks from its first characters as if it did. -/
theorem startsBare_of_read {t r : Text} {i : Identifier} (h : read t = some (i, r)) :
    startsBare t = true := by
  cases t with
  | nil => exact absurd h (by simp [read])
  | cons a u =>
    by_cases ha : a = '@'
    · subst ha
      rw [read_at, Option.or_eq_some_iff, Option.or_eq_some_iff] at h
      have system : ∀ {v w : Text} {c : Char}, literal? systemMark u = some v → v = c :: w →
          isIdChar c = true → startsBare ('@' :: u) = true := by
        rintro v w c hv rfl hc
        simp [startsBare, hv, hc]
      rcases h with h | ⟨-, h | ⟨-, h⟩⟩
      · simp only [readLegacy, Option.bind_eq_bind, Option.bind_eq_some_iff, Prod.exists] at h
        obtain ⟨v, hv, kind, w, hw, -⟩ := h
        obtain ⟨c, k, hk, hc⟩ := cons_of_run? hw
        exact system hv hk (by simp [isIdChar, isAlphanum_of_isAlpha hc])
      · simp only [readDisplay, Option.bind_eq_bind, Option.bind_eq_some_iff, Prod.exists] at h
        obtain ⟨source, v, hv, w, hw, field, y, hy, -⟩ := h
        obtain ⟨c, k, hk, hc⟩ := cons_of_run? hv
        obtain ⟨d, l, rfl, hd⟩ := cons_of_run? hy
        obtain ⟨-, -, hdrop⟩ := run?_eq_some_iff.1 hv
        subst hk
        simp [startsBare, hdrop, hw, hc, hd]
      · simp only [readSystem, Option.bind_eq_bind, Option.bind_eq_some_iff, Prod.exists] at h
        obtain ⟨v, hv, id, w, hw, -⟩ := h
        obtain ⟨c, k, hk, hc⟩ := cons_of_run? hw
        exact system hv hk hc
    · rw [read_of_ne_at ha] at h
      exact absurd h (by simp)

/-- Nor does a first look at a text go behind a stop. -/
theorem startsBare_append_stop {x : Text} (hx : Stops x) (c : Char) (t : Text) :
    startsBare (c :: t ++ x) = startsBare (c :: t) := by
  by_cases hc : c = '@'
  · subst hc
    have hname : ∀ c ∈ x.head?, isNameChar c = false :=
      fun c hc => not_isNameChar_of_isStop (hx c hc)
    rw [List.cons_append, startsBare, startsBare, dropWhile_append_stop hname,
      literal?_mark_append hx (l := ['.']) (by decide),
      literal?_mark_append hx (l := systemMark) (by decide)]
    congr 1
    · cases t with
      | nil => cases x <;> rfl
      | cons d t =>
        cases literal? ['.'] ((d :: t).dropWhile isNameChar) with
        | none => rfl
        | some v =>
          cases v with
          | cons e v => rfl
          | nil =>
            cases x with
            | nil => rfl
            | cons e x => simp [not_isWord_of_isStop (hx e rfl)]
    · cases literal? systemMark t with
      | none => rfl
      | some v =>
        cases v with
        | cons e v => rfl
        | nil =>
          cases x with
          | nil => rfl
          | cons e x => simp [not_isIdChar_of_isStop (hx e rfl)]
  · rw [List.cons_append, startsBare_of_ne_at hc, startsBare_of_ne_at hc]

/-! ## What may stand for what -/

/-- Two texts that agree up to a stop. -/
def SameStart (s t : Text) : Prop :=
  ∃ u x y, s = u ++ x ∧ t = u ++ y ∧ Stops x ∧ Stops y

theorem sameStart_of_stops {s t : Text} (hs : Stops s) (ht : Stops t) : SameStart s t :=
  ⟨[], s, t, rfl, rfl, hs, ht⟩

/-- What begins with a stop changes nothing in front of it. -/
theorem sameStart_append {t : Text} (ht : Stops t) (s : Text) : SameStart s (s ++ t) :=
  ⟨s, [], t, (List.append_nil s).symm, rfl, stops_nil, ht⟩

theorem SameStart.symm {s t : Text} (h : SameStart s t) : SameStart t s := by
  obtain ⟨u, x, y, hs, ht, hx, hy⟩ := h
  exact ⟨u, y, x, ht, hs, hy, hx⟩

theorem SameStart.cons {s t : Text} (h : SameStart s t) (c : Char) :
    SameStart (c :: s) (c :: t) := by
  obtain ⟨u, x, y, rfl, rfl, hx, hy⟩ := h
  exact ⟨c :: u, x, y, rfl, rfl, hx, hy⟩

/-- The identifier is what a text begins with that consists of it and of `s`. -/
def StandsBefore (i : Identifier) (s : Text) : Prop := read (i.text ++ s) = some (i, s)

/-- An identifier stands before every text that starts like one which it stands before. -/
theorem StandsBefore.congr {i : Identifier} {s t : Text} (h : StandsBefore i s)
    (hst : SameStart s t) : StandsBefore i t := by
  obtain ⟨u, x, y, rfl, rfl, hx, hy⟩ := hst
  have hne : i.text ++ u ≠ [] := by simp [text_ne_nil]
  rw [StandsBefore, ← List.append_assoc, read_append_stop hx hne] at h
  obtain ⟨⟨j, v⟩, hv, hjv⟩ := Option.map_eq_some_iff.1 h
  simp only [Prod.mk.injEq, List.append_cancel_right_eq] at hjv
  rw [StandsBefore, ← List.append_assoc, read_append_stop hy hne, hv, hjv.1, hjv.2]
  rfl

/-- Where no identifier starts, none starts before a text that starts in the same way. -/
theorem readAfter_none_congr {p q : Option Char} {c : Char} {s t : Text}
    (h : readAfter p (c :: s) = none) (hst : SameStart s t)
    (hpq : opensAfter p = opensAfter q) : readAfter q (c :: t) = none := by
  obtain ⟨u, x, y, rfl, rfl, hx, hy⟩ := hst
  rw [readAfter, ← List.cons_append, read_append_stop hx (List.cons_ne_nil c u)] at h
  rw [readAfter, ← hpq, ← List.cons_append, read_append_stop hy (List.cons_ne_nil c u)]
  split at h
  · next ho =>
    rw [if_pos ho, Option.map_eq_none_iff.1 h]
    rfl
  · next ho => rw [if_neg ho]

theorem startsBare_congr {s t : Text} (h : SameStart s t) (c : Char) :
    startsBare (c :: s) = startsBare (c :: t) := by
  obtain ⟨u, x, y, rfl, rfl, hx, hy⟩ := h
  exact (startsBare_append_stop hx c u).trans (startsBare_append_stop hy c u).symm

end Identifier
end LiveText
