import LiveText.Forms
import LiveText.Resolution
import LiveText.Proofs.Identifier.Appending
import LiveText.Proofs.Identifier.Copies

/-!
# Line by line

No identifier, no gap and no repeat goes over the end of a line: a line feed is a stop, and an
identifier may start behind it as it may at the start of a text. So whatever is done with the
identifiers of a text is done with each of its lines on its own, and a text can be scanned before or
after it is taken apart into lines.

## What is here

* `LineByLine` says this of a function from texts to texts; it holds of one function after another one
  if it holds of each (`LineByLine.comp`).
* `lineByLine_separate`, `lineByLine_collapse` and `lineByLine_replaced` are the three steps that the
  forms of a text are made of.
* `occurrences_line`: offsets in the second line begin behind the line feed.
* **`Snapshot.lineByLine`** puts them together.
-/

set_option autoImplicit false

namespace LiveText

open Text Identifier

/-- What the function makes of two lines is what it makes of each of them, line by line. -/
def LineByLine (f : Text → Text) : Prop := ∀ t u, f (t ++ '\n' :: u) = f t ++ '\n' :: f u

theorem LineByLine.comp {f g : Text → Text} (hf : LineByLine f) (hg : LineByLine g) :
    LineByLine fun t => f (g t) := by
  intro t u
  show f (g (t ++ '\n' :: u)) = _
  rw [hg, hf]

/-! ## The steps -/

/-- An identifier may start behind a line feed as it may at the start of a text. -/
theorem opensAfter_feed : opensAfter (some '\n') = opensAfter none := by decide

theorem lineByLine_separate : LineByLine separate := by
  intro t u
  rw [separate, separateAfter_append_stop (by decide) (by decide), separateAfter_congr opensAfter_feed]
  rfl

/-- Of the character in front of a text it only matters whether an identifier may start behind it. -/
theorem collapseAfter_congr {p q : Option Char} (h : opensAfter p = opensAfter q) (t : Text) :
    collapseAfter p t = collapseAfter q t := by
  cases t with
  | nil => rw [collapseAfter, collapseAfter]
  | cons c t => rw [collapseAfter, collapseAfter, h]

theorem lineByLine_collapse : LineByLine collapse := by
  intro t u
  rw [collapse, collapseAfter_append_stop (by decide) (by decide), collapseAfter_congr opensAfter_feed]
  rfl

theorem lineByLine_replaced (f : Identifier → Text) : LineByLine fun t => substitute f (tokens t) := by
  intro t u
  show substitute f (tokens (t ++ '\n' :: u)) = _
  rw [tokens_line, substitute_append]
  rfl

/-! ## Offsets -/

/-- The occurrence in a text with `n` characters more in front of it. -/
def Occurrence.shift (n : Nat) (o : Occurrence) : Occurrence := ⟨o.identifier, n + o.start⟩

theorem occurrencesFrom_eq_map (n start : Nat) (ts : List Token) :
    occurrencesFrom (n + start) ts = (occurrencesFrom start ts).map (Occurrence.shift n) := by
  induction ts generalizing start with
  | nil => rfl
  | cons t ts ih =>
    cases t with
    | char c => exact ih (start + 1)
    | identifier i =>
      rw [occurrencesFrom, Nat.add_assoc, ih]
      rfl

theorem occurrencesFrom_append (start : Nat) (us vs : List Token) :
    occurrencesFrom start (us ++ vs) =
      occurrencesFrom start us ++ occurrencesFrom (start + (written us).length) vs := by
  induction us generalizing start with
  | nil => rfl
  | cons u us ih =>
    have hlength : (written (u :: us)).length = u.text.length + (written us).length := by
      rw [written_cons, List.length_append]
    rw [hlength, ← Nat.add_assoc]
    cases u with
    | char c => exact ih (start + 1)
    | identifier i => exact congrArg (⟨i, start⟩ :: ·) (ih (start + i.text.length))

/-- **The identifiers of two lines** are those of each of them; the offsets of the second line begin
behind the line feed. -/
theorem occurrences_line (t u : Text) :
    occurrences (t ++ '\n' :: u) =
      occurrences t ++ (occurrences u).map (Occurrence.shift (t.length + 1)) := by
  rw [occurrences, tokens_line, occurrencesFrom_append, written_tokens, Nat.zero_add]
  exact congrArg (occurrences t ++ ·) (occurrencesFrom_eq_map (t.length + 1) 0 (tokens u))

/-! ## All of it -/

/-- **A text is processed line by line**: separating, collapsing, resolving and both forms of a text
work on each line alone, and what is found in a line is found there alone. -/
theorem Snapshot.lineByLine (s : Snapshot) (length : Int) :
    LineByLine separate ∧ LineByLine collapse ∧ LineByLine s.resolveIn ∧
      LineByLine s.toSystemForm ∧ LineByLine (s.toDisplayForm length) ∧
      ∀ t u, occurrences (t ++ '\n' :: u) =
        occurrences t ++ (occurrences u).map (Occurrence.shift (t.length + 1)) := by
  have hreplaced : ∀ f, LineByLine fun t => substitute f (tokens (separate t)) :=
    fun f => (lineByLine_replaced f).comp lineByLine_separate
  exact ⟨lineByLine_separate, lineByLine_collapse, hreplaced _, hreplaced _,
    (hreplaced _).comp lineByLine_collapse, occurrences_line⟩

/-- A legacy identifier at the end of the first line, a repeat and a glued one in the second one. -/
example : occurrences (joinLines ["a @gv_x_y_z-=".toList, "@a.b@a.b @c.d".toList]) =
    [⟨.legacy "x".toList "y".toList "z".toList, 2⟩, ⟨.display "a".toList "b".toList none, 14⟩,
      ⟨.display "c".toList "d".toList none, 23⟩] := by decide +kernel

end LiveText
