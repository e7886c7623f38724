import LiveText.Identifier.Scan

/-!
# Collapsing repeated identifiers

A display identifier that is written several times without a gap is one slip of the hand, and is
reduced to one. A repeat that runs on into a word or a short id of its own is a different
identifier; it is kept, and so is a pair of which only the second one runs on.
-/

set_option autoImplicit false

namespace LiveText

open Text

namespace Identifier

/-- Reads a display identifier that another identifier follows without a gap. -/
def readGlued (t : Text) : Option (Text × Text) :=
  match t with
  | '@' :: u =>
    match readDisplay u with
    | some (i, '@' :: r) => some (i.text, '@' :: r)
    | _ => none
  | _ => none

/-- What is read is a text of an identifier and what is behind it. -/
theorem exists_of_readGlued {t w r : Text} (h : readGlued t = some (w, r)) :
    ∃ i : Identifier, w = i.text ∧ t = w ++ r := by
  unfold readGlued at h
  split at h
  · next u =>
    split at h
    · next i r' hd =>
      simp only [Option.some.injEq, Prod.mk.injEq] at h
      obtain ⟨rfl, rfl⟩ := h
      refine ⟨i, rfl, ?_⟩
      rw [readDisplay_append hd]
      simp [text]
    · simp at h
  · simp at h

theorem readGlued_append {t w r : Text} (h : readGlued t = some (w, r)) : t = w ++ r := by
  obtain ⟨i, -, ht⟩ := exists_of_readGlued h
  exact ht

theorem length_pos_of_readGlued {t w r : Text} (h : readGlued t = some (w, r)) : 0 < w.length := by
  obtain ⟨i, rfl, -⟩ := exists_of_readGlued h
  exact length_text_pos i

end Identifier

/-- The number of copies of `w` at the start of a text, and the text behind them. -/
def copies (w t : Text) : Nat × Text :=
  if _hw : w = [] then (0, t)
  else match _h : literal? w t with
    | some r => ((copies w r).1 + 1, (copies w r).2)
    | none => (0, t)
termination_by t.length
decreasing_by
  all_goals
    have := List.length_pos_iff.2 _hw
    rw [literal?_append _h, List.length_append]
    omega

/-- Whether a repeat that this text follows is a different identifier. -/
def runsOn : Text → Bool
  | c :: _ => isWord c || c == '#'
  | [] => false

/-- The number of repeats of `w` that can be dropped at the start of a text. -/
def droppable (w t : Text) : Nat :=
  let (n, rest) := copies w t
  if runsOn rest then n - 1 else n

/-- Collapses the repeated identifiers of a text that follows the character `prev`. -/
def collapseAfter (prev : Option Char) : Text → Text
  | [] => []
  | c :: cs =>
    if Identifier.opensAfter prev then
      match _h : Identifier.readGlued (c :: cs) with
      | some (w, r) =>
        w ++ collapseAfter w.getLast? (r.drop (droppable w r * w.length))
      | none => c :: collapseAfter (some c) cs
    else c :: collapseAfter (some c) cs
termination_by t => t.length
decreasing_by
  · have hpos := Identifier.length_pos_of_readGlued _h
    rw [Identifier.readGlued_append _h, List.length_append, List.length_drop]
    omega
  · simp
  · simp

/-- The text with every run of one display identifier reduced to one occurrence. -/
def collapse (t : Text) : Text := collapseAfter none t

end LiveText
