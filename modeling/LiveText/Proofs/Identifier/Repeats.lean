import LiveText.Identifier.Repeats
import LiveText.Proofs.Identifier.Separation

/-!
# Where there is nothing to collapse

Only a display identifier is collapsed, and only where the same one stands right in front of it. So
nothing is collapsed in a text without display identifiers (`collapse_eq_self`), nor in one that was
separated (`collapse_of_separate`). Where something is collapsed an at sign goes away
(`collapseAfter_eq_or_count_lt`), so a text that keeps its at signs is left as it is.

Collapsing goes from character to character and not from token to token, but an identifier holds no
at sign behind its first character, so nothing is found inside of one
(`collapseAfter_append_of_no_at`).
-/

set_option autoImplicit false

namespace LiveText

open Text Identifier

/-! ## Where no copy is -/

theorem copies_of_not_prefix {w t : Text} (hw : w ≠ []) (h : ∀ r, t ≠ w ++ r) :
    copies w t = (0, t) := by
  rw [copies, dif_neg hw]
  split
  · next r hr => exact absurd (literal?_append hr) (h r)
  · rfl

theorem droppable_of_not_prefix {w t : Text} (hw : w ≠ []) (h : ∀ r, t ≠ w ++ r) :
    droppable w t = 0 := by
  rw [droppable, copies_of_not_prefix hw h]
  exact ite_self 0

/-! ## Repeats are display identifiers -/

namespace Identifier

section
variable {t w r : Text}

/-- A repeat starts with a display identifier. -/
theorem read_of_readGlued (h : readGlued t = some (w, r)) :
    ∃ i, read t = some (i, r) ∧ w = i.text ∧ i.isDisplay = true := by
  unfold readGlued at h
  split at h
  · next u =>
    split at h
    · next i v hd =>
      cases h
      exact ⟨i, read_of_readDisplay hd, rfl, isDisplay_of_readDisplay hd⟩
    · cases h
  · cases h

/-- Only an at sign opens one. -/
theorem readGlued_of_ne_at {c : Char} (h : c ≠ '@') (t : Text) : readGlued (c :: t) = none := by
  rw [readGlued]
  exact fun u hu => h (List.cons.inj hu).1

/-- And it is looked for before an at sign only. -/
theorem at_of_readGlued (h : readGlued t = some (w, r)) : ∃ v, r = '@' :: v := by
  unfold readGlued at h
  split at h
  · next u =>
    split at h
    · next i v hd =>
      cases h
      exact ⟨v, rfl⟩
    · cases h
  · cases h

end

/-- A display identifier looks like one, whatever stands behind it. -/
theorem startsBare_display {i : Identifier} (h : i.WellFormed) (hi : i.isDisplay = true)
    (s : Text) : startsBare (i.text ++ s) = true := by
  cases i with
  | display source field shortId =>
    obtain ⟨hsource, ⟨hfield, hword⟩, -⟩ := h
    obtain ⟨c, v, rfl⟩ := List.exists_cons_of_ne_nil hfield
    refine startsBare_iff.2 (.inl ⟨source, c, v ++ optionalPart '#' shortId ++ s, hsource, ?_, ?_⟩)
    · exact hword c List.mem_cons_self
    · simp [text, body]
  | system id field => cases hi
  | legacy kind id field => cases hi

/-- Where no identifier starts there is no repeat of one. -/
theorem droppable_eq_zero {i : Identifier} (h : i.WellFormed) (hi : i.isDisplay = true) {t : Text}
    (ht : startsBare t = false) : droppable i.text t = 0 := by
  refine droppable_of_not_prefix i.text_ne_nil ?_
  rintro r rfl
  rw [startsBare_display h hi] at ht
  cases ht

end Identifier

/-! ## Collapsing, step by step -/

/-- A longer text loses at signs with its rest, or keeps them with it. -/
theorem eq_or_count_lt_cons {s t : Text} (c : Char)
    (h : s = t ∨ s.count '@' < t.count '@') :
    c :: s = c :: t ∨ (c :: s).count '@' < (c :: t).count '@' := by
  rw [List.count_cons, List.count_cons]
  exact h.imp (congrArg (c :: ·)) fun h => Nat.add_lt_add_right h _

theorem collapseAfter_none {prev : Option Char} {c : Char} {t : Text}
    (h : opensAfter prev = true → readGlued (c :: t) = none) :
    collapseAfter prev (c :: t) = c :: collapseAfter (some c) t := by
  rw [collapseAfter]
  split
  · next ho =>
    split
    · next w r hw =>
      rw [h ho] at hw
      cases hw
    · rfl
  · rfl

/-- Without an at sign there is nothing to collapse. -/
theorem collapseAfter_append_of_no_at {u : Text} (hu : '@' ∉ u) (prev : Option Char) (t : Text) :
    collapseAfter prev (u ++ t) = u ++ collapseAfter (u.getLast?.or prev) t := by
  induction u generalizing prev with
  | nil => rfl
  | cons c u ih =>
    rw [List.mem_cons, not_or] at hu
    have hread : readGlued (c :: (u ++ t)) = none := readGlued_of_ne_at (Ne.symm hu.1) _
    rw [List.cons_append, collapseAfter_none fun _ => hread, ih hu.2, getLast?_cons_or,
      List.cons_append]

/-- At a display identifier with another one right behind it, the repeats of the first one go. -/
theorem collapseAfter_glued {prev : Option Char} {t w r : Text} (ho : opensAfter prev = true)
    (h : readGlued t = some (w, r)) :
    collapseAfter prev t =
      w ++ collapseAfter w.getLast? (r.drop (droppable w r * w.length)) := by
  cases t with
  | nil =>
    rw [readGlued] at h
    · cases h
    · rintro u ⟨⟩
  | cons c t =>
    rw [collapseAfter, if_pos ho]
    split
    · next w' r' hw =>
      rw [h] at hw
      cases hw
      rfl
    · next hw =>
      rw [h] at hw
      cases hw

/-- **Collapsing takes at signs away, or it changes nothing.** -/
theorem collapseAfter_eq_or_count_lt (prev : Option Char) (t : Text) :
    collapseAfter prev t = t ∨ (collapseAfter prev t).count '@' < t.count '@' := by
  fun_induction collapseAfter prev t with
  | case1 prev => exact .inl rfl
  | case2 prev c cs ho w r hw ih =>
    have hsplit := readGlued_append hw
    obtain ⟨v, hv⟩ := at_of_readGlued hw
    have hcount := congrArg (List.count '@')
      (List.take_append_drop (droppable w r * w.length) r)
    rw [List.count_append] at hcount
    rw [hsplit, List.count_append, List.count_append]
    rcases Nat.eq_zero_or_pos (droppable w r * w.length) with hzero | hpos
    · rw [hzero, List.drop_zero] at ih ⊢
      exact ih.imp (congrArg (w ++ ·)) fun h => Nat.add_lt_add_left h _
    · -- what is dropped begins with an at sign
      have htake : 0 < (r.take (droppable w r * w.length)).count '@' := by
        obtain ⟨k, hk⟩ := Nat.exists_eq_add_of_lt hpos
        rw [hk, hv, Nat.zero_add, List.take_succ_cons, List.count_cons_self]
        exact Nat.succ_pos _
      refine .inr ?_
      rcases ih with ih | ih
      · rw [ih]
        omega
      · omega
  | case3 prev c cs ho hw ih => exact eq_or_count_lt_cons c ih
  | case4 prev c cs ho ih => exact eq_or_count_lt_cons c ih

/-! ## Where there are no repeats -/

/-- No display identifier has another identifier right behind it. -/
def NoRepeat : List Token → Prop
  | [] => True
  | .char _ :: ts => NoRepeat ts
  | .identifier i :: ts => (i.isDisplay = true → startsBare (written ts) = false) ∧ NoRepeat ts

theorem noRepeat_of_isDisplay {ts : List Token}
    (h : ∀ i, .identifier i ∈ ts → i.isDisplay = false) : NoRepeat ts := by
  induction ts with
  | nil => trivial
  | cons t ts ih =>
    have ih := ih fun i hi => h i (List.mem_cons_of_mem t hi)
    cases t with
    | char c => exact ih
    | identifier i =>
      refine ⟨fun hi => ?_, ih⟩
      rw [h i List.mem_cons_self] at hi
      cases hi

theorem NoGap.noRepeat {ts : List Token} (h : NoGap ts) : NoRepeat ts := by
  induction ts with
  | nil => trivial
  | cons t ts ih =>
    cases t with
    | char c => exact ih h
    | identifier i =>
      refine ⟨fun hi => ?_, ih h.2⟩
      have hgap := h.1
      rw [needsGap, Bool.and_eq_false_iff, Bool.not_eq_false'] at hgap
      refine hgap.resolve_left fun hlegacy => ?_
      cases i with
      | display source field shortId => cases hlegacy
      | system id field => cases hlegacy
      | legacy kind id field => cases hi

/-- A text without repeats is left as it is. -/
theorem collapseAfter_written {prev : Option Char} {ts : List Token} (h : Reading prev ts)
    (hts : NoRepeat ts) : collapseAfter prev (written ts) = written ts := by
  induction h with
  | nil prev => rw [written_nil, collapseAfter]
  | @char prev c ts h _ ih =>
    have hglued : opensAfter prev = true → readGlued (c :: written ts) = none := by
      intro ho
      rw [readAfter, if_pos ho] at h
      rw [Option.eq_none_iff_forall_ne_some]
      rintro ⟨w, r⟩ hw
      obtain ⟨i, hi, -⟩ := read_of_readGlued hw
      rw [h] at hi
      cases hi
    rw [written_cons, Token.text, List.singleton_append, collapseAfter_none hglued, ih hts]
  | @identifier prev i ts ho h _ ih =>
    rw [written_cons, Token.text]
    cases hglued : readGlued (i.text ++ written ts) with
    | none =>
      have hat : '@' ∉ i.body := (wellFormed_of_read h).at_not_mem_body
      rw [Identifier.text, List.cons_append] at hglued ⊢
      rw [collapseAfter_none fun _ => hglued, collapseAfter_append_of_no_at hat, getLast?_body_or,
        ih hts.2]
    | some q =>
      obtain ⟨w, r⟩ := q
      obtain ⟨j, hj, rfl, hdisplay⟩ := read_of_readGlued hglued
      rw [StandsBefore, hj] at h
      cases h
      rw [collapseAfter_glued ho hglued,
        droppable_eq_zero (wellFormed_of_read hj) hdisplay (hts.1 hdisplay), Nat.zero_mul,
        List.drop_zero]
      exact congrArg (i.text ++ ·) (ih hts.2)

/-- **A text without display identifiers has no repeats.** -/
theorem collapse_eq_self {t : Text} (h : ∀ i, .identifier i ∈ tokens t → i.isDisplay = false) :
    collapse t = t := by
  have hw := collapseAfter_written (reading_tokens t) (noRepeat_of_isDisplay h)
  rwa [written_tokens] at hw

/-- **A separated text has no repeats.** -/
theorem collapse_of_separate {t : Text} (h : separate t = t) : collapse t = t := by
  have hgap := noGap_tokens_separate t
  rw [h] at hgap
  have hw := collapseAfter_written (reading_tokens t) hgap.noRepeat
  rwa [written_tokens] at hw

end LiveText
