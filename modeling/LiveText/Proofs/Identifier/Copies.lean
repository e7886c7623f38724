import LiveText.Proofs.Identifier.Grammar
import LiveText.Proofs.Identifier.Repeats

/-!
# The repeats that are dropped

Behind a display identifier the copies of it are counted as far as they go (`copies_append`,
`copies_of_not_prefix`). All of them are dropped, but for the last one where the text runs on: then
that copy is the beginning of another identifier. So an identifier is read in front of every text that
does not run on (`standsBefore_of_not_runsOn`), and nothing is dropped in front of another identifier
(`droppable_text_append`).

## What is here

* `copies_spec`: the copies and what is behind them make up the text.
* `droppable_append`: one copy more can be dropped in front of a text that does not run on.
* `collapseAfter_append_stop`: behind a stop that opens no identifier a text is collapsed on its own.
-/

set_option autoImplicit false

namespace LiveText

open Text Identifier

/-! ## Counting copies -/

/-- All copies can be dropped, but for the last one where the text runs on. -/
theorem droppable_eq (w t : Text) :
    droppable w t = if runsOn (copies w t).2 then (copies w t).1 - 1 else (copies w t).1 := rfl

section
variable {w : Text} (hw : w ≠ [])
include hw

theorem copies_append (t : Text) : copies w (w ++ t) = ((copies w t).1 + 1, (copies w t).2) := by
  have hliteral : literal? w (w ++ t) = some t := literal?_eq_some_iff.2 rfl
  rw [copies, dif_neg hw]
  split
  · next r hr =>
    rw [hliteral] at hr
    cases hr
    rfl
  · next hr =>
    rw [hliteral] at hr
    cases hr

/-- The copies and what is behind them make up the text. -/
theorem copies_spec (t : Text) : (List.replicate (copies w t).1 w).flatten ++ (copies w t).2 = t := by
  fun_induction copies w t with
  | case1 t h => exact absurd h hw
  | case2 t _ r h ih =>
    rw [literal?_append h, List.replicate_succ, List.flatten_cons, List.append_assoc, ih]
  | case3 t _ h => rfl

/-- What is dropped is part of the text. -/
theorem droppable_mul_length_le (t : Text) : droppable w t * w.length ≤ t.length := by
  have hspec := congrArg List.length (copies_spec hw t)
  have hle : droppable w t ≤ (copies w t).1 := by
    rw [droppable_eq]
    split
    · exact Nat.sub_le _ 1
    · exact Nat.le_refl _
  have hmul := Nat.mul_le_mul_right w.length hle
  rw [List.length_append, List.length_flatten, List.map_replicate, List.sum_replicate_nat] at hspec
  omega

/-- In front of a text that does not run on there is one copy more to drop. -/
theorem droppable_append {t : Text} (ht : runsOn t = false) :
    droppable w (w ++ t) = droppable w t + 1 := by
  rw [droppable_eq, droppable_eq, copies_append hw]
  dsimp only
  split
  · next hrest =>
    -- the text itself does not run on, so there is a copy in front of what does
    have hpos : (copies w t).1 ≠ 0 := by
      intro hzero
      have hspec := copies_spec hw t
      rw [hzero, List.replicate_zero, List.flatten_nil, List.nil_append] at hspec
      rw [hspec, ht] at hrest
      cases hrest
    omega
  · rfl

end

/-! ## Copies of an identifier -/

theorem runsOn_of_stops {t : Text} (h : Stops t) : runsOn t = false := by
  cases t with
  | nil => rfl
  | cons c t =>
    have hc := h c rfl
    have hne : c ≠ '#' := ne_of_class hc (by decide)
    simp [runsOn, not_isWord_of_isStop hc, hne]

namespace Identifier

/-- **A display identifier stands before every text that does not run on.** -/
theorem standsBefore_of_not_runsOn {i : Identifier} (h : i.WellFormed) (hi : i.isDisplay = true)
    {s : Text} (hs : runsOn s = false) : StandsBefore i s := by
  have hhead : ∀ c ∈ s.head?, isWord c = false ∧ c ≠ '#' := by
    intro c hc
    obtain ⟨u, rfl⟩ := List.head?_eq_some_iff.1 hc
    rwa [runsOn, Bool.or_eq_false_iff, beq_eq_false_iff_ne] at hs
  cases i with
  | display source field shortId =>
    cases shortId with
    | some w => exact standsBefore_display h fun c hc => (hhead c hc).1
    | none =>
      have hshort : readShortId s = none := by
        rw [Option.eq_none_iff_forall_ne_some]
        rintro ⟨w, r⟩ hw
        obtain ⟨u, rfl, -⟩ := readShortId_eq_some_iff.1 hw
        exact (hhead '#' rfl).2 rfl
      obtain ⟨hsource, hfield, -⟩ := h
      have h1 := hsource.run?_append (r := '.' :: (field ++ s)) (by simp; decide)
      have h2 := hfield.run?_append fun c hc => (hhead c hc).1
      have hread : readDisplay (source ++ '.' :: (field ++ s)) =
          some (display source field none, s) := by
        simp [readDisplay, literal?, h1, h2, hshort]
      have htext : (display source field none).text ++ s = '@' :: (source ++ '.' :: (field ++ s)) := by
        simp [text, body, optionalPart]
      rw [StandsBefore, htext, read_of_readDisplay hread]
  | system id field => cases hi
  | legacy kind id field => cases hi

/-- Where copies of a display identifier go on into another identifier, there is nothing to drop. -/
theorem droppable_text_append {i j : Identifier} (hi : i.WellFormed) (hdisplay : i.isDisplay = true)
    (hj : j.WellFormed) (hne : j ≠ i) {t : Text} (ht : Stops t) :
    droppable i.text (j.text ++ t) = 0 := by
  by_cases hcopy : ∃ r, j.text ++ t = i.text ++ r
  · obtain ⟨r, hr⟩ := hcopy
    have hread : Identifier.read (i.text ++ r) = some (j, t) := by
      rw [← hr]
      exact standsBefore_of_stops hj ht
    -- the one copy runs on, or else it would be what is read here
    have hruns : runsOn r = true := by
      by_contra hruns
      have hown := standsBefore_of_not_runsOn hi hdisplay (Bool.eq_false_iff.2 hruns)
      rw [StandsBefore, hread] at hown
      cases hown
      exact hne rfl
    have hlast : copies i.text r = (0, r) := by
      refine copies_of_not_prefix i.text_ne_nil ?_
      rintro s rfl
      rw [runsOn_of_stops (i.stops_text_append s)] at hruns
      cases hruns
    rw [hr, droppable_eq, copies_append i.text_ne_nil, hlast]
    exact if_pos hruns
  · exact droppable_of_not_prefix i.text_ne_nil fun r hr => hcopy ⟨r, hr⟩

end Identifier

/-! ## Collapsing behind a stop -/

/-- What is glued to a display identifier begins with an at sign. -/
theorem Identifier.readGlued_at (t : Text) :
    readGlued ('@' :: t) =
      (readDisplay t).bind fun q => if q.2.head? = some '@' then some (q.1.text, q.2) else none := by
  rw [readGlued]
  split
  · next i r h =>
    rw [h]
    rfl
  · next h =>
    cases hread : readDisplay t with
    | none => rfl
    | some q =>
      refine (if_neg fun hq => ?_).symm
      obtain ⟨r, hr⟩ := List.head?_eq_some_iff.1 hq
      exact h q.1 r (by rw [hread, ← hr])

theorem copies_append_stop {c : Char} {w : Text} (hw : c ∉ w) (t u : Text) :
    copies w (t ++ c :: u) = ((copies w t).1, (copies w t).2 ++ c :: u) := by
  fun_induction copies w t with
  | case1 t h => rw [copies, dif_pos h]
  | case2 t h r hr ih =>
    rw [literal?_append hr, List.append_assoc, copies_append h, ih]
  | case3 t h hr =>
    refine copies_of_not_prefix h fun r ht => ?_
    have hliteral := literal?_append_stop (l := w) (x := c :: u) (by simpa using hw) t
    rw [hr, ht, literal?_eq_some_iff.2 rfl] at hliteral
    cases hliteral

section
variable {c : Char} (hc : isStop c = true) (hat : c ≠ '@') (u : Text)
include hc

theorem droppable_append_stop {w : Text} (hw : c ∉ w) (t : Text) :
    droppable w (t ++ c :: u) = droppable w t := by
  have hruns : ∀ r : Text, runsOn (r ++ c :: u) = runsOn r := by
    intro r
    cases r with
    | nil => exact runsOn_of_stops (stops_cons hc u)
    | cons d r => rfl
  rw [droppable_eq, droppable_eq, copies_append_stop hw]
  dsimp only
  rw [hruns]

include hat

theorem Identifier.readGlued_append_stop (t : Text) :
    readGlued (t ++ c :: u) = (readGlued t).map fun q => (q.1, q.2 ++ c :: u) := by
  cases t with
  | nil =>
    rw [List.nil_append, readGlued_of_ne_at hat]
    rfl
  | cons d t =>
    by_cases hd : d = '@'
    · subst hd
      rw [List.cons_append, readGlued_at, readGlued_at, readDisplay_append_stop (stops_cons hc u)]
      cases readDisplay t with
      | none => rfl
      | some q =>
        have hhead : (q.2 ++ c :: u).head? = some '@' ↔ q.2.head? = some '@' := by
          cases q.2 with
          | nil => simp [hat]
          | cons e r => rfl
        rw [Option.map_some, Option.bind_some, Option.bind_some, apply_ite (Option.map _)]
        exact if_congr hhead rfl rfl
    · rw [List.cons_append, readGlued_of_ne_at hd, readGlued_of_ne_at hd]
      rfl

/-- **Behind a stop that opens no identifier a text is collapsed on its own.** -/
theorem collapseAfter_append_stop (prev : Option Char) (t : Text) :
    collapseAfter prev (t ++ c :: u) = collapseAfter prev t ++ c :: collapseAfter (some c) u := by
  have hglued := readGlued_append_stop hc hat u
  fun_induction collapseAfter prev t with
  | case1 prev =>
    rw [List.nil_append, collapseAfter_none fun _ => readGlued_of_ne_at hat u]
    rfl
  | case2 prev d ds ho w r hw ih =>
    obtain ⟨i, hi, rfl, -⟩ := read_of_readGlued hw
    have hcw : c ∉ i.text := by
      rw [Identifier.text, List.mem_cons, not_or]
      refine ⟨hat, fun hm => ?_⟩
      have hnot := (wellFormed_of_read hi).not_isStop c hm
      rw [hc] at hnot
      cases hnot
    have hlong : readGlued (d :: ds ++ c :: u) = some (i.text, r ++ c :: u) := by
      rw [hglued, hw]
      rfl
    rw [collapseAfter_glued ho hlong, droppable_append_stop hc u hcw,
      List.drop_append_of_le_length (droppable_mul_length_le i.text_ne_nil r), ih,
      List.append_assoc]
  | case3 prev d ds ho hw ih =>
    have hlong : readGlued (d :: (ds ++ c :: u)) = none := by
      rw [← List.cons_append, hglued, hw]
      rfl
    rw [List.cons_append, collapseAfter_none fun _ => hlong, ih]
    rfl
  | case4 prev d ds ho ih =>
    rw [List.cons_append, collapseAfter_none fun h => absurd h ho, ih]
    rfl

end

end LiveText
