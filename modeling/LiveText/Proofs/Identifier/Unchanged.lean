import LiveText.Proofs.Identifier.Repeats
import LiveText.Proofs.Identifier.RunningOn

/-!
# Texts that a pass leaves as they are

A pass collapses the repeats of a text, separates its identifiers and replaces them. The text stays as
it is if and only if each of the three steps has nothing to do (`pass_eq_self_iff`): what one step
takes away is not put back by another one.

Two things are counted for this. Every replacement has one at sign, as the identifier has that it
replaces, and separating writes none; so a text that comes out unchanged had no repeat, since
collapsing takes at signs away. And up to the next at sign a text with its identifiers replaced reads
as it did; so a text that comes out unchanged has its identifiers where they were.
-/

set_option autoImplicit false

namespace LiveText

open Text Identifier

@[simp] theorem substitute_char (f : Identifier → Text) (c : Char) (ts : List Token) :
    substitute f (.char c :: ts) = c :: substitute f ts := rfl

@[simp] theorem substitute_identifier (f : Identifier → Text) (i : Identifier) (ts : List Token) :
    substitute f (.identifier i :: ts) = f i ++ substitute f ts := rfl

/-- The text has one at sign, at its start. -/
def Marked (t : Text) : Prop := ∃ b, t = '@' :: b ∧ '@' ∉ b

theorem marked_text {i : Identifier} (h : i.WellFormed) : Marked i.text :=
  ⟨i.body, rfl, h.at_not_mem_body⟩

theorem Marked.count_eq_one {t : Text} (h : Marked t) : t.count '@' = 1 := by
  obtain ⟨b, rfl, hb⟩ := h
  rw [List.count_cons_self, List.count_eq_zero_of_not_mem hb]

/-- Texts without the character `c` are equal if they stand before texts that agree up to the next
`c`. -/
theorem append_inj_of_takeWhile {c : Char} {b b' u u' : Text} (hb : c ∉ b) (hb' : c ∉ b')
    (hu : u.takeWhile (· != c) = u'.takeWhile (· != c)) (h : b ++ u = b' ++ u') :
    b = b' ∧ u = u' := by
  have outside : ∀ {v : Text}, c ∉ v → ∀ d ∈ v, (d != c) = true := by
    intro v hv d hd
    simpa using ne_of_mem_of_not_mem hd hv
  have htake := congrArg (List.takeWhile (· != c)) h
  rw [List.takeWhile_append_of_pos (outside hb), List.takeWhile_append_of_pos (outside hb'),
    hu] at htake
  obtain rfl := List.append_cancel_right htake
  exact ⟨rfl, List.append_cancel_left h⟩

section
variable {f : Identifier → Text} (hf : ∀ i : Identifier, i.WellFormed → Marked (f i))
include hf

/-- Separating a text and replacing its identifiers keeps the number of its at signs. -/
theorem count_substitute_separateAfter (prev : Option Char) (t : Text) :
    (substitute f (tokensAfter prev (separateAfter prev t))).count '@' = t.count '@' := by
  fun_induction separateAfter prev t with
  | case1 prev t i r h hgap ih =>
    obtain ⟨ho, rfl, hi⟩ := readAfter_eq_some_iff.1 h
    have hwell := wellFormed_of_read hi
    rw [← separateAfter_gap ho hi hgap, tokensAfter_separateAfter_gap ho hi hgap,
      substitute_identifier, substitute_char, List.count_append, List.count_append,
      (hf i hwell).count_eq_one, (marked_text hwell).count_eq_one,
      List.count_cons_of_ne (by decide), ih]
  | case2 prev t i r h hgap ih =>
    obtain ⟨ho, rfl, hi⟩ := readAfter_eq_some_iff.1 h
    have hgap : i.needsGap r = false := by simpa using hgap
    have hwell := wellFormed_of_read hi
    rw [← separateAfter_noGap ho hi hgap, tokensAfter_separateAfter_noGap ho hi hgap,
      substitute_identifier, List.count_append, List.count_append,
      (hf i hwell).count_eq_one, (marked_text hwell).count_eq_one, ih]
  | case3 prev h => rw [tokensAfter_nil]; rfl
  | case4 prev c cs h ih =>
    rw [← separateAfter_none h, tokensAfter_separateAfter_none h, substitute_char, List.count_cons,
      List.count_cons, ih]

/-- Up to the next at sign, nothing changes. -/
theorem takeWhile_substitute_separateAfter (prev : Option Char) (t : Text) :
    (substitute f (tokensAfter prev (separateAfter prev t))).takeWhile (· != '@') =
      t.takeWhile (· != '@') := by
  have atIdentifier : ∀ {i : Identifier} (r s : Text), i.WellFormed →
      (f i ++ s).takeWhile (· != '@') = (i.text ++ r).takeWhile (· != '@') := by
    intro i r s hi
    obtain ⟨b, hb, -⟩ := hf i hi
    rw [hb]
    rfl
  fun_induction separateAfter prev t with
  | case1 prev t i r h hgap ih =>
    obtain ⟨ho, rfl, hi⟩ := readAfter_eq_some_iff.1 h
    rw [← separateAfter_gap ho hi hgap, tokensAfter_separateAfter_gap ho hi hgap,
      substitute_identifier]
    exact atIdentifier _ _ (wellFormed_of_read hi)
  | case2 prev t i r h hgap ih =>
    obtain ⟨ho, rfl, hi⟩ := readAfter_eq_some_iff.1 h
    have hgap : i.needsGap r = false := by simpa using hgap
    rw [← separateAfter_noGap ho hi hgap, tokensAfter_separateAfter_noGap ho hi hgap,
      substitute_identifier]
    exact atIdentifier _ _ (wellFormed_of_read hi)
  | case3 prev h => rw [tokensAfter_nil]; rfl
  | case4 prev c cs h ih =>
    rw [← separateAfter_none h, tokensAfter_separateAfter_none h, substitute_char,
      List.takeWhile_cons, List.takeWhile_cons, ih]

/-- A text that separating and replacing leave as it is was separated, and each of its identifiers
stands for itself. -/
theorem of_substitute_separateAfter_eq {prev : Option Char} {t : Text}
    (heq : substitute f (tokensAfter prev (separateAfter prev t)) = t) :
    separateAfter prev t = t ∧ ∀ i, .identifier i ∈ tokensAfter prev t → f i = i.text := by
  fun_induction separateAfter prev t with
  | case1 prev t i r h hgap ih =>
    -- the space would have to be a part of the identifier
    obtain ⟨ho, rfl, hi⟩ := readAfter_eq_some_iff.1 h
    have hwell := wellFormed_of_read hi
    obtain ⟨b, hb, hat⟩ := hf i hwell
    obtain ⟨v, rfl⟩ := at_of_needsGap hgap
    rw [← separateAfter_gap ho hi hgap, tokensAfter_separateAfter_gap ho hi hgap,
      substitute_identifier, substitute_char, hb, Identifier.text, List.cons_append, List.cons_append,
      List.cons.injEq] at heq
    obtain ⟨w, hbody, hw⟩ := exists_eq_append_of_notMem hat heq.2
    cases w with
    | nil => cases hw
    | cons c w =>
      obtain ⟨rfl, -⟩ := List.cons.inj hw
      have hspace := hwell.not_isStop ' ' (hbody ▸ List.mem_append_right b List.mem_cons_self)
      exact absurd hspace (by decide)
  | case2 prev t i r h hgap ih =>
    obtain ⟨ho, rfl, hi⟩ := readAfter_eq_some_iff.1 h
    have hgap : i.needsGap r = false := by simpa using hgap
    have hwell := wellFormed_of_read hi
    obtain ⟨b, hb, hat⟩ := hf i hwell
    rw [← separateAfter_noGap ho hi hgap, tokensAfter_separateAfter_noGap ho hi hgap,
      substitute_identifier, hb, Identifier.text, List.cons_append, List.cons_append,
      List.cons.injEq] at heq
    obtain ⟨rfl, hbehind⟩ := append_inj_of_takeWhile hat hwell.at_not_mem_body
      (takeWhile_substitute_separateAfter hf _ r) heq.2
    obtain ⟨hseparate, hrest⟩ := ih hbehind
    rw [hseparate, tokensAfter_some ho hi]
    refine ⟨rfl, fun j hj => ?_⟩
    rcases List.mem_cons.1 hj with hj | hj
    · cases hj
      exact hb
    · exact hrest j hj
  | case3 prev h =>
    rw [tokensAfter_nil]
    exact ⟨rfl, fun i hi => absurd hi List.not_mem_nil⟩
  | case4 prev c cs h ih =>
    rw [← separateAfter_none h, tokensAfter_separateAfter_none h, substitute_char,
      List.cons.injEq] at heq
    obtain ⟨hseparate, hrest⟩ := ih heq.2
    rw [hseparate, tokensAfter_none h]
    exact ⟨rfl, fun i hi => hrest i ((List.mem_cons.1 hi).resolve_left (by simp))⟩

end

/-- **A pass leaves a text as it is if and only if it has nothing to do**: no gap is missing, and no
identifier is replaced. -/
theorem pass_eq_self_iff {f : Identifier → Option Text}
    (hf : ∀ i : Identifier, i.WellFormed → ∀ u, f i = some u → Marked u ∧ u ≠ i.text) {t : Text} :
    replaceIdentifiers f (separate (collapse t)) = t ↔
      separate t = t ∧ ∀ i, .identifier i ∈ tokens t → f i = none := by
  have hmarked : ∀ i : Identifier, i.WellFormed → Marked ((f i).getD i.text) := by
    intro i hi
    cases hfi : f i with
    | none => exact marked_text hi
    | some u => exact (hf i hi u hfi).1
  constructor
  · intro heq
    have hcollapse : collapse t = t := by
      refine (collapseAfter_eq_or_count_lt none t).resolve_right fun hlt => ?_
      have hcount := count_substitute_separateAfter hmarked none (collapse t)
      change (replaceIdentifiers f (separate (collapse t))).count '@' = _ at hcount
      rw [heq] at hcount
      exact Nat.lt_irrefl _ (hcount ▸ hlt)
    rw [hcollapse] at heq
    obtain ⟨hseparate, hself⟩ := of_substitute_separateAfter_eq hmarked heq
    refine ⟨hseparate, fun i hi => ?_⟩
    have hwell := (reading_tokens t).wellFormed hi
    rw [Option.eq_none_iff_forall_ne_some]
    intro u hu
    have hi := hself i hi
    rw [hu, Option.getD_some] at hi
    exact (hf i hwell u hu).2 hi
  · rintro ⟨hseparate, hnone⟩
    rw [collapse_of_separate hseparate, hseparate, replaceIdentifiers]
    calc substitute (fun i => (f i).getD i.text) (tokens t)
      _ = substitute Identifier.text (tokens t) :=
          substitute_congr fun i hi => by rw [hnone i hi, Option.getD_none]
      _ = t := by rw [substitute_text, written_tokens]

end LiveText
