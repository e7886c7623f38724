import Mathlib.Logic.Function.Iterate
import LiveText.Proofs.Identifier.Separation

/-!
# Separating by passes

One pass of substitutions looks at the text as it was before the pass: an identifier is separated from
the next one only if it may start behind the character in front of it, and the spaces that the same
pass puts in do not count. So a pass does not see past an identifier that ends in a word character,
and one pass after another is needed until a pass has nothing left to do.

`separate` goes from the left just once, since it looks at the spaces that it has put in. The two come
to the same: a pass puts in only spaces that are put in anyway (`separate_pass`), every pass that
changes the text makes it longer (`passAfter_eq_or_length_lt`), and where a pass has nothing to do the
text is separated (`pass_eq_self_iff_separate`). So the passes come to an end with the separated text,
after as many of them at most as there are spaces to put in (`exists_iterate_pass`).
-/

set_option autoImplicit false

namespace LiveText

open Text Identifier

/-! ## One pass -/

/-- Reads an identifier that has another one right behind it. -/
def Identifier.readAdjacent (prev : Option Char) (t : Text) : Option (Identifier × Text) :=
  (readAfter prev t).filter fun q => q.1.needsGap q.2

/-- The text behind the character `prev`, with a space behind every identifier that another one stands
right behind. Where an identifier may start is told by the text as it was. -/
def passAfter (prev : Option Char) (t : Text) : Text :=
  match _h : readAdjacent prev t with
  | some (i, r) => i.text ++ ' ' :: passAfter i.lastChar r
  | none =>
    match t with
    | [] => []
    | c :: cs => c :: passAfter (some c) cs
termination_by t.length
decreasing_by
  · exact length_lt_of_readAfter (Option.eq_some_of_filter_eq_some _h)
  · simp

/-- One pass over a text. -/
def pass (t : Text) : Text := passAfter none t

section
variable {prev : Option Char} {i : Identifier} {r t : Text}

/-- What is separated is any identifier of the display or the system form, whatever text it is made
of, in front of something that looks like an identifier from its first characters. -/
theorem Identifier.readAdjacent_eq_some_iff :
    readAdjacent prev t = some (i, r) ↔
      opensAfter prev = true ∧ t = i.text ++ r ∧ i.WellFormed ∧ i.needsGap r = true := by
  rw [readAdjacent, Option.filter_eq_some_iff, readAfter_eq_some_iff]
  constructor
  · rintro ⟨⟨ho, ht, hi⟩, hgap⟩
    exact ⟨ho, ht, wellFormed_of_read hi, hgap⟩
  · rintro ⟨ho, ht, hi, hgap⟩
    exact ⟨⟨ho, ht, standsBefore_of_stops hi (stops_of_needsGap hgap)⟩, hgap⟩

theorem Identifier.readAdjacent_of_readAfter (h : readAfter prev t = none) :
    readAdjacent prev t = none := by
  rw [readAdjacent, h]
  rfl

/-- Where an identifier stands, no other one is separated. -/
theorem Identifier.readAdjacent_eq_none (h : StandsBefore i r)
    (hgap : opensAfter prev = true → i.needsGap r = false) :
    readAdjacent prev (i.text ++ r) = none := by
  cases ho : opensAfter prev with
  | true =>
    have hread : readAfter prev (i.text ++ r) = some (i, r) := readAfter_eq_some_iff.2 ⟨ho, rfl, h⟩
    rw [readAdjacent, hread, Option.filter_some, hgap ho]
    rfl
  | false => exact readAdjacent_of_readAfter (readAfter_of_not_opens ho _)

theorem passAfter_some (h : readAdjacent prev t = some (i, r)) :
    passAfter prev t = i.text ++ ' ' :: passAfter i.lastChar r := by
  rw [passAfter]
  split
  · next j s hj =>
    rw [h] at hj
    cases hj
    rfl
  · next hj =>
    rw [h] at hj
    cases hj

theorem passAfter_none {c : Char} (h : readAdjacent prev (c :: t) = none) :
    passAfter prev (c :: t) = c :: passAfter (some c) t := by
  rw [passAfter]
  split
  · next j s hj =>
    rw [h] at hj
    cases hj
  · rfl

theorem passAfter_nil (prev : Option Char) : passAfter prev [] = [] := by
  have hnil : readAfter prev [] = none := by
    rw [Option.eq_none_iff_forall_ne_some]
    exact fun q hq => absurd (length_lt_of_readAfter hq) (Nat.not_lt_zero _)
  rw [passAfter]
  split
  · next j s hj =>
    rw [readAdjacent_of_readAfter hnil] at hj
    cases hj
  · rfl

/-- Inside of an identifier there is nothing to separate. -/
theorem passAfter_text (hi : i.WellFormed) (h : readAdjacent prev (i.text ++ r) = none) :
    passAfter prev (i.text ++ r) = i.text ++ passAfter i.lastChar r := by
  have hbody : ∀ u : Text, '@' ∉ u → ∀ p, passAfter p (u ++ r) =
      u ++ passAfter (u.getLast?.or p) r := by
    intro u hu p
    induction u generalizing p with
    | nil => rfl
    | cons c u ih =>
      rw [List.mem_cons, not_or] at hu
      rw [List.cons_append,
        passAfter_none (readAdjacent_of_readAfter (readAfter_of_ne_at p (Ne.symm hu.1) _)), ih hu.2,
        getLast?_cons_or]
      rfl
  rw [Identifier.text, List.cons_append] at h ⊢
  rw [passAfter_none h, hbody i.body hi.at_not_mem_body, getLast?_body_or]
  rfl

end

/-! ## What a pass leaves alone -/

/-- Spaces are put behind identifiers only. -/
theorem sameStart_passAfter (prev : Option Char) (t : Text) : SameStart t (passAfter prev t) := by
  fun_induction passAfter prev t with
  | case1 prev t i r h _ =>
    obtain ⟨-, rfl, -⟩ := readAdjacent_eq_some_iff.1 h
    exact sameStart_of_stops (i.stops_text_append _) (i.stops_text_append _)
  | case2 => exact sameStart_of_stops stops_nil stops_nil
  | case3 prev c cs _ ih => exact ih.cons c

theorem startsBare_passAfter (prev : Option Char) (t : Text) :
    startsBare (passAfter prev t) = startsBare t := by
  fun_induction passAfter prev t with
  | case1 prev t i r h _ =>
    obtain ⟨-, rfl, hi, hgap⟩ := readAdjacent_eq_some_iff.1 h
    rw [startsBare_of_read (standsBefore_of_stops hi (stops_of_needsGap hgap)),
      startsBare_of_read (standsBefore_of_stops hi (stops_space _))]
  | case2 => rfl
  | case3 prev c cs _ _ => exact (startsBare_congr (sameStart_passAfter (some c) cs) c).symm

/-! ## Passing and separating -/

/-- A pass puts in only spaces that are put in anyway. Behind such a space an identifier starts that
the pass did not see, so the text is separated with more identifiers in sight than the pass had. -/
theorem separateAfter_passAfter {p q : Option Char} (h : opensAfter q = true → opensAfter p = true)
    (t : Text) : separateAfter p (passAfter q t) = separateAfter p t := by
  fun_induction separateAfter p t generalizing q with
  | case1 p t i r hread hgap ih =>
    obtain ⟨ho, rfl, hi⟩ := readAfter_eq_some_iff.1 hread
    have hwell := wellFormed_of_read hi
    have hrest : separateAfter (some ' ') (passAfter i.lastChar r) = separateAfter (some ' ') r :=
      ih fun _ => rfl
    cases hq : opensAfter q with
    | true =>
      have hspace : readAfter i.lastChar (' ' :: passAfter i.lastChar r) = none :=
        readAfter_of_ne_at _ (by decide) _
      rw [passAfter_some (readAdjacent_eq_some_iff.2 ⟨hq, rfl, hwell, hgap⟩),
        separateAfter_noGap ho (standsBefore_of_stops hwell (stops_space _))
          (by simp [needsGap, startsBare]),
        separateAfter_none hspace, hrest]
    | false =>
      -- the pass does not see the identifier, which is still separated from the next one
      have hgap' : i.needsGap (passAfter i.lastChar r) = true := by
        rwa [needsGap, startsBare_passAfter]
      rw [passAfter_text hwell (readAdjacent_eq_none hi fun ho' => by rw [hq] at ho'; cases ho'),
        separateAfter_gap ho (hi.congr (sameStart_passAfter i.lastChar r)) hgap', hrest]
  | case2 p t i r hread hgap ih =>
    obtain ⟨ho, rfl, hi⟩ := readAfter_eq_some_iff.1 hread
    have hgap : i.needsGap r = false := by simpa using hgap
    have hgap' : i.needsGap (passAfter i.lastChar r) = false := by
      rwa [needsGap, startsBare_passAfter]
    rw [passAfter_text (wellFormed_of_read hi) (readAdjacent_eq_none hi fun _ => hgap),
      separateAfter_noGap ho (hi.congr (sameStart_passAfter i.lastChar r)) hgap', ih fun h => h]
  | case3 p hread => rw [passAfter_nil, separateAfter_nil]
  | case4 p c cs hread ih =>
    have hnone : readAfter q (c :: cs) = none := by
      cases ho : opensAfter q with
      | true =>
        have hsame : readAfter q (c :: cs) = readAfter p (c :: cs) := by
          rw [readAfter, readAfter, ho, h ho]
        rw [hsame, hread]
      | false => exact readAfter_of_not_opens ho _
    rw [passAfter_none (readAdjacent_of_readAfter hnone),
      separateAfter_none (readAfter_none_congr hread (sameStart_passAfter (some c) cs) rfl),
      ih fun h => h]

/-- **A pass takes nothing away from what is left to do**, and adds nothing to it. -/
theorem separate_pass (t : Text) : separate (pass t) = separate t :=
  separateAfter_passAfter (fun h => h) t

theorem passAfter_eq_or_length_lt (prev : Option Char) (t : Text) :
    passAfter prev t = t ∨ t.length < (passAfter prev t).length := by
  fun_induction passAfter prev t with
  | case1 prev t i r h ih =>
    obtain ⟨-, rfl, -⟩ := readAdjacent_eq_some_iff.1 h
    have hle : r.length ≤ (passAfter i.lastChar r).length :=
      ih.elim (fun h => Nat.le_of_eq (congrArg List.length h).symm) Nat.le_of_lt
    refine .inr ?_
    rw [List.length_append, List.length_append, List.length_cons]
    omega
  | case2 => exact .inl rfl
  | case3 prev c cs h ih => exact ih.imp (congrArg (c :: ·)) Nat.succ_lt_succ

/-- Separating makes no text shorter. -/
theorem length_le_separateAfter (prev : Option Char) (t : Text) :
    t.length ≤ (separateAfter prev t).length := by
  fun_induction separateAfter prev t with
  | case1 prev t i r h hgap ih =>
    obtain ⟨-, rfl, -⟩ := readAfter_eq_some_iff.1 h
    rw [List.length_append, List.length_append, List.length_cons]
    omega
  | case2 prev t i r h hgap ih =>
    obtain ⟨-, rfl, -⟩ := readAfter_eq_some_iff.1 h
    rw [List.length_append, List.length_append]
    omega
  | case3 => exact Nat.le_refl _
  | case4 prev c cs h ih => exact Nat.succ_le_succ ih

theorem separateAfter_of_passAfter {prev : Option Char} {t : Text} (h : passAfter prev t = t) :
    separateAfter prev t = t := by
  fun_induction separateAfter prev t with
  | case1 prev t i r hread hgap ih =>
    obtain ⟨ho, rfl, hi⟩ := readAfter_eq_some_iff.1 hread
    have hadjacent := readAdjacent_eq_some_iff.2 ⟨ho, rfl, wellFormed_of_read hi, hgap⟩
    rw [passAfter_some hadjacent] at h
    obtain ⟨v, rfl⟩ := at_of_needsGap hgap
    cases List.append_cancel_left h
  | case2 prev t i r hread hgap ih =>
    obtain ⟨ho, rfl, hi⟩ := readAfter_eq_some_iff.1 hread
    have hgap : i.needsGap r = false := by simpa using hgap
    rw [passAfter_text (wellFormed_of_read hi) (readAdjacent_eq_none hi fun _ => hgap)] at h
    rw [ih (List.append_cancel_left h)]
  | case3 => rfl
  | case4 prev c cs hread ih =>
    rw [passAfter_none (readAdjacent_of_readAfter hread)] at h
    rw [ih (List.cons.inj h).2]

/-- **A pass has nothing to do if and only if the text is separated.** -/
theorem pass_eq_self_iff_separate {t : Text} : pass t = t ↔ separate t = t := by
  refine ⟨separateAfter_of_passAfter, fun h => ?_⟩
  have hle := length_le_separateAfter none (pass t)
  rw [← separate, separate_pass, h] at hle
  exact (passAfter_eq_or_length_lt none t).resolve_right (Nat.not_lt.2 hle)

/-- **The passes come to an end**, and then the text is separated. Up to there every pass changes the
text, and there are at most as many passes as spaces to put in. -/
theorem exists_iterate_pass (t : Text) :
    ∃ n, pass^[n] t = separate t ∧ (∀ m < n, pass^[m + 1] t ≠ pass^[m] t) ∧
      n + t.length ≤ (separate t).length := by
  by_cases h : pass t = t
  · refine ⟨0, (pass_eq_self_iff_separate.1 h).symm, fun m hm => absurd hm (Nat.not_lt_zero m), ?_⟩
    rw [Nat.zero_add]
    exact length_le_separateAfter none t
  · have hlonger : t.length < (pass t).length := (passAfter_eq_or_length_lt none t).resolve_left h
    have hle : (pass t).length ≤ (separate t).length := by
      rw [← separate_pass]
      exact length_le_separateAfter none (pass t)
    obtain ⟨n, hn, hchange, hlength⟩ := exists_iterate_pass (pass t)
    rw [separate_pass] at hn hlength
    refine ⟨n + 1, hn, fun m hm => ?_, by omega⟩
    cases m with
    | zero => exact h
    | succ m => exact hchange m (Nat.lt_of_succ_lt_succ hm)
termination_by (separate t).length - t.length
decreasing_by
  rw [separate_pass]
  omega

end LiveText
