import LiveText.Proofs.Identifier.Appending

/-!
# Texts into which no space is put

A space is put into a text only between an identifier and an at sign right behind it. So none is put
into a text with one at sign at most (`tight_of_count`), nor into one that is put together of such
texts, if an identifier can neither go on from one of them into the next one nor begin at the start of
the next one (`Tight.append`). Whatever stands in front of such a text makes no difference (`Tight`).
-/

set_option autoImplicit false

namespace LiveText

open Identifier

/-- No space is put into the text, whatever character stands in front of it. -/
def Tight (t : Text) : Prop := ∀ prev, separateAfter prev t = t

/-- The text begins with a character that no identifier goes on with and that opens none. -/
def Fenced (t : Text) : Prop := ∃ c u, t = c :: u ∧ isStop c = true ∧ c ≠ '@'

theorem Fenced.stops {t : Text} (h : Fenced t) : Stops t := by
  obtain ⟨c, u, rfl, hc, -⟩ := h
  exact stops_cons hc u

/-- Without an at sign there is nothing to separate. -/
theorem separateAfter_append_of_no_at {u : Text} (hu : '@' ∉ u) (prev : Option Char) (t : Text) :
    separateAfter prev (u ++ t) = u ++ separateAfter (u.getLast?.or prev) t := by
  induction u generalizing prev with
  | nil => rfl
  | cons c u ih =>
    rw [List.mem_cons, not_or] at hu
    rw [List.cons_append, separateAfter_none (readAfter_of_ne_at prev (Ne.symm hu.1) _), ih hu.2,
      getLast?_cons_or]
    rfl

theorem tight_nil : Tight [] := separateAfter_nil

theorem Tight.prepend {t u : Text} (ht : Tight t) (hu : '@' ∉ u) : Tight (u ++ t) := fun prev => by
  rw [separateAfter_append_of_no_at hu, ht]

/-- Behind a tight text and a stop a text is separated on its own. -/
theorem Tight.separateAfter_append {t : Text} (ht : Tight t) {c : Char} (hc : isStop c = true)
    (hat : c ≠ '@') (prev : Option Char) (u : Text) :
    separateAfter prev (t ++ c :: u) = t ++ c :: separateAfter (some c) u := by
  rw [separateAfter_append_stop hc hat, ht]

theorem Tight.append {t u : Text} (ht : Tight t) (hu : Tight u) (hfence : Fenced u) :
    Tight (t ++ u) := by
  obtain ⟨c, v, rfl, hc, hat⟩ := hfence
  intro prev
  have hv := hu prev
  rw [separateAfter_none (readAfter_of_ne_at prev hat v)] at hv
  rw [ht.separateAfter_append hc hat, hv]

/-- **One at sign alone is no reason for a space.** -/
theorem tight_of_count {t : Text} (h : t.count '@' ≤ 1) : Tight t := by
  intro prev
  have hrest : ∀ {i : Identifier} {r : Text}, (i.text ++ r).count '@' ≤ 1 → r.count '@' = 0 := by
    intro i r hcount
    rw [text, List.cons_append, List.count_cons_self, List.count_append] at hcount
    omega
  fun_induction separateAfter prev t with
  | case1 prev t i r hr hgap _ =>
    obtain ⟨-, rfl, -⟩ := readAfter_eq_some_iff.1 hr
    obtain ⟨v, rfl⟩ := at_of_needsGap hgap
    exact absurd List.mem_cons_self (List.count_eq_zero.1 (hrest h))
  | case2 prev t i r hr _ ih =>
    obtain ⟨-, rfl, -⟩ := readAfter_eq_some_iff.1 hr
    rw [ih ((hrest h).symm ▸ Nat.zero_le 1)]
  | case3 => rfl
  | case4 prev c cs _ ih => rw [ih (Nat.le_trans List.count_le_count_cons h)]

end LiveText
