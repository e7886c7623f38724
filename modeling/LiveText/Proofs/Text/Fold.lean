import LiveText.Text.Fold

/-!
# Folding ASCII texts

An ASCII text is folded character by character, so its folding is as long as the text, and the
folding of its start is the start of its folding.
-/

set_option autoImplicit false

namespace LiveText.Text

theorem fold_of_ascii {t : Text} (h : ∀ c ∈ t, c.toNat < 128) : fold t = t.map Char.toLower := by
  induction t with
  | nil => rfl
  | cons c t ih =>
    obtain ⟨hc, ht⟩ := List.forall_mem_cons.1 h
    rw [fold, List.flatMap_cons, foldChar_of_ascii hc, ← fold, ih ht, List.map_cons,
      List.singleton_append]

theorem length_fold_of_ascii {t : Text} (h : ∀ c ∈ t, c.toNat < 128) :
    (fold t).length = t.length := by
  rw [fold_of_ascii h, List.length_map]

/-- The folding of a text starts with that of its start. -/
theorem prefix_fold_take (n : Nat) (t : Text) : fold (t.take n) <+: fold t := by
  refine ⟨fold (t.drop n), ?_⟩
  rw [← fold_append, List.take_append_drop]

/-- Where the folding of an ASCII text starts with that of another one, the two start alike. -/
theorem fold_take_of_prefix {s t : Text} (hs : ∀ c ∈ s, c.toNat < 128)
    (ht : ∀ c ∈ t, c.toNat < 128) (h : fold s <+: fold t) : fold (t.take s.length) = fold s := by
  have hle : s.length ≤ t.length := by
    have := h.length_le
    rwa [length_fold_of_ascii hs, length_fold_of_ascii ht] at this
  have htake : ∀ c ∈ t.take s.length, c.toNat < 128 := fun c hc => ht c (List.mem_of_mem_take hc)
  have hlen : (fold (t.take s.length)).length = (fold s).length := by
    rw [length_fold_of_ascii htake, length_fold_of_ascii hs, List.length_take, Nat.min_eq_left hle]
  exact (List.prefix_of_prefix_length_le (prefix_fold_take s.length t) h (Nat.le_of_eq hlen)).eq_of_length
    hlen

end LiveText.Text
