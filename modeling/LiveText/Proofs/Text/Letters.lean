import LiveText.Text.Basic

/-!
# ASCII letters and digits

The classes of ASCII characters as ranges of their numbers, in the form in which arithmetic settles
the rest.
-/

set_option autoImplicit false

namespace LiveText.Text

variable {c : Char}

/-- A range of characters is a range of numbers. -/
theorem between_iff (a b c : Char) :
    (decide (c.val ≥ a.val) && decide (c.val ≤ b.val)) = true ↔
      a.toNat ≤ c.toNat ∧ c.toNat ≤ b.toNat := by
  rw [Bool.and_eq_true, decide_eq_true_eq, decide_eq_true_eq, ge_iff_le, UInt32.le_iff_toNat_le,
    UInt32.le_iff_toNat_le]
  rfl

theorem isLower_iff : c.isLower = true ↔ 97 ≤ c.toNat ∧ c.toNat ≤ 122 := between_iff 'a' 'z' c

theorem isDigit_iff : c.isDigit = true ↔ 48 ≤ c.toNat ∧ c.toNat ≤ 57 := between_iff '0' '9' c

theorem isUpper_iff : c.isUpper = true ↔ 65 ≤ c.toNat ∧ c.toNat ≤ 90 := by
  show decide (c.val ≥ 'A'.val ∧ c.val ≤ 'Z'.val) = true ↔ _
  rw [Bool.decide_and]
  exact between_iff 'A' 'Z' c

theorem isAlpha_iff : c.isAlpha = true ↔ c.isUpper = true ∨ c.isLower = true := by
  show (c.isUpper || c.isLower) = true ↔ _
  rw [Bool.or_eq_true]

theorem isAlphanum_iff : c.isAlphanum = true ↔ c.isAlpha = true ∨ c.isDigit = true := by
  show (c.isAlpha || c.isDigit) = true ↔ _
  rw [Bool.or_eq_true]

theorem isAlpha_of_isLower (h : c.isLower = true) : c.isAlpha = true := isAlpha_iff.2 (.inr h)

theorem isAlphanum_of_isAlpha (h : c.isAlpha = true) : c.isAlphanum = true :=
  isAlphanum_iff.2 (.inl h)

/-- The numbers of the letters and digits. -/
theorem toNat_of_isAlphanum (h : c.isAlphanum = true) :
    48 ≤ c.toNat ∧ c.toNat ≤ 57 ∨ 65 ≤ c.toNat ∧ c.toNat ≤ 90 ∨
      97 ≤ c.toNat ∧ c.toNat ≤ 122 := by
  rcases isAlphanum_iff.1 h with h | h
  · rcases isAlpha_iff.1 h with h | h
    · exact .inr (.inl (isUpper_iff.1 h))
    · exact .inr (.inr (isLower_iff.1 h))
  · exact .inl (isDigit_iff.1 h)

/-- What is no capital letter is its own lower case. -/
theorem toLower_of_not_isUpper (h : c.isUpper = false) : c.toLower = c := by
  have hnot : ¬(c.val ≥ 'A'.val ∧ c.val ≤ 'Z'.val) := by
    intro hrange
    have hupper : c.isUpper = true := decide_eq_true hrange
    rw [h] at hupper
    cases hupper
  exact dif_neg hnot

/-- Lower case letters are their own lower case. -/
theorem toLower_of_isLower (h : c.isLower = true) : c.toLower = c := by
  refine toLower_of_not_isUpper (Bool.eq_false_iff.2 fun hupper => ?_)
  have := isLower_iff.1 h
  have := isUpper_iff.1 hupper
  omega

theorem isLower_toLower (h : c.isUpper = true) : c.toLower.isLower = true := by
  have hrange : c.val ≥ 'A'.val ∧ c.val ≤ 'Z'.val := of_decide_eq_true h
  have hval : c.toLower.val = c.val + ('a'.val - 'A'.val) := congrArg Char.val (dif_pos hrange)
  have hnat : c.toLower.toNat = (c.val.toNat + 32) % 2 ^ 32 := by
    rw [Char.toNat, hval, UInt32.toNat_add]
    rfl
  have hupper : 65 ≤ c.val.toNat ∧ c.val.toNat ≤ 90 := isUpper_iff.1 h
  rw [isLower_iff, hnat]
  omega

/-- The lower case of a character is the character itself or a letter. -/
theorem toLower_cases (c : Char) : c.toLower = c ∨ c.isUpper = true ∧ c.toLower.isLower = true := by
  cases h : c.isUpper with
  | false => exact .inl (toLower_of_not_isUpper h)
  | true => exact .inr ⟨rfl, isLower_toLower h⟩

theorem toLower_toLower (c : Char) : c.toLower.toLower = c.toLower := by
  rcases toLower_cases c with h | ⟨-, h⟩
  · rw [h, h]
  · exact toLower_of_isLower h

/-- What is no letter is the lower case of no other character. -/
theorem eq_of_toLower_eq {d : Char} (h : c.toLower = d) (hd : d.isLower = false) : c = d := by
  rcases toLower_cases c with hc | ⟨-, hc⟩
  · rw [← hc, h]
  · rw [h, hd] at hc
    cases hc

end LiveText.Text
