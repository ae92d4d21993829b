import Mathlib.Tactic.Common

/-!
# The lower case of ASCII

* `toLower_of_isLower`, `toLower_of_isDigit` : characters that stay;
* `toLower_cases` : a character stays, or becomes a letter in lower case;
* `toLower_toLower`, `eq_of_toLower` : a second time nothing changes, and nothing else becomes another character.
-/

namespace AsciiCase

variable {c d : Char}

theorem toNat_of_isLower (h : c.isLower = true) : 97 ≤ c.val.toNat ∧ c.val.toNat ≤ 122 := by
  change (decide ('a'.val ≤ c.val) && decide (c.val ≤ 'z'.val)) = true at h
  rw [Bool.and_eq_true, decide_eq_true_eq, decide_eq_true_eq, UInt32.le_iff_toNat_le, UInt32.le_iff_toNat_le] at h
  exact h

theorem toNat_of_isDigit (h : c.isDigit = true) : 48 ≤ c.val.toNat ∧ c.val.toNat ≤ 57 := by
  change (decide ('0'.val ≤ c.val) && decide (c.val ≤ '9'.val)) = true at h
  rw [Bool.and_eq_true, decide_eq_true_eq, decide_eq_true_eq, UInt32.le_iff_toNat_le, UInt32.le_iff_toNat_le] at h
  exact h

/-- Only the capitals change. -/
theorem toLower_of_toNat (h : c.val.toNat < 65 ∨ 90 < c.val.toNat) : c.toLower = c := by
  unfold Char.toLower
  rw [dif_neg]
  rw [ge_iff_le, UInt32.le_iff_toNat_le, UInt32.le_iff_toNat_le]
  have hA : 'A'.val.toNat = 65 := rfl
  have hZ : 'Z'.val.toNat = 90 := rfl
  omega

theorem toLower_of_isLower (h : c.isLower = true) : c.toLower = c := by
  have hc := toNat_of_isLower h
  exact toLower_of_toNat (by omega)

theorem toLower_of_isDigit (h : c.isDigit = true) : c.toLower = c := by
  have hc := toNat_of_isDigit h
  exact toLower_of_toNat (by omega)

theorem toLower_cases (c : Char) : c.toLower = c ∨ c.toLower.isLower = true := by
  unfold Char.toLower
  split
  · next h =>
      right
      change (decide ('a'.val ≤ c.val + ('a'.val - 'A'.val)) && decide (c.val + ('a'.val - 'A'.val) ≤ 'z'.val)) = true
      simp only [ge_iff_le, UInt32.le_iff_toNat_le, UInt32.toNat_add, Bool.and_eq_true, decide_eq_true_eq] at h ⊢
      have hA : 'A'.val.toNat = 65 := rfl
      have hZ : 'Z'.val.toNat = 90 := rfl
      have ha : 'a'.val.toNat = 97 := rfl
      have hz : 'z'.val.toNat = 122 := rfl
      have hd : ('a'.val - 'A'.val).toNat = 32 := rfl
      omega
  · exact .inl rfl

theorem toLower_toLower (c : Char) : c.toLower.toLower = c.toLower := by
  rcases toLower_cases c with h | h
  · rw [h, h]
  · exact toLower_of_isLower h

theorem eq_of_toLower (h : c.toLower = d) (hd : d.isLower = false) : c = d := by
  rcases toLower_cases c with heq | hlower
  · exact heq.symm.trans h
  · rw [h, hd] at hlower
    cases hlower

end AsciiCase
