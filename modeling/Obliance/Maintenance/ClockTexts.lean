import Mathlib
import Obliance.Maintenance.Windows

/-!
# `HH:MM` texts (`services/maintenance.service.ts`)

* `hhmm_lt_iff`, `hhmm_le_iff` : such texts compare as the minutes they stand for, "24:MM" included;
* `parseTime_hhmm` : they are read back as their hour and minute;
* `ruleRange_natCast` : the texts of a rule in whole minutes.
-/

namespace Obliance.Maintenance
open Obliance.Js

variable {host : Host}

/-- The two digits of a number below 100. -/
def twoDigits (n : ℕ) : List Char := [Nat.digitChar (n / 10), Nat.digitChar (n % 10)]

/-! ## Order -/

theorem digitChar_lt_iff {a b : ℕ} (ha : a < 10) (hb : b < 10) : Nat.digitChar a < Nat.digitChar b ↔ a < b := by
  have h : ∀ a b : Fin 10, Nat.digitChar a < Nat.digitChar b ↔ a.val < b.val := by decide
  exact h ⟨a, ha⟩ ⟨b, hb⟩

theorem digitChar_inj_iff {a b : ℕ} (ha : a < 10) (hb : b < 10) : Nat.digitChar a = Nat.digitChar b ↔ a = b := by
  have h : ∀ a b : Fin 10, Nat.digitChar a = Nat.digitChar b ↔ a.val = b.val := by decide
  exact h ⟨a, ha⟩ ⟨b, hb⟩

theorem toList_padStart2 {n : ℕ} (hn : n < 100) : (padStart2 (toString (n : ℤ))).toList = twoDigits n := by
  have h : ∀ n : Fin 100, (padStart2 (toString ((n.val : ℕ) : ℤ))).toList = twoDigits n.val := by decide +kernel
  exact h ⟨n, hn⟩

theorem toList_hhmm {hour min : ℕ} (hh : hour < 100) (hm : min < 100) :
    (hhmm hour min).toList = twoDigits hour ++ ':' :: twoDigits min := by
  rw [hhmm, String.toList_append, String.toList_append, toList_padStart2 hh, toList_padStart2 hm]
  rfl

/-- Texts of the same shape compare as the times of the day they stand for. -/
theorem hhmm_lt_iff {a b c d : ℕ} (ha : a < 100) (hb : b < 60) (hc : c < 100) (hd : d < 60) :
    hhmm a b < hhmm c d ↔ a * 60 + b < c * 60 + d := by
  rw [String.lt_iff_toList_lt, toList_hhmm ha (by omega), toList_hhmm hc (by omega)]
  simp only [twoDigits, List.cons_append, List.nil_append, List.cons_lt_cons_iff, and_false, or_false,
    lt_self_iff_false, false_or, true_and]
  rw [digitChar_lt_iff (by omega) (by omega), digitChar_lt_iff (by omega) (by omega),
    digitChar_lt_iff (by omega) (by omega), digitChar_lt_iff (by omega) (by omega),
    digitChar_inj_iff (by omega) (by omega), digitChar_inj_iff (by omega) (by omega),
    digitChar_inj_iff (by omega) (by omega)]
  omega

theorem hhmm_le_iff {a b c d : ℕ} (ha : a < 100) (hb : b < 60) (hc : c < 100) (hd : d < 60) :
    hhmm a b ≤ hhmm c d ↔ a * 60 + b ≤ c * 60 + d := by
  rw [← not_lt, hhmm_lt_iff hc hd ha hb, not_lt]

/-! ## Reading -/

theorem digitChar_ne_colon {a : ℕ} (ha : a < 10) : Nat.digitChar a ≠ ':' := by
  have h : ∀ a : Fin 10, Nat.digitChar a ≠ ':' := by decide
  exact h ⟨a, ha⟩

@[simp] theorem Host.double_intCast (z : ℤ) : host.double z = some (z : ℚ) := by
  rw [Host.double, if_pos (Rat.den_intCast z)]

@[simp] theorem Host.double_natCast (n : ℕ) : host.double n = some (n : ℚ) := host.double_intCast n

theorem numberOf_twoDigits {n : ℕ} (hn : n < 100) : numberOf host (String.ofList (twoDigits n)) = some (n : ℚ) := by
  have h : ∀ n : Fin 100, numberOfText (String.ofList (twoDigits n.val)) = some (n.val : ℚ) := by decide +kernel
  rw [numberOf, h ⟨n, hn⟩, Option.bind_some, Host.double_natCast]

/-- The start time of a rule is read as it is written. -/
theorem parseTime_hhmm {hour min : ℕ} (hh : hour < 100) (hm : min < 100) :
    parseTime host (hhmm hour min) = some ((hour : ℚ), (min : ℚ)) := by
  have hhour : ∀ c ∈ twoDigits hour, (c == ':') = false := by
    simp [twoDigits, digitChar_ne_colon (show hour / 10 < 10 by omega),
      digitChar_ne_colon (show hour % 10 < 10 by omega)]
  have hmin : ∀ c ∈ twoDigits min, (c == ':') = false := by
    simp [twoDigits, digitChar_ne_colon (show min / 10 < 10 by omega),
      digitChar_ne_colon (show min % 10 < 10 by omega)]
  rw [parseTime, String.splitToList_of_valid, toList_hhmm hh hm,
    List.splitOnP_append_cons_of_forall_mem hhour ':' rfl, List.splitOnP_eq_singleton hmin]
  simp [numberOf_twoDigits hh, numberOf_twoDigits hm]

/-! ## Ranges -/

theorem timeText_natCast (hour min : ℕ) : timeText host hour min = hhmm hour min := by
  have htext (n : ℕ) : host.text n = toString (n : ℤ) := by
    rw [Host.text, if_pos (Rat.den_natCast n), Rat.num_natCast]
  rw [timeText, htext, htext]
  rfl

theorem endText_natCast (n : ℕ) : endText host (some (n : ℚ)) = hhmm (n / 60 % 24 : ℕ) (n % 60 : ℕ) := by
  have hfloor : ⌊(n : ℚ) / 60⌋ = (n / 60 : ℕ) := by
    exact_mod_cast Rat.floor_natCast_div_natCast n 60
  have hhours : (wholeHours host n).tmod 24 = (n / 60 % 24 : ℕ) := by
    rw [wholeHours, if_pos (Rat.den_natCast n), hfloor]
    rfl
  have hminutes : minutesPast n = (n % 60 : ℕ) := by
    rw [minutesPast, if_pos (Nat.cast_nonneg n), hfloor, Int.cast_natCast]
    have hdivision : (n : ℚ) = 60 * (n / 60 : ℕ) + (n % 60 : ℕ) := by exact_mod_cast (Nat.div_add_mod n 60).symm
    linarith
  rw [endText, hhours, hminutes, Int.cast_natCast, timeText_natCast]

/-- A rule of whole minutes ends at a time of the day. -/
theorem ruleRange_natCast (hour min duration : ℕ) :
    ruleRange host hour min duration =
      (hhmm hour min, hhmm ((hour * 60 + min + duration) / 60 % 24 : ℕ) ((hour * 60 + min + duration) % 60 : ℕ)) := by
  have hstart : startMinutes host hour min = some ((hour * 60 + min : ℕ) : ℚ) := by
    have hproduct : (hour : ℚ) * 60 = (hour * 60 : ℕ) := by push_cast; rfl
    have hsum : ((hour * 60 : ℕ) : ℚ) + min = (hour * 60 + min : ℕ) := by push_cast; rfl
    rw [startMinutes, hproduct, Host.double_natCast, Option.bind_some, hsum, Host.double_natCast]
  have hsum : ((hour * 60 + min : ℕ) : ℚ) + duration = (hour * 60 + min + duration : ℕ) := by push_cast; rfl
  rw [ruleRange, timeText_natCast, hstart, Option.bind_some, hsum, Host.double_natCast, endText_natCast]

end Obliance.Maintenance
