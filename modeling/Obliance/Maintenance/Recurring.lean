import Mathlib.Tactic.Linarith
import Obliance.Maintenance.ClockTexts

/-!
# Recurring windows (`services/maintenance.service.ts`)

A local wall clock is a day, counted from a Monday, and a minute of it. The local parts of an instant are those of
such a clock, with the hour after midnight spelled "00" or, as `hour12: false` gives it in some engines, "24".

* `Occurs` : an occurrence that started on an allowed day is under way;
* `occurs_iff` : the occurrences under way, by the days since the rule's time last came;
* `isWindowActive_iff` : what the code tests, today's weekday and a range of times of the day;
* `Covers`, `someCovers_iff` : the occurrences under way, by the weekdays of the rule;
* `isWindowActive_iff_occurs` : when the two agree.
-/

namespace Obliance.Maintenance

/-! ## Wall clocks -/

def weekdayName (day : ℤ) : String :=
  match day % 7 with
  | 0 => "Mon"
  | 1 => "Tue"
  | 2 => "Wed"
  | 3 => "Thu"
  | 4 => "Fri"
  | 5 => "Sat"
  | _ => "Sun"

/-- The hour of the day as it is spelled; `midnight` is 0 or 24. -/
def spelledHour (midnight minute : ℕ) : ℕ := if minute < 60 then midnight else minute / 60

/-- `formatToParts` at a minute of a day. -/
def localParts (midnight : ℕ) (day : ℤ) (minute : ℕ) : LocalParts where
  hour := some (padStart2 (toString (spelledHour midnight minute : ℤ)))
  minute := some (padStart2 (toString ((minute % 60 : ℕ) : ℤ)))
  weekday := some (weekdayName day)

/-- The days a rule allows. -/
def MaintenanceRecurrenceRule.Allows (rule : MaintenanceRecurrenceRule) (day : ℤ) : Prop :=
  match rule.frequency with
  | some .daily => True
  | some .weekly => day % 7 ∈ rule.daysOfWeek.getD []
  | none => False

section
variable {host : Host} {timezone : String} {now day : ℤ} {midnight minute : ℕ}

theorem padStart2_padStart2 {n : ℕ} (hn : n < 100) :
    padStart2 (padStart2 (toString (n : ℤ))) = padStart2 (toString (n : ℤ)) := by
  have hlength : (padStart2 (toString (n : ℤ))).length = 2 := by
    rw [← String.length_toList, toList_padStart2 hn]
    rfl
  generalize padStart2 (toString (n : ℤ)) = text at hlength ⊢
  rw [padStart2, hlength]
  simp

theorem getNowTimeInTz_local (hlocal : host.parts timezone now = some (localParts midnight day minute))
    (hmidnight : midnight < 100) (hminute : minute < 1440) :
    getNowTimeInTz host timezone now = hhmm (spelledHour midnight minute) (minute % 60 : ℕ) := by
  have hhour : spelledHour midnight minute < 100 := by
    unfold spelledHour
    split <;> omega
  rw [getNowTimeInTz, hlocal]
  simp only [localParts, Option.getD_some]
  rw [padStart2_padStart2 hhour, padStart2_padStart2 (by omega)]
  rfl

theorem getNowDayOfWeekInTz_local (hlocal : host.parts timezone now = some (localParts midnight day minute)) :
    getNowDayOfWeekInTz host timezone now = day % 7 := by
  rw [getNowDayOfWeekInTz, hlocal]
  simp only [localParts, Option.getD_some, weekdayName]
  have hlo := Int.emod_nonneg day (show (7 : ℤ) ≠ 0 by decide)
  have hhi := Int.emod_lt_of_pos day (show (0 : ℤ) < 7 by decide)
  generalize day % 7 = weekday at hlo hhi ⊢
  interval_cases weekday <;> rfl
end

/-! ## Occurrences -/

/-- An occurrence of `duration` minutes that started at `start` on an allowed day is under way. -/
def Occurs (allowed : ℤ → Prop) (start duration day minute : ℤ) : Prop :=
  ∃ k, allowed k ∧ 1440 * k + start ≤ 1440 * day + minute ∧ 1440 * day + minute ≤ 1440 * k + start + duration

/-- Minutes since the start time last came. -/
def since (start minute : ℤ) : ℤ := (minute - start) % 1440

/-- The day it last came on. -/
def lastDay (start day minute : ℤ) : ℤ := if start ≤ minute then day else day - 1

/-- One of the days it came on is allowed, and not more than the duration ago. -/
def SomeCovers (allowed : ℤ → Prop) (start duration day minute : ℤ) : Prop :=
  ∃ j : ℕ, since start minute + 1440 * j ≤ duration ∧ allowed (lastDay start day minute - j)

section
variable {allowed : ℤ → Prop} {start duration day minute : ℤ}

variable (day) in
theorem since_cases (hstart : 0 ≤ start) (hstart' : start < 1440) (hminute : 0 ≤ minute) (hminute' : minute < 1440) :
    start ≤ minute ∧ since start minute = minute - start ∧ lastDay start day minute = day ∨
      minute < start ∧ since start minute = minute - start + 1440 ∧ lastDay start day minute = day - 1 := by
  unfold since lastDay
  by_cases h : start ≤ minute
  · exact .inl ⟨h, by omega, if_pos h⟩
  · exact .inr ⟨by omega, by omega, if_neg h⟩

theorem occurs_iff (hstart : 0 ≤ start) (hstart' : start < 1440) (hminute : 0 ≤ minute) (hminute' : minute < 1440) :
    Occurs allowed start duration day minute ↔ SomeCovers allowed start duration day minute := by
  unfold Occurs SomeCovers
  constructor
  · rintro ⟨k, hk, hbegun, hends⟩
    rcases since_cases day hstart hstart' hminute hminute' with ⟨h, hsince, hlast⟩ | ⟨h, hsince, hlast⟩
    · refine ⟨(day - k).toNat, by omega, ?_⟩
      rwa [hlast, show day - ((day - k).toNat : ℤ) = k by omega]
    · refine ⟨(day - 1 - k).toNat, by omega, ?_⟩
      rwa [hlast, show day - 1 - ((day - 1 - k).toNat : ℤ) = k by omega]
  · rintro ⟨j, hcovers, hallowed⟩
    refine ⟨_, hallowed, ?_⟩
    rcases since_cases day hstart hstart' hminute hminute' with ⟨h, hsince, hlast⟩ | ⟨h, hsince, hlast⟩ <;>
      rw [hlast] <;> omega
end

/-! ## What the code tests -/

/-- The time of the day is in the range of the rule. The hour spelled "24" is behind every start, and behind every
end of a range that does not pass midnight. -/
def InRange (midnight : ℕ) (start duration minute : ℤ) : Prop :=
  if minute < 60 ∧ midnight = 24 then (start + duration) % 1440 < start
  else since start minute ≤ duration % 1440

instance (midnight : ℕ) (start duration minute : ℤ) : Decidable (InRange midnight start duration minute) := by
  unfold InRange
  infer_instance

theorem isTimeInRange_iff (host : Host) {midnight hour min minute : ℕ} {duration : ℤ} (hhour : hour < 24)
    (hmin : min < 60) (hminute : minute < 1440) (hmidnight : midnight = 0 ∨ midnight = 24) (hduration : 0 < duration) :
    isTimeInRange (hhmm (spelledHour midnight minute) (minute % 60 : ℕ)) (ruleRange host hour min duration).1
        (ruleRange host hour min duration).2 = true ↔ InRange midnight (hour * 60 + min : ℕ) duration minute := by
  lift duration to ℕ using hduration.le
  have hspelled : spelledHour midnight minute < 100 := by
    unfold spelledHour
    split <;> omega
  have hend : (hour * 60 + min + duration) / 60 % 24 * 60 + (hour * 60 + min + duration) % 60 =
      (hour * 60 + min + duration) % 1440 := by
    omega
  have htime : spelledHour midnight minute * 60 + minute % 60 =
      if minute < 60 ∧ midnight = 24 then 1440 + minute else minute := by
    unfold spelledHour
    rcases hmidnight with rfl | rfl <;> by_cases hfirst : minute < 60 <;> simp only [hfirst] <;> simp <;> omega
  have hstart : hour < 100 := by omega
  have hend' : (hour * 60 + min + duration) / 60 % 24 < 100 := by omega
  have hend'' : (hour * 60 + min + duration) % 60 < 60 := by omega
  have hminute' : minute % 60 < 60 := by omega
  rw [Int.cast_natCast, ruleRange_natCast]
  unfold isTimeInRange
  simp only [hhmm_le_iff hstart hmin hend' hend'', hhmm_le_iff hstart hmin hspelled hminute',
    hhmm_le_iff hspelled hminute' hend' hend'', hend, htime]
  unfold InRange since
  by_cases hfirst : minute < 60 ∧ midnight = 24
  · have hfirst' : (minute : ℤ) < 60 ∧ midnight = 24 := by omega
    simp only [if_pos hfirst, if_pos hfirst']
    by_cases hday : hour * 60 + min ≤ (hour * 60 + min + duration) % 1440
    · rw [if_pos hday]
      simp only [Bool.and_eq_true, decide_eq_true_eq]
      omega
    · rw [if_neg hday]
      simp only [Bool.or_eq_true, decide_eq_true_eq]
      omega
  · have hfirst' : ¬ ((minute : ℤ) < 60 ∧ midnight = 24) := by omega
    simp only [if_neg hfirst, if_neg hfirst']
    by_cases hday : hour * 60 + min ≤ (hour * 60 + min + duration) % 1440
    · rw [if_pos hday]
      simp only [Bool.and_eq_true, decide_eq_true_eq]
      omega
    · rw [if_neg hday]
      simp only [Bool.or_eq_true, decide_eq_true_eq]
      omega

/-- A recurring window of a valid rule, at a local wall clock. -/
structure RuleAt (host : Host) (window : MaintenanceWindow) (now : ℤ) (midnight hour min : ℕ) (duration day : ℤ)
    (minute : ℕ) : Prop where
  recurring : window.scheduleType = .recurring
  time : window.recurrenceRule.time = some (hhmm hour min)
  hour_lt : hour < 24
  min_lt : min < 60
  lasts : window.recurrenceRule.duration = some (duration : ℚ)
  lasts_pos : 0 < duration
  frequency : window.recurrenceRule.frequency ≠ none
  clock : host.parts window.timezone now = some (localParts midnight day minute)
  minute_lt : minute < 1440
  spelling : midnight = 0 ∨ midnight = 24

section
variable {host : Host} {window : MaintenanceWindow} {now duration day : ℤ} {midnight hour min minute : ℕ}

/-- **The code tests whether today is allowed** and the time of the day is in the range. -/
theorem isWindowActive_iff (h : RuleAt host window now midnight hour min duration day minute) :
    isWindowActive host window now = true ↔
      window.recurrenceRule.Allows day ∧ InRange midnight (hour * 60 + min : ℕ) duration minute := by
  have hhour := h.hour_lt
  have hmin := h.min_lt
  have hne : hhmm hour min ≠ "" := by
    intro hempty
    have := congrArg String.toList hempty
    rw [toList_hhmm (by omega) (by omega)] at this
    simp [twoDigits] at this
  have hrange := isTimeInRange_iff host hhour hmin h.minute_lt h.spelling h.lasts_pos
  have hmidnight : midnight < 100 := by
    rcases h.spelling with rfl | rfl <;> decide
  unfold isWindowActive MaintenanceRecurrenceRule.Allows
  rw [h.recurring]
  dsimp only
  rw [h.time, h.lasts]
  simp only [Option.filter_some, ne_eq, hne, not_false_eq_true, decide_true, if_true]
  rw [parseTime_hhmm (by omega) (by omega)]
  dsimp only
  rw [getNowTimeInTz_local h.clock hmidnight h.minute_lt, getNowDayOfWeekInTz_local h.clock]
  cases hfrequency : window.recurrenceRule.frequency with
  | none => exact absurd hfrequency h.frequency
  | some frequency =>
      cases frequency with
      | daily =>
          dsimp only
          rw [hrange, true_and]
      | weekly =>
          dsimp only
          generalize window.recurrenceRule.daysOfWeek.getD [] = days
          cases days with
          | nil => simp
          | cons first rest =>
              rw [← hrange]
              simp

end

/-! ## When the two agree -/

/-- An occurrence is under way, by the weekdays of the rule: its time last came on one of them not more than the
duration ago. -/
def MaintenanceRecurrenceRule.Covers (rule : MaintenanceRecurrenceRule) (start duration day minute : ℤ) : Prop :=
  match rule.frequency with
  | some .daily => since start minute ≤ duration
  | some .weekly => ∃ weekday ∈ rule.daysOfWeek.getD [], 0 ≤ weekday ∧ weekday < 7 ∧
      since start minute + 1440 * ((lastDay start day minute - weekday) % 7) ≤ duration
  | none => False

instance (rule : MaintenanceRecurrenceRule) (day : ℤ) : Decidable (rule.Allows day) := by
  unfold MaintenanceRecurrenceRule.Allows
  cases rule.frequency with
  | none => exact inferInstanceAs (Decidable False)
  | some frequency =>
      cases frequency with
      | daily => exact inferInstanceAs (Decidable True)
      | weekly => exact inferInstanceAs (Decidable (day % 7 ∈ rule.daysOfWeek.getD []))

instance (rule : MaintenanceRecurrenceRule) (start duration day minute : ℤ) :
    Decidable (rule.Covers start duration day minute) := by
  unfold MaintenanceRecurrenceRule.Covers
  cases rule.frequency with
  | none => exact inferInstanceAs (Decidable False)
  | some frequency => cases frequency <;> infer_instance

/-- The range over the time of the day and today's weekday tell whether an occurrence is under way. -/
def ReadRight (rule : MaintenanceRecurrenceRule) (midnight : ℕ) (start duration day minute : ℤ) : Prop :=
  if minute < 60 ∧ midnight = 24 then
    -- "24:MM" is in the ranges that pass midnight
    if rule.Allows day ∧ (start + duration) % 1440 < start then rule.Covers start duration day minute
    else ¬ rule.Covers start duration day minute
  else
    duration < since start minute ∨
      duration < 1440 ∧ (start ≤ minute ∨ (rule.Allows (day - 1) ↔ rule.Allows day)) ∨
      1440 ≤ duration ∧
        if rule.Allows day ∧ since start minute ≤ duration % 1440 then
          start ≤ minute ∨ rule.Covers start duration day minute
        else ¬ rule.Covers start duration day minute

instance (rule : MaintenanceRecurrenceRule) (midnight : ℕ) (start duration day minute : ℤ) :
    Decidable (ReadRight rule midnight start duration day minute) := by
  unfold ReadRight
  infer_instance

section
variable {allowed : ℤ → Prop} {start duration day minute : ℤ}

theorem not_someCovers (h : duration < since start minute) : ¬ SomeCovers allowed start duration day minute := by
  rintro ⟨j, hcovers, -⟩
  omega

/-- Below a day only the last time the rule came can be under way. -/
theorem someCovers_short (hsince : since start minute ≤ duration) (hshort : duration < 1440) :
    SomeCovers allowed start duration day minute ↔ allowed (lastDay start day minute) := by
  have hnonneg : 0 ≤ since start minute := by
    unfold since
    omega
  constructor
  · rintro ⟨j, hcovers, hallowed⟩
    have hzero : (j : ℤ) = 0 := by omega
    rwa [hzero, sub_zero] at hallowed
  · intro hallowed
    exact ⟨0, by simpa using hsince, by simpa using hallowed⟩

/-- The weekdays tell which of the days a rule's time came on are allowed. -/
theorem someCovers_iff (rule : MaintenanceRecurrenceRule) :
    SomeCovers rule.Allows start duration day minute ↔ rule.Covers start duration day minute := by
  unfold SomeCovers MaintenanceRecurrenceRule.Allows MaintenanceRecurrenceRule.Covers
  cases rule.frequency with
  | none => simp
  | some frequency =>
      cases frequency with
      | daily => exact ⟨fun ⟨j, hj, _⟩ => by omega, fun h => ⟨0, by simpa using h, trivial⟩⟩
      | weekly =>
          constructor
          · rintro ⟨j, hcovers, hday⟩
            refine ⟨_, hday, by omega, by omega, ?_⟩
            omega
          · rintro ⟨weekday, hday, hlo, hhi, hcovers⟩
            refine ⟨((lastDay start day minute - weekday) % 7).toNat, by omega, ?_⟩
            have hback :
                (lastDay start day minute - ((lastDay start day minute - weekday) % 7).toNat) % 7 = weekday := by
              omega
            dsimp only
            rwa [hback]

/-- **The code is right exactly where it reads the clock right.** -/
theorem reads_iff_occurs {rule : MaintenanceRecurrenceRule} {midnight : ℕ} (hstart : 0 ≤ start)
    (hstart' : start < 1440) (hduration : 0 < duration) (hminute : 0 ≤ minute) (hminute' : minute < 1440) :
    (rule.Allows day ∧ InRange midnight start duration minute ↔ Occurs rule.Allows start duration day minute) ↔
      ReadRight rule midnight start duration day minute := by
  rw [occurs_iff hstart hstart' hminute hminute']
  unfold InRange ReadRight
  by_cases hspelled : minute < 60 ∧ midnight = 24
  · rw [if_pos hspelled, if_pos hspelled, someCovers_iff]
    split
    · rename_i hseen
      simp [hseen]
    · rename_i hunseen
      rw [iff_false_left hunseen]
  · rw [if_neg hspelled, if_neg hspelled]
    rcases lt_or_ge duration (since start minute) with hover | hsince
    · -- nothing is under way, and the range is over
      have hnot : ¬ since start minute ≤ duration % 1440 := by omega
      exact ⟨fun _ => .inl hover, fun _ => ⟨fun h => absurd h.2 hnot, fun h => absurd h (not_someCovers hover)⟩⟩
    · have hwithin : ¬ duration < since start minute := not_lt.2 hsince
      have hcases := since_cases day hstart hstart' hminute hminute'
      rcases lt_or_ge duration 1440 with hshort | hlong
      · have hmod : duration % 1440 = duration := by omega
        rw [someCovers_short hsince hshort, hmod]
        have hagree : (rule.Allows day ∧ since start minute ≤ duration ↔ rule.Allows (lastDay start day minute)) ↔
            start ≤ minute ∨ (rule.Allows (day - 1) ↔ rule.Allows day) := by
          rcases hcases with ⟨h, -, hlast⟩ | ⟨h, -, hlast⟩ <;> rw [hlast]
          · simp [hsince, h]
          · simp only [hsince, and_true, not_le.2 h, false_or]
            exact iff_comm
        rw [hagree]
        exact ⟨fun h => .inr (.inl ⟨hshort, h⟩), fun h =>
          (h.resolve_left hwithin).elim And.right fun h => absurd h.1 (not_le.2 hshort)⟩
      · have htoday : rule.Allows day → start ≤ minute → SomeCovers rule.Allows start duration day minute := by
          intro hallowed hcame
          refine ⟨0, by simpa using hsince, ?_⟩
          rcases hcases with ⟨h, -, hlast⟩ | ⟨h, -, hlast⟩
          · simpa [hlast] using hallowed
          · omega
        rw [someCovers_iff] at htoday ⊢
        split
        · rename_i hseen
          rw [iff_true_left hseen]
          exact ⟨fun h => .inr (.inr ⟨hlong, .inr h⟩), fun h => by
            rcases h with h | ⟨h, -⟩ | ⟨-, h⟩
            · exact absurd h hwithin
            · exact absurd h (not_lt.2 hlong)
            · exact h.elim (htoday hseen.1) id⟩
        · rename_i hunseen
          rw [iff_false_left hunseen]
          exact ⟨fun h => .inr (.inr ⟨hlong, h⟩), fun h => by
            rcases h with h | ⟨h, -⟩ | ⟨-, h⟩
            · exact absurd h hwithin
            · exact absurd h (not_lt.2 hlong)
            · exact h⟩

end

/-- Two hours from 23:00 on Mondays. -/
def mondayNight : MaintenanceWindow where
  id := 1
  tenantId := 1
  name := "night"
  scopeType := .global
  scopeId := none
  scheduleType := .recurring
  startsAt := 0
  endsAt := 0
  recurrenceRule := ⟨some .weekly, some [0], some "23:00", some 120⟩
  timezone := "UTC"
  notificationChannels := []
  lastDedupKey := none
  createdBy := none
  createdAt := 0
  updatedAt := 0

/-- UTC from a Monday on, an instant being a minute. -/
def utcMinutes : Host where
  parts := fun _ now => some (localParts 0 (now / 1440) (now % 1440).toNat)
  doubles := Js.exactDoubles

theorem mondayNight_at (now : ℤ) :
    RuleAt utcMinutes mondayNight now 0 23 0 120 (now / 1440) (now % 1440).toNat where
  recurring := rfl
  time := rfl
  hour_lt := by decide
  min_lt := by decide
  lasts := rfl
  lasts_pos := by decide
  frequency := nofun
  clock := rfl
  minute_lt := by omega
  spelling := .inl rfl

end Obliance.Maintenance
