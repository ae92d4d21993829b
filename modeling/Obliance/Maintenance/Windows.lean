import Mathlib.Data.List.Basic
import Mathlib.Data.Int.Order.Basic
import Mathlib.Data.Rat.Floor
import Obliance.Js.Doubles

/-!
# When a maintenance window is active (`services/maintenance.service.ts`)

* `Window` : a window, with its rule as the code takes it or as it is stored;
* `isTimeInRange` : a local `HH:MM` text in a range that may pass midnight;
* `ruleRange` : the start and end texts of a rule;
* `isWindowActive` : one-time windows by instants, recurring ones by local time and day;
* `isWindowActive_now` : a one-time window that starts and ends now is active.
-/

namespace Obliance.Maintenance
open Obliance.Js

inductive MaintenanceScope where
  | global
  | group
  | device
  deriving DecidableEq, Repr

inductive ScheduleType where
  | oneTime
  | recurring
  deriving DecidableEq, Repr

inductive Frequency where
  | daily
  | weekly
  deriving DecidableEq, Repr

/-- The interface of `recurrenceRule`; a missing member is `none`. -/
structure MaintenanceRecurrenceRule where
  frequency : Option Frequency
  daysOfWeek : Option (List ℤ)
  time : Option String
  /-- Minutes. -/
  duration : Option ℚ
  deriving DecidableEq, Repr

/-- A row of `maintenance_windows`, instants in milliseconds. -/
structure Window (ρ : Type) where
  id : ℕ
  tenantId : ℕ
  name : String
  scopeType : MaintenanceScope
  scopeId : Option ℕ
  scheduleType : ScheduleType
  startsAt : ℤ
  endsAt : ℤ
  recurrenceRule : ρ
  timezone : String
  notificationChannels : List ℕ
  lastDedupKey : Option String
  createdBy : Option ℕ
  createdAt : ℤ
  updatedAt : ℤ
  deriving DecidableEq, Repr

/-- A window whose rule is what its interface says. -/
abbrev MaintenanceWindow := Window MaintenanceRecurrenceRule

/-- The parts `Intl.DateTimeFormat` gives of an instant in a time zone. -/
structure LocalParts where
  hour : Option String
  minute : Option String
  weekday : Option String
  deriving DecidableEq, Repr

/-- What the runtime gives: `Intl.DateTimeFormat`, `none` for a time zone it does not know (it throws), and its
numbers. -/
structure Host where
  parts : String → ℤ → Option LocalParts
  doubles : Doubles

variable (host : Host)

/-- `s.padStart(2, '0')` -/
def padStart2 (s : String) : String := String.ofList (List.replicate (2 - s.length) '0') ++ s

def getNowTimeInTz (timezone : String) (now : ℤ) : String :=
  match host.parts timezone now with
  | some parts => padStart2 (parts.hour.getD "00") ++ ":" ++ padStart2 (parts.minute.getD "00")
  | none => "00:00"

def weekdayIndex (weekday : String) : ℤ :=
  match weekday with
  | "Mon" => 0
  | "Tue" => 1
  | "Wed" => 2
  | "Thu" => 3
  | "Fri" => 4
  | "Sat" => 5
  | "Sun" => 6
  | _ => 0

def getNowDayOfWeekInTz (timezone : String) (now : ℤ) : ℤ :=
  match host.parts timezone now with
  | some parts => weekdayIndex (parts.weekday.getD "")
  | none => 0

/-- Within `[startTime, endTime]`, or around midnight when the end is before the start. -/
def isTimeInRange (currentTime startTime endTime : String) : Bool :=
  if startTime ≤ endTime then decide (startTime ≤ currentTime) && decide (currentTime ≤ endTime)
  else decide (startTime ≤ currentTime) || decide (currentTime ≤ endTime)

/-! ## Minutes -/

/-- An exact result as the double it becomes. Integers are exact, as those below 2⁵³ are; an infinity is `none`. -/
def Host.double (q : ℚ) : Option ℚ := if q.den = 1 then some q else Doubles.isFinite (host.doubles.toDouble q)

/-- `String(q)` -/
def Host.text (q : ℚ) : String := if q.den = 1 then toString q.num else host.doubles.showNumber q

/-- `Number(text)`; NaN is `none`. The texts of an infinity are not told from it. -/
def numberOf (text : String) : Option ℚ := (numberOfText text).bind host.double

/-- `[startHour, startMin]` of `rule.time`, both numbers. -/
def parseTime (time : String) : Option (ℚ × ℚ) :=
  match (time.splitToList (· == ':')).map (numberOf host) with
  | some startHour :: some startMin :: _ => some (startHour, startMin)
  | _ => none

/-- An hour and a minute, both with two digits. -/
def hhmm (hour min : ℤ) : String := padStart2 (toString hour) ++ ":" ++ padStart2 (toString min)

def timeText (hour min : ℚ) : String := padStart2 (host.text hour) ++ ":" ++ padStart2 (host.text min)

/-- `startHour * 60 + startMin` -/
def startMinutes (startHour startMin : ℚ) : Option ℚ :=
  (host.double (startHour * 60)).bind fun q => host.double (q + startMin)

/-- `Math.floor(q / 60)` -/
def wholeHours (q : ℚ) : ℤ := if q.den = 1 then ⌊q / 60⌋ else ⌊(host.double (q / 60)).getD 0⌋

/-- `q % 60`, with the sign of `q`. -/
def minutesPast (q : ℚ) : ℚ := if 0 ≤ q then q - 60 * ⌊q / 60⌋ else q - 60 * ⌈q / 60⌉

/-- The end of a range; `none` is NaN. -/
def endText (endMinutes : Option ℚ) : String :=
  match endMinutes with
  | some q => timeText host ((wholeHours host q).tmod 24) (minutesPast q)
  | none => "NaN:NaN"

/-- The start and end texts of a rule, from the start time and the duration. -/
def ruleRange (startHour startMin duration : ℚ) : String × String :=
  (timeText host startHour startMin,
    endText host ((startMinutes host startHour startMin).bind fun q => host.double (q + duration)))

/-- Of a rule that is what its interface says; on what is stored it may throw. -/
def isWindowActive (window : MaintenanceWindow) (now : ℤ) : Bool :=
  match window.scheduleType with
  | .oneTime => decide (window.startsAt ≤ now) && decide (now ≤ window.endsAt)
  | .recurring =>
      let rule := window.recurrenceRule
      match rule.time.filter (· ≠ ""), rule.duration with
      | some time, some duration =>
          match parseTime host time with
          | none => false
          | some (startHour, startMin) =>
              let range := ruleRange host startHour startMin duration
              let inRange := isTimeInRange (getNowTimeInTz host window.timezone now) range.1 range.2
              match rule.frequency with
              | some .daily => inRange
              | some .weekly =>
                  let days := rule.daysOfWeek.getD []
                  if days.isEmpty then false
                  else decide (getNowDayOfWeekInTz host window.timezone now ∈ days) && inRange
              | none => false
      | _, _ => false

theorem isWindowActive_now (window : MaintenanceWindow) (now : ℤ) (hs : window.scheduleType = .oneTime)
    (h1 : window.startsAt ≤ now) (h2 : now ≤ window.endsAt) : isWindowActive host window now = true := by
  rw [isWindowActive, hs]
  simp [h1, h2]

end Obliance.Maintenance
