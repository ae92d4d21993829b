import Mathlib.Data.List.ReduceOption
import Obliance.Js.Extremes
import Obliance.Js.Number
import Obliance.Metrics.Cascade

/-!
# Custom metric triggers (`services/scenario.service.ts`, `services/thresholdCascade.ts`)

A trigger node of type `metric_custom` compares a measured percentage with its own threshold. For the
metric 'disk' it walks the disks of the push with a filter of its own, next to the one of the monitoring.

* `metricCustomMatches` : the node's filter in `fireTrigger`;
* `matches_disk_iff` : a disk trigger starts exactly when one of its candidates meets the threshold;
* `Evaluated` : the monitoring evaluates the disk, `disk_breach_iff`;
* `sees_iff` : when a disk trigger starts on account of an evaluated disk only.
-/

namespace Obliance.Scenario
open Obliance.Js Obliance.Metrics Numerals

/-- The value of `percent`. A number of a JSON text may be too large for a double. -/
inductive Reading where
  | missing
  | null
  | finite (q : ℚ)
  | infinite (negative : Bool)
  deriving DecidableEq, Repr

structure PushedDisk where
  mount : Option String
  percent : Reading
  fstype : Option String
  removable : Option Bool
  deriving DecidableEq, Repr

/-- The metrics handed to `fireTrigger`; `disks` is empty when it is not an array. -/
structure PushedMetrics where
  cpu : Reading
  memory : Reading
  disks : List (Option PushedDisk)
  deriving DecidableEq, Repr

/-- The configuration of a node, a missing key being undefined. -/
structure MetricCustomConfig where
  metric : JsVal
  comparator : JsVal
  threshold : JsVal
  mount : JsVal
  deriving DecidableEq, Repr

inductive Comparator where
  | above
  | below
  deriving DecidableEq, Repr

/-! ## The filter of the trigger -/

/-- The number a reading is, when it is one. -/
def Reading.number : Reading → Option JsNum
  | .missing => none
  | .null => none
  | .finite q => some (.ofRat q)
  | .infinite negative => some (some (if negative then ⊥ else ⊤))

/-- The number a reading counts as in `Math.max`: undefined is NaN, null is 0. -/
def Reading.toNumber : Reading → JsNum
  | .missing => none
  | .null => .ofRat 0
  | .finite q => .ofRat q
  | .infinite negative => some (if negative then ⊥ else ⊤)

def trim (s : String) : String := String.ofList (strip isJsSpace s.toList)

/-- `toLowerCase`, as far as a Latin letter can come out of it: the Kelvin sign becomes a k. -/
def toLowerCase (s : String) : String :=
  String.ofList (s.toList.map fun c => if c = '\u212a' then 'k' else c.toLower)

def comparatorOf (v : JsVal) : Comparator := if v = .str "below" then .below else .above

/-- A number, or a text that is not blank and reads as a finite number. -/
def thresholdOf : JsVal → Option ℚ
  | .num q => some q
  | .str s => if trim s = "" then none else numberOfText s
  | _ => none

/-- Not removable and not optical, by the trigger. -/
def eligible (d : PushedDisk) : Bool :=
  !decide (d.removable = some true) && decide (d.fstype ≠ some "cdfs") && decide (d.fstype ≠ some "iso9660") &&
    decide (d.fstype ≠ some "udf")

/-- The comparison of a number that is not NaN. -/
def beyond (comparator : Comparator) (threshold : ℚ) (x : WithBot (WithTop ℚ)) : Bool :=
  match comparator with
  | .above => decide (((threshold : WithTop ℚ) : WithBot (WithTop ℚ)) < x)
  | .below => decide (x < ((threshold : WithTop ℚ) : WithBot (WithTop ℚ)))

/-- The comparison, false with NaN. -/
def meets (comparator : Comparator) (measured : JsNum) (threshold : ℚ) : Bool :=
  measured.any (beyond comparator threshold)

def extreme (comparator : Comparator) (xs : List JsNum) : JsNum :=
  match comparator with
  | .above => mathMax xs
  | .below => mathMin xs

/-- The extreme meets the threshold exactly when no element is NaN and one of them meets it. -/
theorem meets_extreme_iff (comparator : Comparator) (xs : List JsNum) (threshold : ℚ) :
    meets comparator (extreme comparator xs) threshold = true ↔
      none ∉ xs ∧ ∃ x ∈ xs, meets comparator x threshold = true := by
  have hsome : (∃ x ∈ xs, meets comparator x threshold = true) ↔
      ∃ x, some x ∈ xs ∧ beyond comparator threshold x = true := by
    constructor
    · rintro ⟨x, hx, hm⟩
      obtain ⟨y, rfl, hy⟩ := (Option.any_eq_true _ _).1 hm
      exact ⟨y, hx, hy⟩
    · rintro ⟨x, hx, hb⟩
      exact ⟨some x, hx, hb⟩
  rw [hsome]
  cases comparator with
  | above =>
      simp only [meets, beyond, extreme, Option.any_eq_true, decide_eq_true_eq]
      exact lt_mathMax_iff xs _
  | below =>
      simp only [meets, beyond, extreme, Option.any_eq_true, decide_eq_true_eq]
      exact mathMin_lt_iff xs _

section
-- `String(v)`
variable (stringOf : JsVal → String)

def wantMetric (cfg : MetricCustomConfig) : String :=
  trim (toLowerCase (stringOf (cfg.metric.orElse (.str ""))))

def wantMount (cfg : MetricCustomConfig) : String := trim (stringOf (cfg.mount.orElse (.str "")))

/-- The disk of the wanted mount, or the extreme over all of them. A null entry of the array throws. -/
def measureDisks (cfg : MetricCustomConfig) (disks : List (Option PushedDisk)) : Option JsNum :=
  if none ∈ disks then none
  else
    let eligible := disks.reduceOption.filter eligible
    if wantMount stringOf cfg ≠ "" then
      (eligible.find? fun d => d.mount = some (wantMount stringOf cfg)).bind fun d => d.percent.number
    else if eligible.isEmpty then none
    else
      let percents := eligible.map fun d => d.percent.toNumber
      some (extreme (comparatorOf cfg.comparator) percents)

/-- The measured value, `none` when there is none or its computation throws. -/
def measure (cfg : MetricCustomConfig) (m : Option PushedMetrics) : Option JsNum :=
  if wantMetric stringOf cfg = "cpu" then m.bind fun m => m.cpu.number
  else if wantMetric stringOf cfg = "memory" ∨ wantMetric stringOf cfg = "ram" then
    m.bind fun m => m.memory.number
  else if wantMetric stringOf cfg = "disk" then measureDisks stringOf cfg ((m.map PushedMetrics.disks).getD [])
  else none

/-- Whether a node passes on to `startRun`. -/
def metricCustomMatches (cfg : MetricCustomConfig) (m : Option PushedMetrics) : Bool :=
  match thresholdOf cfg.threshold with
  | none => false
  | some threshold =>
      if wantMetric stringOf cfg = "" then false
      else
        match measure stringOf cfg m with
        | none => false
        | some measured => meets (comparatorOf cfg.comparator) measured threshold

/-! ## When a disk trigger starts -/

/-- The disks the value is taken from. -/
def candidates (cfg : MetricCustomConfig) (disks : List (Option PushedDisk)) : List PushedDisk :=
  let eligible := disks.reduceOption.filter eligible
  if wantMount stringOf cfg ≠ "" then
    (eligible.find? fun d => d.mount = some (wantMount stringOf cfg)).toList
  else eligible

/-- What a candidate's percentage counts as: without a wanted mount null is 0. -/
def counted (cfg : MetricCustomConfig) (d : PushedDisk) : JsNum :=
  if wantMount stringOf cfg ≠ "" then d.percent.number.getD none else d.percent.toNumber

/-- The node is passed over before anything is compared: its threshold is not a number, an entry of the
array is null, or without a wanted mount a candidate has no percentage. -/
def PassedOver (cfg : MetricCustomConfig) (disks : List (Option PushedDisk)) : Prop :=
  thresholdOf cfg.threshold = none ∨ none ∈ disks ∨
    wantMount stringOf cfg = "" ∧ ∃ d ∈ candidates stringOf cfg disks, d.percent = .missing

variable {stringOf} {cfg : MetricCustomConfig} {m : PushedMetrics}

theorem toNumber_eq_none {r : Reading} : r.toNumber = none ↔ r = .missing := by
  cases r <;> simp [Reading.toNumber, JsNum.ofRat]

theorem meets_none {comparator : Comparator} {threshold : ℚ} : meets comparator none threshold = false := rfl

/-- **A disk trigger starts exactly when it is not passed over and a candidate meets its threshold.** -/
theorem matches_disk_iff (hdisk : wantMetric stringOf cfg = "disk") :
    metricCustomMatches stringOf cfg (some m) = true ↔
      ¬ PassedOver stringOf cfg m.disks ∧ ∃ threshold, thresholdOf cfg.threshold = some threshold ∧
        ∃ d ∈ candidates stringOf cfg m.disks,
          meets (comparatorOf cfg.comparator) (counted stringOf cfg d) threshold = true := by
  have hmeasure : measure stringOf cfg (some m) = measureDisks stringOf cfg m.disks := by
    simp [measure, hdisk]
  unfold metricCustomMatches PassedOver
  rw [hmeasure, hdisk]
  cases hth : thresholdOf cfg.threshold with
  | none => simp
  | some threshold =>
      by_cases hnull : none ∈ m.disks
      · simp [measureDisks, hnull]
      · by_cases hmount : wantMount stringOf cfg = ""
        · -- the extreme over the eligible disks
          have hc : candidates stringOf cfg m.disks = m.disks.reduceOption.filter eligible := by
            simp [candidates, hmount]
          have hm : measureDisks stringOf cfg m.disks =
              if (candidates stringOf cfg m.disks).isEmpty then none
              else some (extreme (comparatorOf cfg.comparator)
                ((candidates stringOf cfg m.disks).map fun d => d.percent.toNumber)) := by
            simp [measureDisks, hnull, hmount, hc]
          have hcounted : ∀ d, counted stringOf cfg d = d.percent.toNumber := fun d => by simp [counted, hmount]
          rw [hm]
          cases hds : candidates stringOf cfg m.disks with
          | nil => simp
          | cons d ds =>
              simp only [List.isEmpty_cons, Bool.false_eq_true, if_false, hcounted]
              refine (meets_extreme_iff _ _ threshold).trans ?_
              simp [hnull, hmount, toNumber_eq_none, and_assoc, eq_comm (a := (none : JsNum))]
        · -- the disk of the wanted mount
          have hm : measureDisks stringOf cfg m.disks =
              (candidates stringOf cfg m.disks).head?.bind fun d => d.percent.number := by
            simp [measureDisks, candidates, hnull, hmount]
          have hshort : candidates stringOf cfg m.disks = (candidates stringOf cfg m.disks).head?.toList := by
            simp [candidates, hmount]
          rw [hm, hshort]
          cases (candidates stringOf cfg m.disks).head? with
          | none => simp
          | some d =>
              cases hn : d.percent.number <;> simp [hnull, hmount, counted, hn, meets_none]

/-! ## The disks of the monitoring -/

/-- The disk as the thresholds read it. -/
def PushedDisk.toDiskMetrics (d : PushedDisk) : DiskMetrics where
  mount := d.mount
  percent := match d.percent with
    | .finite q => some q
    | _ => none
  fstype := d.fstype
  removable := d.removable

def PushedMetrics.toPushMetrics (m : PushedMetrics) : PushMetrics where
  cpu := match m.cpu with
    | .finite q => some q
    | _ => none
  memory := match m.memory with
    | .finite q => some q
    | _ => none
  disks := m.disks.map fun d => d.map PushedDisk.toDiskMetrics

/-- The monitoring evaluates the disk at `q` percent: it is not excluded and the percentage is a finite
number. -/
def Evaluated (d : PushedDisk) (q : ℚ) : Prop :=
  isExcludedDisk d.toDiskMetrics = false ∧ d.percent = .finite q

theorem percent_toDiskMetrics {d : PushedDisk} {q : ℚ} :
    d.toDiskMetrics.percent = some q ↔ d.percent = .finite q := by
  cases h : d.percent <;> simp [PushedDisk.toDiskMetrics, h]

variable (stringOf cfg m) in
/-- Some disk that the monitoring evaluates meets the threshold of the node. -/
def EvaluatedMeets : Prop :=
  ∃ threshold, thresholdOf cfg.threshold = some threshold ∧ ∃ d, some d ∈ m.disks ∧ ∃ q, Evaluated d q ∧
    meets (comparatorOf cfg.comparator) (.ofRat q) threshold = true

/-- **When a disk trigger starts on account of an evaluated disk only**: it is passed over, or an evaluated
disk meets the threshold, or no candidate that meets it is excluded, null or infinite. -/
theorem sees_iff (stringOf : JsVal → String) (cfg : MetricCustomConfig) (m : PushedMetrics)
    (hdisk : wantMetric stringOf cfg = "disk") :
    (metricCustomMatches stringOf cfg (some m) = true → EvaluatedMeets cfg m) ↔
      PassedOver stringOf cfg m.disks ∨ EvaluatedMeets cfg m ∨
        ∀ threshold, thresholdOf cfg.threshold = some threshold → ∀ d ∈ candidates stringOf cfg m.disks,
          meets (comparatorOf cfg.comparator) (counted stringOf cfg d) threshold = true →
            isExcludedDisk d.toDiskMetrics = false ∧ ∃ q, d.percent = .finite q := by
  rw [matches_disk_iff hdisk]
  constructor
  · intro h
    by_contra! hnot
    obtain ⟨hpassed, hnone, threshold, hth, d, hd, hmeets, -⟩ := hnot
    exact hnone (h ⟨hpassed, threshold, hth, d, hd, hmeets⟩)
  · rintro (hpassed | hev | hall) ⟨hnot, threshold, hth, d, hd, hmeets⟩
    · exact absurd hpassed hnot
    · exact hev
    · obtain ⟨hex, q, hq⟩ := hall threshold hth d hd hmeets
      have hmem : some d ∈ m.disks := by
        unfold candidates at hd
        dsimp only at hd
        split_ifs at hd
        · have hfind := List.mem_of_find?_eq_some (Option.mem_toList.1 hd)
          exact List.reduceOption_mem_iff.1 (List.mem_of_mem_filter hfind)
        · exact List.reduceOption_mem_iff.1 (List.mem_of_mem_filter hd)
      refine ⟨threshold, hth, d, hmem, q, ⟨hex, hq⟩, ?_⟩
      have hcounted : counted stringOf cfg d = .ofRat q := by
        unfold counted
        split_ifs <;> simp [hq, Reading.number, Reading.toNumber]
      rwa [hcounted] at hmeets

end

/-! ## Failing input -/

/-- `String(v)` of a text; the configuration below has no other value. -/
def textOf : JsVal → String
  | .str s => s
  | _ => ""

/-- Above 90 percent, any disk. -/
def fullDiskTrigger : MetricCustomConfig := ⟨.str "disk", .str "above", .num 90, .undefined⟩

/-- A disk mounted below `/mnt` that is 95 percent full, next to a system disk at 40 percent. -/
def mountedBackup : PushedMetrics where
  cpu := .finite 10
  memory := .finite 20
  disks := [some ⟨some "/", .finite 40, some "ext4", some false⟩,
    some ⟨some "/mnt/backup", .finite 95, some "ext4", some false⟩]

theorem mountedBackup_starts : metricCustomMatches textOf fullDiskTrigger (some mountedBackup) = true := by
  decide +kernel

theorem mountedBackup_not_evaluated : ¬ EvaluatedMeets fullDiskTrigger mountedBackup := by
  rintro ⟨threshold, hth, d, hd, q, ⟨hex, hq⟩, hmeets⟩
  obtain rfl : (90 : ℚ) = threshold := Option.some.inj hth
  simp only [mountedBackup, List.mem_cons, Option.some.injEq, List.not_mem_nil, or_false] at hd
  rcases hd with rfl | rfl
  · obtain rfl : (40 : ℚ) = q := by simpa using hq
    exact absurd hmeets (by decide +kernel)
  · exact absurd hex (by decide +kernel)

/-- A disk that the thresholds exclude starts the scenario. -/
theorem excluded_disk_starts : ¬ ∀ (stringOf : JsVal → String) (cfg : MetricCustomConfig) (m : PushedMetrics),
    wantMetric stringOf cfg = "disk" → metricCustomMatches stringOf cfg (some m) = true → EvaluatedMeets cfg m :=
  fun h => mountedBackup_not_evaluated (h textOf fullDiskTrigger mountedBackup (by decide) mountedBackup_starts)

/-- The same machine with a system disk that is 95 percent full. -/
def fullSystemDisk : PushedMetrics :=
  { mountedBackup with disks := [some ⟨some "/", .finite 95, some "ext4", some false⟩] }

/-- A full system disk starts the scenario, and the thresholds evaluate it too. -/
theorem system_disk_seen :
    metricCustomMatches textOf fullDiskTrigger (some fullSystemDisk) = true ∧
      EvaluatedMeets fullDiskTrigger fullSystemDisk := by
  have hstarts : metricCustomMatches textOf fullDiskTrigger (some fullSystemDisk) = true := by decide +kernel
  refine ⟨hstarts, (sees_iff textOf fullDiskTrigger fullSystemDisk (by decide)).2 (.inr (.inr ?_)) hstarts⟩
  intro threshold _ d hd _
  have hc : candidates textOf fullDiskTrigger fullSystemDisk.disks =
      [⟨some "/", .finite 95, some "ext4", some false⟩] := by decide +kernel
  rw [hc, List.mem_singleton] at hd
  subst hd
  exact ⟨by decide +kernel, 95, rfl⟩

end Obliance.Scenario
