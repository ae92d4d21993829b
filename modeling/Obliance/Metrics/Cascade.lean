import Mathlib.Algebra.Order.Ring.Rat
import Mathlib.Data.List.Basic
import Mathlib.Tactic.Common

/-!
# Metric levels (`services/thresholdCascade.ts`)

* `computeMetricStatus` : the breaches of one push and their worst level;
* `filterNotifiedBreaches` : those whose alerts switch is on;
* `planMetricTransitions` : what a push does with the two stored levels;
* `worstLevel_filter_le` : muting lowers a level, never raises it;
* `plan_alert_iff` : when a push alerts.
-/

namespace Obliance.Metrics

inductive MetricLevel where
  | ok
  | warning
  | critical
  deriving DecidableEq, Repr

inductive MetricKind where
  | cpu
  | ram
  | disk
  deriving DecidableEq, Repr

def metricSeverity : MetricLevel → ℕ
  | .ok => 0
  | .warning => 1
  | .critical => 2

inductive BreachLevel where
  | warning
  | critical
  deriving DecidableEq, Repr

structure MetricBreach where
  metric : MetricKind
  percent : ℚ
  level : BreachLevel
  mount : Option String
  deriving DecidableEq, Repr

structure ResolvedMetricThreshold where
  warn : ℚ
  crit : ℚ
  notify : Bool
  deriving DecidableEq, Repr

structure ResolvedThresholds where
  cpu : ResolvedMetricThreshold
  ram : ResolvedMetricThreshold
  disk : ResolvedMetricThreshold
  diskByMount : List (String × ResolvedMetricThreshold)
  deriving DecidableEq, Repr

structure DiskMetrics where
  mount : Option String
  percent : Option ℚ
  fstype : Option String
  removable : Option Bool
  deriving DecidableEq, Repr

/-- `push.metrics`; a percentage is `none` when it is missing, null or not finite, or of a disk whose mount has an
inherited name and no entry. -/
structure PushMetrics where
  cpu : Option ℚ
  memory : Option ℚ
  disks : List (Option DiskMetrics)
  deriving DecidableEq, Repr

/-- The names every object inherits. -/
def inheritedNames : List String :=
  ["constructor", "hasOwnProperty", "isPrototypeOf", "propertyIsEnumerable", "toLocaleString", "toString", "valueOf",
    "__proto__", "__defineGetter__", "__defineSetter__", "__lookupGetter__", "__lookupSetter__"]

/-- `thresholds.diskByMount[mount]`, for a mount that is neither missing nor empty: its entry. -/
def ResolvedThresholds.forMount (t : ResolvedThresholds) (mount : Option String) :
    Option ResolvedMetricThreshold :=
  (mount.filter (· ≠ "")).bind fun m => t.diskByMount.lookup m

/-- `diskByMount[mount]` has no entry, but a member that every object inherits. That is no threshold and nothing
breaches it: the percentage of such a disk is not read. -/
def ResolvedThresholds.inheritsMount (t : ResolvedThresholds) (mount : Option String) : Bool :=
  mount.any (fun m => decide (m ∈ inheritedNames)) && (t.forMount mount).isNone

def isMountNotified (t : ResolvedThresholds) (mount : Option String) : Bool :=
  t.disk.notify && (t.forMount mount).all ResolvedMetricThreshold.notify

/-- `^\/(media|mnt|run\/media)(\/|$)` and `^\/Volumes\/` -/
def isExternalMount (mount : String) : Bool :=
  (["/media", "/mnt", "/run/media"].any fun p =>
      decide (mount = p) || (p ++ "/").toList.isPrefixOf mount.toList) ||
    "/Volumes/".toList.isPrefixOf mount.toList

/-- Removable and optical disks take no part in the thresholds. -/
def isExcludedDisk (d : DiskMetrics) : Bool :=
  decide (d.removable = some true) ||
    decide ((d.fstype.getD "").toLower ∈ ["iso9660", "udf", "cdfs"]) ||
    isExternalMount (d.mount.getD "")

def worstLevel (breaches : List MetricBreach) : MetricLevel :=
  if breaches.any fun b => decide (b.level = .critical) then .critical
  else if breaches.any fun b => decide (b.level = .warning) then .warning
  else .ok

def evalAgainst (metric : MetricKind) (pct : Option ℚ) (t : ResolvedMetricThreshold)
    (mount : Option String) : List MetricBreach :=
  match pct with
  | none => []
  | some pct =>
      if t.crit ≤ pct then [⟨metric, pct, .critical, mount⟩]
      else if t.warn ≤ pct then [⟨metric, pct, .warning, mount⟩]
      else []

/-- The breaches of a push, the alerts switches left aside. -/
def breachesOf (metrics : PushMetrics) (t : ResolvedThresholds) : List MetricBreach :=
  evalAgainst .cpu metrics.cpu t.cpu none ++ evalAgainst .ram metrics.memory t.ram none ++
    metrics.disks.flatMap fun d =>
      match d with
      | none => []
      | some d =>
          if isExcludedDisk d then []
          else evalAgainst .disk d.percent ((t.forMount d.mount).getD t.disk) d.mount

def computeMetricStatus (metrics : Option PushMetrics) (t : ResolvedThresholds) :
    MetricLevel × List MetricBreach :=
  match metrics with
  | none => (.ok, [])
  | some m => (worstLevel (breachesOf m t), breachesOf m t)

def filterNotifiedBreaches (breaches : List MetricBreach) (t : ResolvedThresholds) :
    List MetricBreach :=
  breaches.filter fun b =>
    match b.metric with
    | .cpu => t.cpu.notify
    | .ram => t.ram.notify
    | .disk => isMountNotified t b.mount

/-! ## Transitions -/

def becameBad (prev : Option MetricLevel) (next : MetricLevel) : Bool :=
  decide (next ≠ .ok) &&
    (decide (prev = none) || decide (prev = some .ok) ||
      (decide (prev = some .warning) && decide (next = .critical)))

def recovered (prev : Option MetricLevel) (next : MetricLevel) : Bool :=
  decide (next = .ok) && decide (prev ≠ some .ok) && decide (prev ≠ none)

inductive Notify where
  | alert
  | recovery
  deriving DecidableEq, Repr

/-- The columns a push writes, `last_metric_status` and `last_metric_alert_status`. -/
structure LevelUpdate where
  metric : Option MetricLevel
  alert : Option MetricLevel
  deriving DecidableEq, Repr

structure MetricPlan where
  levelUpdate : LevelUpdate
  prevAlert : Option MetricLevel
  notify : Option Notify
  trigger : Bool
  deriving DecidableEq, Repr

def planMetricTransitions (prevMetric rawPrevAlert : Option MetricLevel) (metric alert : MetricLevel)
    (evaluated : Bool) : MetricPlan :=
  let prevAlert := rawPrevAlert.or prevMetric
  { levelUpdate :=
      { metric := if prevMetric ≠ some metric then some metric else none
        alert := if rawPrevAlert ≠ some alert then some alert else none }
    prevAlert := prevAlert
    notify :=
      if evaluated && decide (prevAlert ≠ some alert) then
        if becameBad prevAlert alert then some .alert
        else if recovered prevAlert alert then some .recovery
        else none
      else none
    trigger := evaluated && decide (prevMetric ≠ some metric) && becameBad prevMetric metric }

def rebaselineAlertLevel (prevAlert alertLevel fullLevel : MetricLevel) : Option MetricLevel :=
  if metricSeverity prevAlert ≤ metricSeverity alertLevel then none
  else if fullLevel = .ok then none
  else some alertLevel

/-- The previous metrics under the current switches, when the alertable level drops. -/
def inlineRebaselinePrevAlert (storedPrevAlert : Option MetricLevel) (alert : MetricLevel)
    (prevMetrics : Option PushMetrics) (t : ResolvedThresholds) : Option MetricLevel :=
  match storedPrevAlert, prevMetrics with
  | some stored, some m =>
      if metricSeverity stored ≤ metricSeverity alert then none
      else
        let prevFull := computeMetricStatus (some m) t
        let prevAlertable := worstLevel (filterNotifiedBreaches prevFull.2 t)
        rebaselineAlertLevel stored prevAlertable prevFull.1
  | _, _ => none

/-! ## What the levels say -/

/-- Fewer breaches have a lower worst level. -/
theorem worstLevel_mono {bs cs : List MetricBreach} (h : ∀ b ∈ bs, b ∈ cs) :
    metricSeverity (worstLevel bs) ≤ metricSeverity (worstLevel cs) := by
  have hany : ∀ l : BreachLevel, (bs.any fun b => decide (b.level = l)) = true →
      (cs.any fun b => decide (b.level = l)) = true := by
    intro l hb
    obtain ⟨b, hb, hl⟩ := List.any_eq_true.1 hb
    exact List.any_eq_true.2 ⟨b, h b hb, hl⟩
  unfold worstLevel
  by_cases hc : (bs.any fun b => decide (b.level = .critical)) = true
  · rw [if_pos hc, if_pos (hany _ hc)]
  · rw [if_neg hc]
    by_cases hw : (bs.any fun b => decide (b.level = .warning)) = true
    · rw [if_pos hw, if_pos (hany _ hw)]
      split <;> decide
    · rw [if_neg hw]
      exact Nat.zero_le _

/-- **Muting lowers the level of a push, never raises it.** -/
theorem worstLevel_filter_le (breaches : List MetricBreach) (t : ResolvedThresholds) :
    metricSeverity (worstLevel (filterNotifiedBreaches breaches t)) ≤
      metricSeverity (worstLevel breaches) :=
  worstLevel_mono fun _ hb => List.mem_of_mem_filter hb

variable {prevMetric rawPrevAlert : Option MetricLevel} {metric alert : MetricLevel}
  {evaluated : Bool}

/-- A push alerts exactly on an evaluated rise of the alertable level. -/
theorem plan_alert_iff :
    (planMetricTransitions prevMetric rawPrevAlert metric alert evaluated).notify = some .alert ↔
      evaluated = true ∧ becameBad (rawPrevAlert.or prevMetric) alert = true := by
  simp only [planMetricTransitions]
  generalize rawPrevAlert.or prevMetric = prev
  cases evaluated <;> cases alert <;> rcases prev with _ | _ | _ | _ <;> decide

end Obliance.Metrics
