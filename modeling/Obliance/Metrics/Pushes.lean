import Obliance.Alerts.Service
import Obliance.Metrics.Cascade

/-!
# The pushes of one device as a machine (`services/device.service.ts`, `handlePush`)

Each step of a push is one statement, or one transaction that holds the lock of the metric incident.
Between two steps any other push of the device may run.

* `evaluate`, `pushPlan` : what a push decides from the row it read and the thresholds;
* `Push` : where a push is; `runPush` its next step;
* `pushMachine` : pushes that start, evaluate and run, and the all-metrics switches, in any order.
-/

namespace Obliance.Metrics
open GuardedRun Alerts

/-- The columns of a `devices` row that a push reads or writes. -/
structure PushDevice where
  id : ℕ
  tenantId : ℕ
  groupId : Option ℕ
  status : DeviceStatus
  hostname : String
  displayName : Option String
  metricAlertsEnabled : Option Bool
  latestMetrics : Option PushMetrics
  lastMetricStatus : Option MetricLevel
  lastMetricAlertStatus : Option MetricLevel
  deriving DecidableEq, Repr

/-! ## What a push decides -/

/-- Device, then group, then on. -/
def alertsEnabled (prev : PushDevice) (groupAlerts : ℕ → Option Bool) : Bool :=
  match prev.metricAlertsEnabled with
  | some b => b
  | none => (((prev.groupId.filter (· ≠ 0)).bind groupAlerts).getD true)

structure Evaluation where
  thresholds : Option ResolvedThresholds
  metric : MetricLevel
  alert : MetricLevel
  alertBreaches : List MetricBreach
  deriving DecidableEq, Repr

/-- `resolved` is what `resolveForDevice` returns, `none` when it throws. -/
def evaluate (enabled : Bool) (metrics : Option PushMetrics) (resolved : Option ResolvedThresholds) :
    Evaluation :=
  match enabled, metrics, resolved with
  | true, some m, some t =>
      let r := computeMetricStatus (some m) t
      let alertBreaches := filterNotifiedBreaches r.2 t
      ⟨some t, r.1, worstLevel alertBreaches, alertBreaches⟩
  | _, _, _ => ⟨none, .ok, .ok, []⟩

def isProtected (status : DeviceStatus) : Bool :=
  decide (status ∈ [DeviceStatus.pending, .pendingUninstall, .suspended])

def reachableTarget : MetricLevel → DeviceStatus
  | .ok => .online
  | .warning => .warning
  | .critical => .critical

def targetStatus (prevStatus : DeviceStatus) (metric : MetricLevel) : DeviceStatus :=
  if isProtected prevStatus then prevStatus else reachableTarget metric

structure PushPlan where
  thresholds : Option ResolvedThresholds
  target : DeviceStatus
  alert : MetricLevel
  alertBreaches : List MetricBreach
  levelUpdate : LevelUpdate
  notify : Option Notify
  /-- The metric incident ends without a notification. -/
  silentEnd : Bool
  deriving DecidableEq, Repr

def isBad (level : Option MetricLevel) : Bool :=
  decide (level = some .warning) || decide (level = some .critical)

def pushPlan (prev : PushDevice) (ev : Evaluation) : PushPlan :=
  let rebased := ev.thresholds.bind fun t =>
    inlineRebaselinePrevAlert (prev.lastMetricAlertStatus.or prev.lastMetricStatus) ev.alert
      prev.latestMetrics t
  let effRawPrevAlert := rebased.or prev.lastMetricAlertStatus
  let plan := planMetricTransitions prev.lastMetricStatus effRawPrevAlert ev.metric ev.alert
    ev.thresholds.isSome
  let prevAlertLevel := effRawPrevAlert.or prev.lastMetricStatus
  { thresholds := ev.thresholds
    target := targetStatus prev.status ev.metric
    alert := ev.alert
    alertBreaches := ev.alertBreaches
    levelUpdate :=
      { metric := plan.levelUpdate.metric
        alert := if rebased.isSome then some ev.alert else plan.levelUpdate.alert }
    notify := plan.notify
    silentEnd := decide (rebased = some .ok) || (ev.thresholds.isNone && isBad prevAlertLevel) }

/-! ## The alert of a push -/

def metricName : MetricKind → String
  | .cpu => "CPU"
  | .ram => "RAM"
  | .disk => "DISK"

def slot (t : ResolvedThresholds) : MetricKind → ResolvedMetricThreshold
  | .cpu => t.cpu
  | .ram => t.ram
  | .disk => t.disk

/-- `showNumber` is how a number is printed in a template. -/
def violationText (showNumber : ℚ → String) (th : ResolvedThresholds) (b : MetricBreach) : String :=
  let mount := if b.metric = .disk then b.mount.filter (· ≠ "") else none
  let t := (th.forMount mount).getD (slot th b.metric)
  let limit := if b.level = .critical then t.crit else t.warn
  let place := (mount.map fun m => " on " ++ m).getD ""
  metricName b.metric ++ place ++ ": " ++ toString (b.percent + 1 / 2).floor ++ "% (≥ " ++
    showNumber limit ++ "%)"

/-- `dev?.display_name || dev?.hostname || …` -/
def dispName (dev : PushDevice) : String :=
  ((dev.displayName.filter (· ≠ "")).or (some dev.hostname |>.filter (· ≠ ""))).getD
    ("#" ++ toString dev.id)

/-- The suffix of the key; a push only alerts on a level that is not ok. -/
def levelName : MetricLevel → String
  | .ok => "ok"
  | .warning => "warning"
  | .critical => "critical"

def metricAlertOpts (showNumber : ℚ → String) (dev : PushDevice) (plan : PushPlan) : AddOpts :=
  let violations := match plan.thresholds with
    | some th => plan.alertBreaches.map (violationText showNumber th)
    | none => []
  { severity := if plan.alert = .critical then .critical else .warning
    title := dispName dev ++ ": " ++ (if plan.alert = .critical then "Critique" else "Alerte")
    message :=
      if violations.isEmpty then "Une métrique a franchi le seuil configuré."
      else String.intercalate " · " violations
    navigateTo := some ("/devices/" ++ toString dev.id)
    stableKey := some ("device:" ++ toString dev.id ++ ":metric:" ++ levelName plan.alert) }

/-- The key of a push is a key of the metric incident, so `add` raises that incident. -/
theorem parse_metricAlertOpts (showNumber : ℚ → String) (dev : PushDevice) {plan : PushPlan}
    (h : plan.alert ≠ .ok) :
    parseIncidentStableKey (metricAlertOpts showNumber dev plan).stableKey = some ⟨.metric, dev.id⟩ := by
  refine parse_of_mem_keys ?_
  rw [incidentStableKeys, List.mem_map]
  cases hl : plan.alert with
  | ok => exact absurd hl h
  | warning => exact ⟨"metric:warning", by simp [incidentKeySuffixes], by simp [levelName, String.append_assoc]⟩
  | critical => exact ⟨"metric:critical", by simp [incidentKeySuffixes], by simp [levelName, String.append_assoc]⟩

/-! ## The machine -/

/-- Where a push is. The names say what it has done. -/
inductive Push where
  | begun (tenantId : ℕ) (metrics : Option PushMetrics)
  | read (tenantId : ℕ) (metrics : Option PushMetrics) (prev : PushDevice)
  | stored (tenantId : ℕ) (metrics : Option PushMetrics) (prev : PushDevice)
  | evaluated (tenantId : ℕ) (statusChanged : Bool) (plan : PushPlan)
  /-- In `resolveMutedMetricAlerts`, before or after its first statement. -/
  | silencing (tenantId : ℕ) (plan : PushPlan) (marked : Bool)
  /-- Before the write of the level columns. -/
  | levels (tenantId : ℕ) (plan : PushPlan)
  /-- Before the metric incident is raised or resolved. -/
  | incident (tenantId : ℕ) (plan : PushPlan)
  /-- In `add`, after an insertion. -/
  | trimming (tenantId : ℕ)
  | done
  deriving DecidableEq, Repr

structure PushState where
  device : PushDevice
  groupAlerts : ℕ → Option Bool
  alerts : List LiveAlert
  nextId : ℕ
  pushes : List Push

def metricIncident (s : PushState) : IncidentRef := ⟨.metric, s.device.id⟩

def setPush (s : PushState) (i : ℕ) (p : Push) : PushState := { s with pushes := s.pushes.set i p }

/-- `whereNot({ status: 'pending_uninstall' }).update(statusUpdate)` -/
def writeStatus (d : PushDevice) (statusChanged : Bool) (target : DeviceStatus) : PushDevice :=
  if statusChanged && decide (d.status ≠ .pendingUninstall) then { d with status := target } else d

def writeLevels (d : PushDevice) (u : LevelUpdate) : PushDevice :=
  { d with
    lastMetricStatus := u.metric.or d.lastMetricStatus
    lastMetricAlertStatus := u.alert.or d.lastMetricAlertStatus }

/-- `raiseIncident` from its lock to its commit. -/
def raiseMetric (s : PushState) (tenantId : ℕ) (opts : AddOpts) (now : ℤ) : List LiveAlert × Bool :=
  let inc := metricIncident s
  commitRaise s.alerts s.nextId (raiseOpen (some ⟨s.device.tenantId, s.device.status⟩) inc)
    (readActive s.alerts inc) tenantId opts now

variable (showNumber : ℚ → String)

/-- The next statement of the `i`-th push. -/
def runPush (s : PushState) (i : ℕ) (now : ℤ) : Option PushState :=
  match s.pushes[i]? with
  | some (.begun tenantId metrics) => some (setPush s i (.read tenantId metrics s.device))
  | some (.read tenantId metrics prev) =>
      some { (setPush s i (.stored tenantId metrics prev)) with
        device := { s.device with latestMetrics := metrics } }
  | some (.evaluated tenantId statusChanged plan) =>
      some { (setPush s i (if plan.silentEnd then .silencing tenantId plan false
          else .levels tenantId plan)) with
        device := writeStatus s.device statusChanged plan.target }
  | some (.silencing tenantId plan false) =>
      some { (setPush s i (.silencing tenantId plan true)) with
        alerts := readWhere s.alerts (fun a =>
          a.ofIncident (metricIncident s) && a.active && a.readAt.isNone) now }
  | some (.silencing tenantId plan true) =>
      some { (setPush s i (.levels tenantId plan)) with
        alerts := resolveWhere s.alerts (LiveAlert.ofIncident (metricIncident s)) now }
  | some (.levels tenantId plan) =>
      some { (setPush s i (.incident tenantId plan)) with
        device := writeLevels s.device plan.levelUpdate }
  | some (.incident tenantId plan) =>
      match plan.notify with
      | none => some (setPush s i .done)
      | some .recovery =>
          some { (setPush s i .done) with
            alerts := resolveWhere s.alerts (LiveAlert.ofIncident (metricIncident s)) now }
      | some .alert =>
          let c := raiseMetric s tenantId (metricAlertOpts showNumber s.device plan) now
          if c.2 then
            some { (setPush s i (.trimming tenantId)) with alerts := c.1, nextId := s.nextId + 1 }
          else some { (setPush s i .done) with alerts := c.1 }
  | some (.trimming tenantId) =>
      some { (setPush s i .done) with alerts := trimTenant s.alerts tenantId }
  | _ => none

inductive PushOp where
  | push (tenantId : ℕ) (metrics : Option PushMetrics)
  /-- The thresholds are resolved and the metrics evaluated, no statement of the push between. -/
  | evaluate (i : ℕ) (resolved : Option ResolvedThresholds)
  | run (i : ℕ) (now : ℤ)
  | setDeviceAlerts (enabled : Option Bool)
  | setGroupAlerts (groupId : ℕ) (enabled : Option Bool)
  deriving DecidableEq, Repr

/-- A push that has stored its metrics decides what it will do. -/
def evaluatePush (s : PushState) (i : ℕ) (resolved : Option ResolvedThresholds) : Option PushState :=
  match s.pushes[i]? with
  | some (.stored tenantId metrics prev) =>
      let ev := evaluate (alertsEnabled prev s.groupAlerts) metrics resolved
      let plan := pushPlan prev ev
      some (setPush s i (.evaluated tenantId (decide (prev.status ≠ plan.target)) plan))
  | _ => none

def pushStep (s : PushState) : PushOp → Option PushState
  | .push tenantId metrics => some { s with pushes := s.pushes ++ [.begun tenantId metrics] }
  | .evaluate i resolved => evaluatePush s i resolved
  | .run i now => runPush showNumber s i now
  | .setDeviceAlerts enabled =>
      some { s with device := { s.device with metricAlertsEnabled := enabled } }
  | .setGroupAlerts groupId enabled =>
      some { s with groupAlerts := Function.update s.groupAlerts groupId enabled }

def activeMetric (s : PushState) : Prop :=
  ∃ a ∈ s.alerts, a.activeOf (metricIncident s) = true

/-- The stored `last_metric_alert_status` is warning or critical. -/
def alertBad (s : PushState) : Prop := isBad s.device.lastMetricAlertStatus = true

/-- No push is in flight. -/
def Quiet (s : PushState) : Prop := ∀ p ∈ s.pushes, p = .done

instance (s : PushState) : Decidable (Quiet s) :=
  inferInstanceAs (Decidable (∀ p ∈ s.pushes, p = .done))

/-- Any device at rest without a phantom alert. -/
def pushMachine : Machine PushState PushOp where
  init s := s.pushes = [] ∧ (activeMetric s → alertBad s)
  step := pushStep showNumber

end Obliance.Metrics
