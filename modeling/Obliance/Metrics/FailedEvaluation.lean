import Obliance.Alerts.Alone
import Obliance.Metrics.Pushes
import Obliance.Metrics.RawMetrics

/-!
# A push whose evaluation fails (`services/device.service.ts`, `handlePush`)

One push from its evaluation block on, alone on the device, with any JSON as its metrics.

* `evaluationBlock` : the five variables after the `try` block, and whether it threw; `evaluationBlock_threw_iff`;
* `finishPush`, `handlePush` : what the push then writes and sends;
* `prevAlertLevel` : the alertable level before the push, re-based;
* `EndsSilently` : nothing is sent, both levels are ok and the metric incident is over;
* `failed_push_silent_iff` : when a failed evaluation ends like no evaluation.
-/

namespace Obliance.Metrics
open Js Alerts

/-- `thresholds`, `metricStatus`, `alertStatus`, `alertBreaches` and `breaches`. -/
structure Block where
  evaluation : Evaluation
  breaches : List MetricBreach
  threw : Bool

/-- What the variables are before the block. -/
def notEvaluated : Block := ⟨⟨none, .ok, .ok, []⟩, [], false⟩

variable (showNumber : ℚ → String)

/-- The `try` block; `resolved` is what `resolveForDevice` returns, `none` when it throws. The thresholds are assigned
before the metrics are read. -/
def evaluationBlock (enabled : Bool) (metrics : Option Json) (resolved : Option ResolvedThresholds) : Block :=
  match metrics.filter fun m => enabled && m.truthy with
  | none => notEvaluated
  | some m =>
      match resolved with
      | none => { notEvaluated with threw := true }
      | some t =>
          match readMetrics showNumber t m with
          | none => ⟨⟨some t, .ok, .ok, []⟩, [], true⟩
          | some m => ⟨evaluate true (some m) (some t), breachesOf m t, false⟩

/-- `sendForAgent`: 'alert' or 'up', the level before, and the violations. -/
structure Notification where
  kind : Notify
  previous : MetricLevel
  violations : List String
  deriving DecidableEq, Repr

inductive MetricTrigger where
  | warning (breaches : List MetricBreach)
  | critical (breaches : List MetricBreach)
  deriving DecidableEq, Repr

structure PushResult where
  device : PushDevice
  alerts : AlertTable
  notification : Option Notification
  /-- `metric_warning` or `metric_critical`. -/
  trigger : Option MetricTrigger
  /-- `metric_custom`, with the metrics as they are. -/
  custom : Option Json

/-- The stored alertable level; a NULL column is read as the full level. -/
def storedAlertLevel (device : PushDevice) : Option MetricLevel :=
  device.lastMetricAlertStatus.or device.lastMetricStatus

def rebasedPrevAlert (prev : PushDevice) (ev : Evaluation) : Option MetricLevel :=
  ev.thresholds.bind fun t => inlineRebaselinePrevAlert (storedAlertLevel prev) ev.alert prev.latestMetrics t

/-- The alertable level before the push, after the inline re-baseline. -/
def prevAlertLevel (prev : PushDevice) (ev : Evaluation) : Option MetricLevel :=
  ((rebasedPrevAlert prev ev).or prev.lastMetricAlertStatus).or prev.lastMetricStatus

/-- The columns that the push read first, `latest_metrics` as the re-baseline can read it. -/
def previous (parseJson : List Char → Option Json) (device : PushDevice) (rawMetrics : Option Json)
    (thresholds : Option ResolvedThresholds) : PushDevice :=
  { device with latestMetrics := thresholds.bind fun t => readPrevMetrics showNumber parseJson t rawMetrics }

/-- The calls of the alert service: the silent end of the incident, then its raise or its recovery. With
`alertOk = false` they fail, which is logged. -/
def alertCalls (tenantId : ℕ) (now : ℤ) (alertOk : Bool) (device : PushDevice) (alerts : AlertTable) (plan : PushPlan) :
    AlertTable :=
  let quieted := if plan.silentEnd && alertOk then alerts.resolveMutedMetricAlerts device.id now else alerts
  let inc : IncidentRef := ⟨.metric, device.id⟩
  match plan.notify with
  | none => quieted
  | some .recovery => if alertOk then quieted.resolveIncidents inc now else quieted
  | some .alert =>
      if alertOk then
        quieted.add (some ⟨device.tenantId, plan.target⟩) inc tenantId (metricAlertOpts showNumber device plan) now
      else quieted

/-- The trigger on a rise of the full level. -/
def levelTrigger (prev : PushDevice) (block : Block) : Option MetricTrigger :=
  let ev := block.evaluation
  if (planMetricTransitions prev.lastMetricStatus prev.lastMetricAlertStatus ev.metric ev.alert
      ev.thresholds.isSome).trigger then
    some (if ev.metric = .critical then .critical block.breaches else .warning block.breaches)
  else none

/-- The push behind the block. The columns it reads are those of `device`; `rawMetrics` is the column
`latest_metrics`. -/
def finishPush (parseJson : List Char → Option Json) (tenantId : ℕ) (now : ℤ) (alertOk : Bool) (device : PushDevice)
    (rawMetrics : Option Json) (alerts : AlertTable) (metrics : Option Json) (block : Block) : PushResult :=
  let ev := block.evaluation
  let prev := previous showNumber parseJson device rawMetrics ev.thresholds
  let plan := pushPlan prev ev
  let violations := match ev.thresholds with
    | some th => ev.alertBreaches.map (violationText showNumber th)
    | none => []
  { device := writeLevels (writeStatus device (decide (device.status ≠ plan.target)) plan.target) plan.levelUpdate
    alerts := alertCalls showNumber tenantId now alertOk device alerts plan
    notification := plan.notify.map fun kind => ⟨kind, (prevAlertLevel prev ev).getD .ok, violations⟩
    trigger := levelTrigger prev block
    custom := metrics.filter Json.truthy }

def handlePush (parseJson : List Char → Option Json) (groupAlerts : ℕ → Option Bool) (tenantId : ℕ) (now : ℤ)
    (alertOk : Bool) (device : PushDevice) (rawMetrics : Option Json) (alerts : AlertTable) (metrics : Option Json)
    (resolved : Option ResolvedThresholds) : PushResult :=
  finishPush showNumber parseJson tenantId now alertOk device rawMetrics alerts metrics
    (evaluationBlock showNumber (alertsEnabled device groupAlerts) metrics resolved)

/-! ## What a failed evaluation leaves -/

/-- The evaluation of a block that threw, with or without the thresholds. -/
def failed (thresholds : Option ResolvedThresholds) : Evaluation := ⟨thresholds, .ok, .ok, []⟩

theorem block_of_threw {enabled : Bool} {metrics : Option Json} {resolved : Option ResolvedThresholds}
    (h : (evaluationBlock showNumber enabled metrics resolved).threw = true) :
    evaluationBlock showNumber enabled metrics resolved = ⟨failed resolved, [], true⟩ := by
  unfold evaluationBlock at h ⊢
  split
  · next hnone =>
    rw [hnone] at h
    cases h
  · next m hsome =>
    rw [hsome] at h
    cases resolved with
    | none => rfl
    | some t =>
        dsimp only at h ⊢
        split
        · rfl
        · next read hread =>
          rw [hread] at h
          cases h

/-- **Where the block throws**: no thresholds are resolved, or a disk throws, whatever the thresholds. -/
theorem evaluationBlock_threw_iff {enabled : Bool} {metrics : Option Json} {resolved : Option ResolvedThresholds} :
    (evaluationBlock showNumber enabled metrics resolved).threw = true ↔
      ∃ m, metrics.filter (fun m => enabled && m.truthy) = some m ∧
        (resolved = none ∨
          ∃ items, m.get "disks" = some (.arr items) ∧ ∃ d ∈ items, DiskThrows showNumber d) := by
  unfold evaluationBlock
  cases metrics.filter fun m => enabled && m.truthy with
  | none => simp [notEvaluated]
  | some m =>
      cases resolved with
      | none => simp
      | some t =>
          simp only [Option.some.injEq, exists_eq_left', reduceCtorEq, false_or]
          rw [← readMetrics_eq_none_iff showNumber t]
          cases readMetrics showNumber t m <;> simp

theorem isBad_of_rebased {stored : Option MetricLevel} {prevMetrics : Option PushMetrics} {t : ResolvedThresholds}
    {level : MetricLevel} (h : inlineRebaselinePrevAlert stored .ok prevMetrics t = some level) :
    isBad stored = true := by
  cases stored with
  | none => cases h
  | some stored =>
      cases prevMetrics with
      | none => cases h
      | some m =>
          cases stored with
          | ok => cases h
          | warning => rfl
          | critical => rfl

section Plan
variable (prev : PushDevice) (thresholds : Option ResolvedThresholds)

/-- Levels that are ok can only recover. -/
theorem plan_notify_ok (prevMetric rawPrevAlert : Option MetricLevel) (evaluated : Bool) :
    (planMetricTransitions prevMetric rawPrevAlert .ok .ok evaluated).notify =
      if evaluated && isBad (rawPrevAlert.or prevMetric) then some .recovery else none := by
  simp only [planMetricTransitions]
  generalize rawPrevAlert.or prevMetric = prev
  cases evaluated <;> rcases prev with _ | _ | _ | _ <;> decide

theorem notify_eq (ev : Evaluation) : (pushPlan prev ev).notify =
    (planMetricTransitions prev.lastMetricStatus ((rebasedPrevAlert prev ev).or prev.lastMetricAlertStatus) ev.metric
      ev.alert ev.thresholds.isSome).notify := rfl

/-- A failed evaluation plans a recovery where the level before was bad, unless the thresholds are missing. -/
theorem notify_failed : (pushPlan prev (failed thresholds)).notify =
    if thresholds.isSome && isBad (prevAlertLevel prev (failed thresholds)) then some .recovery else none := by
  rw [notify_eq]
  exact plan_notify_ok _ _ _

/-- Where no recovery is planned, the incident ends silently when the stored level is bad. -/
theorem silentEnd_failed (h : (pushPlan prev (failed thresholds)).notify = none) :
    (pushPlan prev (failed thresholds)).silentEnd = isBad (storedAlertLevel prev) := by
  have hsilent : (pushPlan prev (failed thresholds)).silentEnd =
      (decide (rebasedPrevAlert prev (failed thresholds) = some .ok) ||
        (thresholds.isNone && isBad (prevAlertLevel prev (failed thresholds)))) := rfl
  rw [hsilent]
  rw [notify_failed] at h
  cases thresholds with
  | none => rfl
  | some t =>
      have hlevel : isBad (prevAlertLevel prev (failed (some t))) = false := by
        cases hbad : isBad (prevAlertLevel prev (failed (some t))) with
        | false => rfl
        | true =>
            rw [hbad] at h
            cases h
      cases hrebased : rebasedPrevAlert prev (failed (some t)) with
      | none =>
          rw [prevAlertLevel, hrebased] at hlevel
          exact hlevel.symm
      | some level =>
          rw [isBad_of_rebased hrebased]
          rw [prevAlertLevel, hrebased] at hlevel
          cases level with
          | ok => rfl
          | warning => cases hlevel
          | critical => cases hlevel

/-- Both levels are written as ok, or they are. -/
theorem writeLevels_failed (d : PushDevice) (hmetric : d.lastMetricStatus = prev.lastMetricStatus)
    (halert : d.lastMetricAlertStatus = prev.lastMetricAlertStatus) :
    writeLevels d (pushPlan prev (failed thresholds)).levelUpdate =
      { d with lastMetricStatus := some .ok, lastMetricAlertStatus := some .ok } := by
  have hupdate : (pushPlan prev (failed thresholds)).levelUpdate =
      ⟨if prev.lastMetricStatus ≠ some .ok then some .ok else none,
        if (rebasedPrevAlert prev (failed thresholds)).isSome then some .ok
        else if (rebasedPrevAlert prev (failed thresholds)).or prev.lastMetricAlertStatus ≠ some .ok then some .ok
        else none⟩ := rfl
  rw [hupdate, writeLevels, hmetric, halert]
  dsimp only
  congr 1
  · split
    · rfl
    · next h => exact not_not.1 h
  · cases rebasedPrevAlert prev (failed thresholds) with
    | some level => rfl
    | none =>
        rw [Option.none_or, if_neg (by simp)]
        split
        · rfl
        · next h => exact not_not.1 h

end Plan

/-! ## Ending silently -/

/-- Nothing is sent, no trigger on a level fires, both levels are ok, and no row of the metric incident is active. -/
def EndsSilently (r : PushResult) : Prop :=
  r.notification = none ∧ r.trigger = none ∧ r.device.lastMetricStatus = some .ok ∧
    r.device.lastMetricAlertStatus = some .ok ∧ ¬ r.alerts.Active ⟨.metric, r.device.id⟩

/-- A push that sends nothing and leaves both levels ok; the incident ends where the stored level is bad. -/
def silentPush (now : ℤ) (alertOk : Bool) (device : PushDevice) (alerts : AlertTable) (metrics : Option Json) :
    PushResult :=
  let target := targetStatus device.status .ok
  { device :=
      { writeStatus device (decide (device.status ≠ target)) target with
        lastMetricStatus := some .ok
        lastMetricAlertStatus := some .ok }
    alerts :=
      if isBad (storedAlertLevel device) && alertOk then alerts.resolveMutedMetricAlerts device.id now else alerts
    notification := none
    trigger := none
    custom := metrics.filter Json.truthy }

section Silent
variable {parseJson : List Char → Option Json} {tenantId : ℕ} {now : ℤ} {alertOk : Bool} {device : PushDevice}
  {rawMetrics : Option Json} {alerts : AlertTable} {metrics : Option Json} {resolved : Option ResolvedThresholds}
  {threw : Bool}

theorem writeStatus_levels (d : PushDevice) (changed : Bool) (target : DeviceStatus) :
    (writeStatus d changed target).lastMetricStatus = d.lastMetricStatus ∧
      (writeStatus d changed target).lastMetricAlertStatus = d.lastMetricAlertStatus ∧
      (writeStatus d changed target).id = d.id := by
  unfold writeStatus
  split <;> exact ⟨rfl, rfl, rfl⟩

theorem alertCalls_quiet {plan : PushPlan} (h : plan.notify = none) :
    alertCalls showNumber tenantId now alertOk device alerts plan =
      if plan.silentEnd && alertOk then alerts.resolveMutedMetricAlerts device.id now else alerts := by
  unfold alertCalls
  rw [h]

/-- A failed evaluation fires no trigger: its level is ok. -/
theorem levelTrigger_failed (prev : PushDevice) : levelTrigger prev ⟨failed resolved, [], threw⟩ = none := by
  have htrigger : (planMetricTransitions prev.lastMetricStatus prev.lastMetricAlertStatus .ok .ok
      resolved.isSome).trigger = false := Bool.and_false _
  refine if_neg fun h => ?_
  exact absurd (htrigger.symm.trans h) Bool.false_ne_true

/-- Where a failed evaluation plans no recovery, the push is the silent one. -/
theorem finishPush_silent
    (h : (pushPlan (previous showNumber parseJson device rawMetrics resolved) (failed resolved)).notify = none) :
    finishPush showNumber parseJson tenantId now alertOk device rawMetrics alerts metrics
      ⟨failed resolved, [], threw⟩ = silentPush now alertOk device alerts metrics := by
  have hlevels := writeStatus_levels device (decide (device.status ≠ targetStatus device.status .ok))
    (targetStatus device.status .ok)
  have hdevice := writeLevels_failed (previous showNumber parseJson device rawMetrics resolved) resolved
    (writeStatus device (decide (device.status ≠ targetStatus device.status .ok)) (targetStatus device.status .ok))
    hlevels.1 hlevels.2.1
  have halerts := @alertCalls_quiet showNumber tenantId now alertOk device alerts _ h
  rw [silentEnd_failed _ _ h] at halerts
  have hnotification : (finishPush showNumber parseJson tenantId now alertOk device rawMetrics alerts metrics
      ⟨failed resolved, [], threw⟩).notification = none := Option.map_eq_none_iff.2 h
  unfold finishPush silentPush
  dsimp only
  rw [PushResult.mk.injEq]
  exact ⟨hdevice, halerts, hnotification, levelTrigger_failed _, rfl⟩

theorem silentPush_endsSilently :
    EndsSilently (silentPush now alertOk device alerts metrics) ↔
      (alerts.Active ⟨.metric, device.id⟩ → isBad (storedAlertLevel device) = true ∧ alertOk = true) := by
  have hid : (silentPush now alertOk device alerts metrics).device.id = device.id := (writeStatus_levels _ _ _).2.2
  have hactive : EndsSilently (silentPush now alertOk device alerts metrics) ↔
      ¬ (silentPush now alertOk device alerts metrics).alerts.Active ⟨.metric, device.id⟩ := by
    rw [EndsSilently, hid]
    exact ⟨fun h => h.2.2.2.2, fun h => ⟨rfl, rfl, rfl, rfl, h⟩⟩
  rw [hactive]
  unfold silentPush
  dsimp only
  cases hquiet : isBad (storedAlertLevel device) && alertOk with
  | true =>
      rw [if_pos rfl]
      exact iff_of_true (AlertTable.not_active_resolveMuted _ _ _) fun _ => Bool.and_eq_true_iff.1 hquiet
  | false =>
      rw [if_neg Bool.false_ne_true]
      refine ⟨fun h hact => absurd hact h, fun h hact => ?_⟩
      exact absurd (hquiet.symm.trans (Bool.and_eq_true_iff.2 (h hact))) Bool.false_ne_true

end Silent

/-- **A failed evaluation ends like no evaluation exactly when** the thresholds were not resolved or the alertable level
before the push, re-based, is not bad; and the metric incident is active only under a stored bad level, with the alert
service at work. -/
theorem failed_push_silent_iff (parseJson : List Char → Option Json) (groupAlerts : ℕ → Option Bool) (tenantId : ℕ)
    (now : ℤ) (alertOk : Bool) (device : PushDevice) (rawMetrics : Option Json) (alerts : AlertTable)
    (metrics : Option Json) (resolved : Option ResolvedThresholds)
    (hthrew : (evaluationBlock showNumber (alertsEnabled device groupAlerts) metrics resolved).threw = true) :
    (handlePush showNumber parseJson groupAlerts tenantId now alertOk device rawMetrics alerts metrics resolved =
        finishPush showNumber parseJson tenantId now alertOk device rawMetrics alerts metrics notEvaluated ∧
      EndsSilently
        (handlePush showNumber parseJson groupAlerts tenantId now alertOk device rawMetrics alerts metrics resolved)) ↔
    (resolved = none ∨ isBad (prevAlertLevel (previous showNumber parseJson device rawMetrics resolved)
        (failed resolved)) = false) ∧
      (alerts.Active ⟨.metric, device.id⟩ → isBad (storedAlertLevel device) = true ∧ alertOk = true) := by
  have hnotEvaluated : finishPush showNumber parseJson tenantId now alertOk device rawMetrics alerts metrics
      notEvaluated = silentPush now alertOk device alerts metrics :=
    @finishPush_silent showNumber parseJson tenantId now alertOk device rawMetrics alerts metrics none false
      (notify_failed _ none)
  rw [handlePush, block_of_threw showNumber hthrew, hnotEvaluated]
  have hplan := notify_failed (previous showNumber parseJson device rawMetrics resolved) resolved
  constructor
  · rintro ⟨hsame, hsilent⟩
    have hnone : (pushPlan (previous showNumber parseJson device rawMetrics resolved) (failed resolved)).notify =
        none := Option.map_eq_none_iff.1 hsilent.1
    refine ⟨?_, silentPush_endsSilently.1 (hsame ▸ hsilent)⟩
    rw [hnone] at hplan
    cases resolved with
    | none => exact .inl rfl
    | some t =>
        refine .inr (Bool.eq_false_iff.2 fun hbad => ?_)
        rw [hbad] at hplan
        cases hplan
  · rintro ⟨hlevel, hactive⟩
    have hnone : (pushPlan (previous showNumber parseJson device rawMetrics resolved) (failed resolved)).notify =
        none := by
      rw [hplan]
      refine if_neg fun h => ?_
      obtain ⟨hsome, hbad⟩ := Bool.and_eq_true_iff.1 h
      rcases hlevel with rfl | hlevel
      · cases hsome
      · exact absurd (hlevel.symm.trans hbad) Bool.false_ne_true
    have hsilent := @finishPush_silent showNumber parseJson tenantId now alertOk device rawMetrics alerts metrics
      resolved true hnone
    rw [hsilent]
    exact ⟨rfl, silentPush_endsSilently.2 hactive⟩

/-- Device 5, critical on its cpu. -/
def criticalDevice : PushDevice :=
  ⟨5, 1, none, .critical, "srv", none, none, none, some .critical, some .critical⟩

def criticalAlert : AlertTable :=
  ⟨[⟨1, 1, .critical, "srv: Critique", "CPU: 99% (≥ 95%)", none, some "device:5:metric:critical", none, 0, none⟩], 2⟩

/-- The cpu is at 99%, and a disk has a number for its file system. -/
def malformedMetrics : Json :=
  .obj [("cpu".toList, .obj [("percent".toList, .num 99)]),
    ("disks".toList, .arr [.obj [("mount".toList, .str ['/']), ("fstype".toList, .num 5)]])]

/-- The thresholds of device 5 cannot be resolved. -/
theorem failed_push_silent_unresolved :
    EndsSilently (handlePush (fun _ => "99") (fun _ => none) (fun _ => none) 1 60000 true criticalDevice none
      criticalAlert (some malformedMetrics) none) :=
  ((failed_push_silent_iff (fun _ => "99") (fun _ => none) (fun _ => none) 1 60000 true criticalDevice none
    criticalAlert (some malformedMetrics) none rfl).2 ⟨.inl rfl, fun _ => ⟨rfl, rfl⟩⟩).2

/-- **A malformed disk sends "back to normal"** for a cpu that is still critical. -/
theorem malformed_disk_recovers :
    let thresholds : ResolvedThresholds := ⟨⟨90, 95, true⟩, ⟨90, 95, true⟩, ⟨90, 95, true⟩, []⟩
    let r := handlePush (fun _ => "99") (fun _ => none) (fun _ => none) 1 60000 true criticalDevice none
      criticalAlert (some malformedMetrics) (some thresholds)
    (evaluationBlock (fun _ => "99") true (some malformedMetrics) (some thresholds)).threw = true ∧
      r.notification = some ⟨.recovery, .critical, []⟩ ∧ ¬ EndsSilently r := by
  dsimp only
  have hsent : (handlePush (fun _ => "99") (fun _ => none) (fun _ => none) 1 60000 true criticalDevice none
      criticalAlert (some malformedMetrics)
      (some ⟨⟨90, 95, true⟩, ⟨90, 95, true⟩, ⟨90, 95, true⟩, []⟩)).notification =
      some ⟨.recovery, .critical, []⟩ := by decide
  refine ⟨by decide, hsent, fun h => ?_⟩
  cases hsent.symm.trans h.1

end Obliance.Metrics
