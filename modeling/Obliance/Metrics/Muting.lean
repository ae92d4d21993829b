import Obliance.Metrics.Pushes

/-!
# Switches of metric alerts between pushes

The pushes of one device one after another, its alerts switches, and the background re-baseline
(`services/metricAlertRebaseline.service.ts`), which reads the row and writes it later.

* `evaluatedPush` : the levels a push leaves and what it plans to send;
* `processRow`, `writeRebaselined` : the two statements of `processChunk` for a device;
* `breachesOf_congr` : with fixed values, switches do not change the breaches;
* `MuteInv` : the stored level is at most the level of all breaches of the last push;
* `no_false_recovery`, `follows_levels` : what is sent, with and without a change of switches.
-/

namespace Obliance.Metrics
open GuardedRun

/-! ## A push and the re-baseline -/

/-- The breaches of a push that may notify. -/
def alertable (t : ResolvedThresholds) (m : PushMetrics) : List MetricBreach :=
  filterNotifiedBreaches (breachesOf m t) t

def alertLevel (t : ResolvedThresholds) (m : PushMetrics) : MetricLevel := worstLevel (alertable t m)

/-- A push whose thresholds were resolved, from its read of the row to its writes. -/
def evaluatedPush (d : PushDevice) (t : ResolvedThresholds) (m : PushMetrics) : PushDevice × Option Notify :=
  let plan := pushPlan d (evaluate true (some m) (some t))
  (writeLevels { d with latestMetrics := some m } plan.levelUpdate, plan.notify)

/-- `processChunk` for a row: the level it read and the level to store instead. -/
def processRow (alertsEnabled : Bool) (thresholds : Option ResolvedThresholds) (d : PushDevice) :
    Option (MetricLevel × MetricLevel) :=
  if alertsEnabled then
    match thresholds, d.latestMetrics, d.lastMetricAlertStatus.or d.lastMetricStatus with
    | some t, some m, some prev =>
        let full := computeMetricStatus (some m) t
        let alertLevel := worstLevel (filterNotifiedBreaches full.2 t)
        (rebaselineAlertLevel prev alertLevel full.1).map fun next => (prev, next)
    | _, _, _ => none
  else none

/-- The conditional write: a push that landed meanwhile already stored a fresher level. -/
def writeRebaselined (d : PushDevice) (prev next : MetricLevel) : PushDevice :=
  if d.lastMetricAlertStatus.or d.lastMetricStatus = some prev then { d with lastMetricAlertStatus := some next }
  else d

/-- `levelTransition`, as what is sent on it. -/
def levelTransition (prev : Option MetricLevel) (next : MetricLevel) : Option Notify :=
  if becameBad prev next then some .alert else if recovered prev next then some .recovery else none

/-! ## Runs -/

/-- A push that was evaluated, with the switches of its time and what it planned to send. -/
structure Pushed where
  metrics : PushMetrics
  thresholds : ResolvedThresholds
  notify : Option Notify
  deriving DecidableEq, Repr

structure MuteState where
  device : PushDevice
  thresholds : ResolvedThresholds
  /-- The rows a re-baseline has read and not written yet. -/
  rebaselines : List (MetricLevel × MetricLevel)
  /-- The pushes so far, the last at the end. -/
  pushes : List Pushed

inductive MuteOp where
  | push (metrics : PushMetrics)
  | setThresholds (t : ResolvedThresholds)
  | rebaselineRead
  | rebaselineWrite (i : ℕ)
  deriving DecidableEq, Repr

def muteStep (s : MuteState) : MuteOp → Option MuteState
  | .push m =>
      let (device, notify) := evaluatedPush s.device s.thresholds m
      some { s with device := device, pushes := s.pushes ++ [⟨m, s.thresholds, notify⟩] }
  | .setThresholds t => some { s with thresholds := t }
  | .rebaselineRead =>
      some { s with rebaselines := s.rebaselines ++ (processRow true (some s.thresholds) s.device).toList }
  | .rebaselineWrite i =>
      match s.rebaselines[i]? with
      | none => none
      | some (prev, next) =>
          some { s with device := writeRebaselined s.device prev next, rebaselines := s.rebaselines.eraseIdx i }

/-- A device that has not pushed yet, with any switches. -/
def muteMachine : Machine MuteState MuteOp where
  init s :=
    s.device.latestMetrics = none ∧ s.device.lastMetricStatus = none ∧ s.device.lastMetricAlertStatus = none ∧
      s.rebaselines = [] ∧ s.pushes = []
  step := muteStep

def ResolvedMetricThreshold.SameValues (a b : ResolvedMetricThreshold) : Prop := a.warn = b.warn ∧ a.crit = b.crit

/-- The same warn and crit values for cpu, ram and every mount. -/
structure SameValues (t t' : ResolvedThresholds) : Prop where
  cpu : t.cpu.SameValues t'.cpu
  ram : t.ram.SameValues t'.ram
  disk : ∀ mount, ((t.forMount mount).getD t.disk).SameValues ((t'.forMount mount).getD t'.disk)

/-- Only switches are changed. -/
def FixedValues (s : MuteState) : MuteOp → Prop
  | .setThresholds t => SameValues s.thresholds t
  | _ => True

/-- Nothing is changed. -/
def FixedSwitches (_ : MuteState) : MuteOp → Prop
  | .setThresholds _ => False
  | _ => True

/-- A recovery is sent only where the metrics of the push before had an alertable breach under the switches of this
push, which has none. -/
def NoFalseRecovery (pushes : List Pushed) : Prop :=
  ∀ pre e post, pushes = pre ++ e :: post → e.notify = some .recovery →
    ∃ p ∈ pre.getLast?, alertable e.thresholds p.metrics ≠ [] ∧ alertable e.thresholds e.metrics = []

/-- What is sent is the transition between the alertable levels of two pushes in a row. -/
def FollowsLevels (pushes : List Pushed) : Prop :=
  ∀ pre e post, pushes = pre ++ e :: post →
    e.notify = levelTransition (pre.getLast?.map fun p => alertLevel p.thresholds p.metrics)
      (alertLevel e.thresholds e.metrics)

/-! ## Levels -/

theorem worstLevel_eq_ok_iff {bs : List MetricBreach} : worstLevel bs = .ok ↔ bs = [] := by
  constructor
  · intro h
    by_contra hne
    obtain ⟨b, hb⟩ := List.exists_mem_of_ne_nil bs hne
    unfold worstLevel at h
    split_ifs at h with hcritical hwarning
    cases hlevel : b.level with
    | critical => exact hcritical (List.any_eq_true.2 ⟨b, hb, decide_eq_true hlevel⟩)
    | warning => exact hwarning (List.any_eq_true.2 ⟨b, hb, decide_eq_true hlevel⟩)
  · rintro rfl
    rfl

theorem severity_ok_iff {a : MetricLevel} : metricSeverity a = 0 ↔ a = .ok := by
  cases a <;> simp [metricSeverity]

theorem evalAgainst_congr {metric : MetricKind} {pct : Option ℚ} {a b : ResolvedMetricThreshold} {mount : Option String}
    (h : a.SameValues b) : evalAgainst metric pct a mount = evalAgainst metric pct b mount := by
  unfold evalAgainst
  rw [h.1, h.2]

/-- Switches take no part in the breaches. -/
theorem breachesOf_congr {t t' : ResolvedThresholds} (h : SameValues t t') (m : PushMetrics) :
    breachesOf m t = breachesOf m t' := by
  unfold breachesOf
  rw [evalAgainst_congr h.cpu, evalAgainst_congr h.ram]
  congr 2
  funext d
  cases d with
  | none => rfl
  | some d =>
      dsimp only
      rw [evalAgainst_congr (h.disk d.mount)]

/-! ## One push -/

section Push
variable {d : PushDevice} {t : ResolvedThresholds} {m : PushMetrics}

theorem evaluatedPush_stored : (evaluatedPush d t m).1.latestMetrics = some m ∧
    (evaluatedPush d t m).1.lastMetricAlertStatus = some (alertLevel t m) := by
  refine ⟨rfl, ?_⟩
  have hkeep (rebased raw : Option MetricLevel) (a : MetricLevel) :
      (if rebased.isSome = true then some a else if rebased.or raw ≠ some a then some a else none).or raw = some a := by
    cases rebased with
    | some level => rfl
    | none =>
        by_cases hsame : raw = some a <;> simp [hsame]
  exact hkeep _ _ _

/-- What a push sends is the transition from the level it starts from. -/
theorem evaluatedPush_notify : (evaluatedPush d t m).2 =
    levelTransition (((inlineRebaselinePrevAlert (d.lastMetricAlertStatus.or d.lastMetricStatus) (alertLevel t m)
      d.latestMetrics t).or d.lastMetricAlertStatus).or d.lastMetricStatus) (alertLevel t m) := by
  simp only [evaluatedPush, pushPlan, evaluate, planMetricTransitions, computeMetricStatus, Option.isSome_some,
    Bool.true_and, Option.bind_some]
  have hstay (prev : Option MetricLevel) (a : MetricLevel) :
      (if decide (prev ≠ some a) = true then
        if becameBad prev a = true then some Notify.alert
        else if recovered prev a = true then some .recovery else none
      else none) = levelTransition prev a := by
    unfold levelTransition
    cases a <;> rcases prev with _ | _ | _ | _ <;> rfl
  exact hstay _ _

variable {pm : PushMetrics} {stored : MetricLevel}

/-- The level a push starts from, when the stored one is at most the level of all breaches of the push before. -/
theorem inlineRebaseline_cases (hle : metricSeverity stored ≤ metricSeverity (worstLevel (breachesOf pm t)))
    (alert : MetricLevel) : inlineRebaselinePrevAlert (some stored) alert (some pm) t = none ∧
        (metricSeverity stored ≤ metricSeverity alert ∨ metricSeverity stored ≤ metricSeverity (alertLevel t pm)) ∨
      inlineRebaselinePrevAlert (some stored) alert (some pm) t = some (alertLevel t pm) := by
  simp only [inlineRebaselinePrevAlert, rebaselineAlertLevel, computeMetricStatus]
  by_cases hrise : metricSeverity stored ≤ metricSeverity alert
  · exact .inl ⟨if_pos hrise, .inl hrise⟩
  · rw [if_neg hrise]
    by_cases hkept : metricSeverity stored ≤ metricSeverity (alertLevel t pm)
    · exact .inl ⟨if_pos hkept, .inr hkept⟩
    · -- a full level of ok leaves no room below the stored level
      have hfull : worstLevel (breachesOf pm t) ≠ .ok := by
        intro hok
        rw [severity_ok_iff.2 hok] at hle
        omega
      exact .inr ((if_neg hkept).trans (if_neg hfull))

/-- **A push recovers only from an alertable breach of the push before.** -/
theorem evaluatedPush_recovery (hmetrics : d.latestMetrics = some pm) (hstored : d.lastMetricAlertStatus = some stored)
    (hle : metricSeverity stored ≤ metricSeverity (worstLevel (breachesOf pm t)))
    (h : (evaluatedPush d t m).2 = some .recovery) : alertable t pm ≠ [] ∧ alertable t m = [] := by
  rw [evaluatedPush_notify, hmetrics, hstored, Option.some_or] at h
  have hrecovered {prev : MetricLevel} (h : levelTransition (some prev) (alertLevel t m) = some .recovery) :
      prev ≠ .ok ∧ alertLevel t m = .ok := by
    revert h
    unfold levelTransition
    generalize alertLevel t m = a
    cases prev <;> cases a <;> decide
  rcases inlineRebaseline_cases hle (alertLevel t m) with ⟨hnone, hkept⟩ | hlowered
  · rw [hnone, Option.none_or, Option.some_or] at h
    obtain ⟨hbad, hok⟩ := hrecovered h
    refine ⟨?_, worstLevel_eq_ok_iff.1 hok⟩
    rw [Ne, ← worstLevel_eq_ok_iff, ← severity_ok_iff]
    rw [Ne, ← severity_ok_iff] at hbad
    rcases hkept with hkept | hkept
    · rw [severity_ok_iff.2 hok] at hkept
      omega
    · change metricSeverity stored ≤ metricSeverity (worstLevel (alertable t pm)) at hkept
      omega
  · rw [hlowered, Option.some_or, Option.some_or] at h
    obtain ⟨hbad, hok⟩ := hrecovered h
    exact ⟨fun hnil => hbad (worstLevel_eq_ok_iff.2 hnil), worstLevel_eq_ok_iff.1 hok⟩

/-- The stored level is that of the push before: a push sends the transition from it. -/
theorem evaluatedPush_follows (hmetrics : d.latestMetrics = some pm)
    (hstored : d.lastMetricAlertStatus = some (alertLevel t pm)) :
    (evaluatedPush d t m).2 = levelTransition (some (alertLevel t pm)) (alertLevel t m) := by
  rw [evaluatedPush_notify, hmetrics, hstored, Option.some_or]
  rcases inlineRebaseline_cases (worstLevel_filter_le (breachesOf pm t) t) (alertLevel t m) with ⟨hnone, -⟩ | hlowered
  · rw [show alertLevel t pm = worstLevel (filterNotifiedBreaches (breachesOf pm t) t) from rfl, hnone]
    rfl
  · rw [show alertLevel t pm = worstLevel (filterNotifiedBreaches (breachesOf pm t) t) from rfl, hlowered]
    rfl

theorem levelTransition_none_ne (next : MetricLevel) : levelTransition none next ≠ some .recovery := by
  cases next <;> decide

/-- The first push of a device sends the transition from no level. -/
theorem evaluatedPush_first (hlevel : d.lastMetricStatus = none) (halert : d.lastMetricAlertStatus = none) :
    (evaluatedPush d t m).2 = levelTransition none (alertLevel t m) := by
  rw [evaluatedPush_notify, hlevel, halert]
  rfl

end Push

/-! ## Runs of pushes -/

/-- What holds at every place of a list holds of its last element and at every place before. -/
theorem forall_places_append {α : Type} {P : List α → α → Prop} {l : List α} {a : α}
    (h : ∀ pre e post, l = pre ++ e :: post → P pre e) (ha : P l a) :
    ∀ pre e post, l ++ [a] = pre ++ e :: post → P pre e := by
  intro pre e post heq
  rcases List.eq_nil_or_concat post with rfl | ⟨post, b, rfl⟩
  · obtain ⟨rfl, hae⟩ := List.append_inj' heq rfl
    rw [← List.head_eq_of_cons_eq hae]
    exact ha
  · rw [List.concat_eq_append, ← List.cons_append, ← List.append_assoc] at heq
    exact h pre e post (List.append_inj' heq rfl).1

/-- A re-baseline only lowers. -/
theorem processRow_lowers {d : PushDevice} {t : Option ResolvedThresholds} {enabled : Bool} {prev next : MetricLevel}
    (h : processRow enabled t d = some (prev, next)) : metricSeverity next ≤ metricSeverity prev := by
  unfold processRow at h
  split at h
  · split at h
    · obtain ⟨level, hlevel, heq⟩ := Option.map_eq_some_iff.1 h
      obtain ⟨rfl, rfl⟩ := Prod.mk.inj heq
      unfold rebaselineAlertLevel at hlevel
      split_ifs at hlevel with hrise
      rw [← Option.some.inj hlevel]
      omega
    · cases h
  · cases h

/-- A device that has not pushed has no level. -/
def Fresh (d : PushDevice) : Prop :=
  d.latestMetrics = none ∧ d.lastMetricStatus = none ∧ d.lastMetricAlertStatus = none

theorem Fresh.writeRebaselined {d : PushDevice} (h : Fresh d) (prev next : MetricLevel) :
    Obliance.Metrics.writeRebaselined d prev next = d := by
  rw [Obliance.Metrics.writeRebaselined, h.2.1, h.2.2]
  rfl

/-- The stored level is at most the level of all breaches of the last push. -/
structure MuteInv (s : MuteState) : Prop where
  fresh : s.pushes = [] → Fresh s.device
  last : ∀ p ∈ s.pushes.getLast?, s.device.latestMetrics = some p.metrics ∧
    ∃ stored, s.device.lastMetricAlertStatus = some stored ∧
      metricSeverity stored ≤ metricSeverity (worstLevel (breachesOf p.metrics s.thresholds))
  lowers : ∀ r ∈ s.rebaselines, metricSeverity r.2 ≤ metricSeverity r.1
  sent : NoFalseRecovery s.pushes

section Runs
variable {s t : MuteState}

theorem getLast?_append_push (pushes : List Pushed) (e : Pushed) : (pushes ++ [e]).getLast? = some e := by
  simp

theorem MuteInv.push (h : MuteInv s) (m : PushMetrics) : MuteInv
    { s with
      device := (evaluatedPush s.device s.thresholds m).1
      pushes := s.pushes ++ [⟨m, s.thresholds, (evaluatedPush s.device s.thresholds m).2⟩] } where
  fresh hnil := absurd hnil (by simp)
  last p hp := by
    rw [getLast?_append_push, Option.mem_some_iff] at hp
    subst hp
    obtain ⟨hmetrics, hstored⟩ := evaluatedPush_stored (d := s.device) (t := s.thresholds) (m := m)
    exact ⟨hmetrics, _, hstored, worstLevel_filter_le _ _⟩
  lowers := h.lowers
  sent := by
    refine forall_places_append h.sent fun hrecovery => ?_
    dsimp only at hrecovery ⊢
    cases hlast : s.pushes.getLast? with
    | none =>
        obtain ⟨-, hlevel, halert⟩ := h.fresh (List.getLast?_eq_none_iff.1 hlast)
        rw [evaluatedPush_first hlevel halert] at hrecovery
        exact absurd hrecovery (levelTransition_none_ne _)
    | some p =>
        obtain ⟨hmetrics, stored, hstored, hle⟩ := h.last p hlast
        exact ⟨p, rfl, evaluatedPush_recovery hmetrics hstored hle hrecovery⟩

theorem MuteInv.write (h : MuteInv s) {r : MetricLevel × MetricLevel} (hr : metricSeverity r.2 ≤ metricSeverity r.1)
    {rest : List (MetricLevel × MetricLevel)} (hrest : ∀ r ∈ rest, r ∈ s.rebaselines) :
    MuteInv { s with device := writeRebaselined s.device r.1 r.2, rebaselines := rest } where
  fresh hnil := by
    have hfresh := h.fresh hnil
    rw [hfresh.writeRebaselined]
    exact hfresh
  last p hp := by
    obtain ⟨hmetrics, stored, hstored, hle⟩ := h.last p hp
    unfold writeRebaselined
    rw [hstored, Option.some_or]
    by_cases hsame : some stored = some r.1
    · rw [if_pos hsame]
      rw [← Option.some.inj hsame] at hr
      exact ⟨hmetrics, r.2, rfl, hr.trans hle⟩
    · rw [if_neg hsame]
      exact ⟨hmetrics, stored, hstored, hle⟩
  lowers r' hr' := h.lowers r' (hrest r' hr')
  sent := h.sent

theorem MuteInv.step {op : MuteOp} (h : MuteInv s) (hop : FixedValues s op) (hs : muteStep s op = some t) :
    MuteInv t := by
  cases op with
  | push m => exact Option.some.inj hs ▸ h.push m
  | setThresholds t =>
      rw [← Option.some.inj hs]
      refine { h with last := fun p hp => ?_ }
      rw [← breachesOf_congr (show SameValues s.thresholds t from hop)]
      exact h.last p hp
  | rebaselineRead =>
      rw [← Option.some.inj hs]
      refine { h with lowers := fun r hr => ?_ }
      rcases List.mem_append.1 hr with hr | hr
      · exact h.lowers r hr
      · exact processRow_lowers (Option.mem_toList.1 hr)
  | rebaselineWrite i =>
      simp only [muteStep] at hs
      split at hs
      · cases hs
      · rename_i prev next hr
        rw [← Option.some.inj hs]
        exact h.write (r := (prev, next)) (h.lowers _ (List.mem_of_getElem? hr)) fun r => List.mem_of_mem_eraseIdx

/-- Nothing is changed: the stored level is the alertable level of the last push. -/
structure FollowInv (s : MuteState) : Prop where
  fresh : s.pushes = [] → Fresh s.device
  last : ∀ p ∈ s.pushes.getLast?, p.thresholds = s.thresholds ∧ s.device.latestMetrics = some p.metrics ∧
    s.device.lastMetricAlertStatus = some (alertLevel s.thresholds p.metrics)
  idle : s.rebaselines = []
  sent : FollowsLevels s.pushes

theorem FollowInv.push (h : FollowInv s) (m : PushMetrics) : FollowInv
    { s with
      device := (evaluatedPush s.device s.thresholds m).1
      pushes := s.pushes ++ [⟨m, s.thresholds, (evaluatedPush s.device s.thresholds m).2⟩] } where
  fresh hnil := absurd hnil (by simp)
  last p hp := by
    rw [getLast?_append_push, Option.mem_some_iff] at hp
    subst hp
    exact ⟨rfl, evaluatedPush_stored⟩
  idle := h.idle
  sent := by
    refine forall_places_append h.sent ?_
    dsimp only
    cases hlast : s.pushes.getLast? with
    | none =>
        obtain ⟨-, hlevel, halert⟩ := h.fresh (List.getLast?_eq_none_iff.1 hlast)
        exact evaluatedPush_first hlevel halert
    | some p =>
        obtain ⟨hsame, hmetrics, hstored⟩ := h.last p hlast
        rw [Option.map_some, hsame]
        exact evaluatedPush_follows hmetrics hstored

/-- A re-baseline finds nothing to lower. -/
theorem FollowInv.processRow (h : FollowInv s) :
    Obliance.Metrics.processRow true (some s.thresholds) s.device = none := by
  unfold Obliance.Metrics.processRow
  rw [if_pos rfl]
  cases hlast : s.pushes.getLast? with
  | none =>
      obtain ⟨hmetrics, -⟩ := h.fresh (List.getLast?_eq_none_iff.1 hlast)
      rw [hmetrics]
  | some p =>
      obtain ⟨-, hmetrics, hstored⟩ := h.last p hlast
      rw [hmetrics, hstored]
      simp [rebaselineAlertLevel, computeMetricStatus, alertLevel, alertable]

theorem FollowInv.step {op : MuteOp} (h : FollowInv s) (hop : FixedSwitches s op) (hs : muteStep s op = some t) :
    FollowInv t := by
  cases op with
  | push m => exact Option.some.inj hs ▸ h.push m
  | setThresholds t => exact hop.elim
  | rebaselineRead =>
      rw [← Option.some.inj hs]
      refine { h with idle := ?_ }
      rw [h.processRow, h.idle]
      rfl
  | rebaselineWrite i =>
      simp only [muteStep, h.idle] at hs
      cases hs

theorem no_false_recovery (h : Reach muteMachine FixedValues s) : NoFalseRecovery s.pushes := by
  refine (h.invariant (I := MuteInv) (fun s hinit => ?_) fun _ _ _ hi hok hs => hi.step hok hs).sent
  obtain ⟨hmetrics, hlevel, halert, hrebaselines, hpushes⟩ := hinit
  refine ⟨fun _ => ⟨hmetrics, hlevel, halert⟩, by simp [hpushes], by simp [hrebaselines], ?_⟩
  rw [hpushes]
  simp [NoFalseRecovery]

theorem follows_levels (h : Reach muteMachine FixedSwitches s) : FollowsLevels s.pushes := by
  refine (h.invariant (I := FollowInv) (fun s hinit => ?_) fun _ _ _ hi hok hs => hi.step hok hs).sent
  obtain ⟨hmetrics, hlevel, halert, hrebaselines, hpushes⟩ := hinit
  refine ⟨fun _ => ⟨hmetrics, hlevel, halert⟩, by simp [hpushes], hrebaselines, ?_⟩
  rw [hpushes]
  simp [FollowsLevels]

end Runs

/-- **Switches never send a false recovery**; and as long as none is changed, what is sent follows the levels. -/
theorem muting_sends_no_false_recovery :
    (∀ s, Reach muteMachine FixedValues s → NoFalseRecovery s.pushes) ∧
      ∀ s, Reach muteMachine FixedSwitches s → FollowsLevels s.pushes :=
  ⟨fun _ => no_false_recovery, fun _ => follows_levels⟩

def cpuSwitch (notify : Bool) : ResolvedThresholds :=
  ⟨⟨80, 95, notify⟩, ⟨80, 95, true⟩, ⟨80, 95, true⟩, []⟩

/-- A device that has not pushed yet, its cpu alerts on. -/
def newDevice : MuteState where
  device := {
    id := 1, tenantId := 1, groupId := none, status := .online, hostname := "srv", displayName := none
    metricAlertsEnabled := none, latestMetrics := none, lastMetricStatus := none, lastMetricAlertStatus := none }
  thresholds := cpuSwitch true
  rebaselines := []
  pushes := []

def cpuPush (pct : ℚ) : MuteOp := .push ⟨some pct, some 10, []⟩

/-- The cpu is muted between its breach and its return to normal, then it is not. -/
theorem muted_cpu_is_silent :
    (∃ s, Reach muteMachine FixedValues s ∧ s.pushes.map Pushed.notify = [some .alert, none] ∧
      NoFalseRecovery s.pushes) ∧
    ∃ s, Reach muteMachine FixedSwitches s ∧ s.pushes.map Pushed.notify = [some .alert, some .recovery] ∧
      FollowsLevels s.pushes := by
  have hinit : muteMachine.init newDevice := ⟨rfl, rfl, rfl, rfl, rfl⟩
  refine ⟨?_, ?_⟩
  · obtain ⟨s, hexec, hsent⟩ : ∃ s, muteMachine.exec newDevice
        [cpuPush 99, .setThresholds (cpuSwitch false), .rebaselineRead, .rebaselineWrite 0, cpuPush 20] = some s ∧
        s.pushes.map Pushed.notify = [some .alert, none] := ⟨_, rfl, by decide +kernel⟩
    have hadmits : muteMachine.Admits FixedValues newDevice
        [cpuPush 99, .setThresholds (cpuSwitch false), .rebaselineRead, .rebaselineWrite 0, cpuPush 20] := by
      refine ⟨trivial, fun t ht => ⟨?_, fun _ _ => ⟨trivial, fun _ _ => ⟨trivial, fun _ _ => ⟨trivial, fun _ _ =>
        trivial⟩⟩⟩⟩⟩
      cases ht
      exact ⟨⟨rfl, rfl⟩, ⟨rfl, rfl⟩, fun _ => ⟨rfl, rfl⟩⟩
    have hreach := (Reach.start hinit).of_exec _ hadmits hexec
    exact ⟨s, hreach, hsent, muting_sends_no_false_recovery.1 s hreach⟩
  · obtain ⟨s, hexec, hsent⟩ : ∃ s, muteMachine.exec newDevice [cpuPush 99, .rebaselineRead, cpuPush 20] = some s ∧
        s.pushes.map Pushed.notify = [some .alert, some .recovery] := ⟨_, rfl, by decide +kernel⟩
    have hadmits : muteMachine.Admits FixedSwitches newDevice [cpuPush 99, .rebaselineRead, cpuPush 20] :=
      ⟨trivial, fun _ _ => ⟨trivial, fun _ _ => ⟨trivial, fun _ _ => trivial⟩⟩⟩
    have hreach := (Reach.start hinit).of_exec _ hadmits hexec
    exact ⟨s, hreach, hsent, muting_sends_no_false_recovery.2 s hreach⟩

end Obliance.Metrics
