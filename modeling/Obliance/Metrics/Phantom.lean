import Obliance.Metrics.Pushes

/-!
# No phantom metric alert

* `settles` : a push in flight that will still write a bad level or resolve the incident;
* `KeepsLevel` : the guard; an alert is raised, or the level reset, only where that leaves no active
  row without a bad level or a push that settles it;
* `phantomFree_step`, `no_phantom_alert` : under the guard an active row at rest has a bad level;
* `phantom_alert` : two pushes that leave an active row behind an ok level;
* `raiseMetric_inserts` : without an active row, the next alert of a push inserts one.
-/

namespace Obliance.Metrics
open GuardedRun Alerts

variable {showNumber : ℚ → String} {s t : PushState}

def PushPlan.settles (plan : PushPlan) : Bool :=
  isBad plan.levelUpdate.alert || decide (plan.notify = some .recovery)

/-- The push will still write a bad level, or resolve the incident. -/
def Push.settles : Push → Bool
  | .evaluated _ _ plan => plan.settles || plan.silentEnd
  | .silencing .. => true
  | .levels _ plan => plan.settles
  | .incident _ plan => decide (plan.notify = some .recovery)
  | _ => false

/-- Another push than the `i`-th settles. -/
def OtherSettles (s : PushState) (i : ℕ) : Prop :=
  ∃ j p, j ≠ i ∧ s.pushes[j]? = some p ∧ p.settles = true

/-- The condition on a step: a push raises its alert while the stored level is bad, and resets the
level without a recovery while no row is active, unless another push settles. -/
def KeepsLevel (s : PushState) : PushOp → Prop
  | .run i _ => ∀ p, s.pushes[i]? = some p →
      match p with
      | .incident _ plan => plan.notify = some .alert → alertBad s ∨ OtherSettles s i
      | .levels _ plan => plan.levelUpdate.alert = some .ok → plan.notify ≠ some .recovery →
          ¬ activeMetric s ∨ OtherSettles s i
      | _ => True
  | _ => True

/-- An active row has a bad level, or a push that settles it. -/
def PhantomFree (s : PushState) : Prop :=
  activeMetric s → alertBad s ∨ ∃ p ∈ s.pushes, p.settles = true

/-! ## One step of a push -/

theorem activeMetric_shrinks {alerts : List LiveAlert} (hs : Shrinks s.alerts alerts)
    (h : ∃ a ∈ alerts, a.activeOf (metricIncident s) = true) : activeMetric s := by
  obtain ⟨a', ha', hact⟩ := h
  obtain ⟨a, ha, -, haact⟩ := activeOf_of_shrinks hs ha' hact
  exact ⟨a, ha, haact⟩

/-- Resolving the incident leaves no active row of it. -/
theorem not_active_resolved (alerts : List LiveAlert) (inc : IncidentRef) (now : ℤ) :
    ¬ ∃ a ∈ resolveWhere alerts (LiveAlert.ofIncident inc) now, a.activeOf inc = true := by
  rintro ⟨a, ha, hact⟩
  rw [LiveAlert.activeOf, Bool.and_eq_true] at hact
  obtain ⟨-, hnot⟩ := mem_resolveWhere_active ha hact.2
  rw [hact.1] at hnot
  cases hnot

/-- The `i`-th push goes from `p` to `p'`: who settled still does, or `p'` does, or it is not needed. -/
theorem PhantomFree.advance (h : PhantomFree s) {i : ℕ} {p p' : Push} (hp : s.pushes[i]? = some p)
    (hpushes : t.pushes = s.pushes.set i p')
    (hsafe : activeMetric t → alertBad t ∨ OtherSettles s i ∨ p'.settles = true ∨
      (activeMetric s ∧ (alertBad s → alertBad t) ∧ p.settles = false)) : PhantomFree t := by
  have hlt : i < s.pushes.length := (List.getElem?_eq_some_iff.1 hp).1
  have hother : ∀ j q, j ≠ i → s.pushes[j]? = some q → q ∈ t.pushes := by
    intro j q hj hq
    rw [hpushes]
    exact List.mem_of_getElem? ((List.getElem?_set_ne hj.symm).trans hq)
  intro hact
  rcases hsafe hact with hbad | ⟨j, q, hj, hq, hset⟩ | hset | ⟨hact', hbad, hnot⟩
  · exact .inl hbad
  · exact .inr ⟨q, hother j q hj hq, hset⟩
  · exact .inr ⟨p', hpushes ▸ List.mem_set hlt p', hset⟩
  · rcases h hact' with hb | ⟨q, hq, hset⟩
    · exact .inl (hbad hb)
    · obtain ⟨j, hj⟩ := List.getElem?_of_mem hq
      refine .inr ⟨q, hother j q ?_ hj, hset⟩
      rintro rfl
      obtain rfl := Option.some.inj (hp.symm.trans hj)
      rw [hnot] at hset
      cases hset

/-- A statement that touches neither a row's activity nor the alertable level, by a push that does
not settle less afterwards. -/
theorem PhantomFree.frame (h : PhantomFree s) {i : ℕ} {p p' : Push} (hp : s.pushes[i]? = some p)
    (hpushes : t.pushes = s.pushes.set i p') (hset : p.settles = true → p'.settles = true)
    (hact : activeMetric t → activeMetric s)
    (hlevel : t.device.lastMetricAlertStatus = s.device.lastMetricAlertStatus) : PhantomFree t := by
  refine h.advance hp hpushes fun ha => ?_
  cases hps : p.settles with
  | true => exact .inr (.inr (.inl (hset hps)))
  | false => exact .inr (.inr (.inr ⟨hact ha, fun hb => by rwa [alertBad, hlevel], rfl⟩))

theorem writeStatus_frame (d : PushDevice) (changed : Bool) (target : DeviceStatus) :
    (writeStatus d changed target).id = d.id ∧
      (writeStatus d changed target).lastMetricAlertStatus = d.lastMetricAlertStatus := by
  unfold writeStatus
  split <;> exact ⟨rfl, rfl⟩

theorem shrinks_trimTenant (alerts : List LiveAlert) (tenantId : ℕ) :
    Shrinks alerts (trimTenant alerts tenantId) := shrinks_deleteWhere _ _

/-- The write of the level columns: a bad level is there afterwards, or the guard speaks. -/
theorem phantomFree_levels (h : PhantomFree s) {i : ℕ} {tenantId : ℕ} {plan : PushPlan}
    (hp : s.pushes[i]? = some (.levels tenantId plan))
    (hok : plan.levelUpdate.alert = some .ok → plan.notify ≠ some .recovery →
      ¬ activeMetric s ∨ OtherSettles s i) :
    PhantomFree { (setPush s i (.incident tenantId plan)) with
      device := writeLevels s.device plan.levelUpdate } := by
  refine h.advance hp rfl fun ha => ?_
  have hact : activeMetric s := ha
  by_cases hrec : plan.notify = some .recovery
  · exact .inr (.inr (.inl (decide_eq_true hrec)))
  · cases hu : plan.levelUpdate.alert with
    | none =>
        refine .inr (.inr (.inr ⟨hact, fun hb => ?_, ?_⟩))
        · simpa [alertBad, writeLevels, hu] using hb
        · simp [Push.settles, PushPlan.settles, hu, hrec, isBad]
    | some l =>
        cases l with
        | ok => exact (hok hu hrec).elim (fun hno => absurd hact hno) fun ho => .inr (.inl ho)
        | warning => exact .inl (by simp [alertBad, writeLevels, hu, isBad])
        | critical => exact .inl (by simp [alertBad, writeLevels, hu, isBad])

/-- The last step of a push, which raises the incident, resolves it or does nothing. -/
theorem phantomFree_incident (h : PhantomFree s) {i : ℕ} {now : ℤ} {tenantId : ℕ} {plan : PushPlan}
    (hp : s.pushes[i]? = some (.incident tenantId plan))
    (hok : plan.notify = some .alert → alertBad s ∨ OtherSettles s i)
    (hs : runPush showNumber s i now = some t) : PhantomFree t := by
  simp only [runPush, hp] at hs
  cases hn : plan.notify with
  | none =>
      rw [hn] at hs
      rw [← Option.some.inj hs]
      exact h.frame hp rfl (fun hset => by simp [Push.settles, hn] at hset) id rfl
  | some n =>
      rw [hn] at hs
      cases n with
      | recovery =>
          rw [← Option.some.inj hs]
          exact fun ha => absurd ha (not_active_resolved _ _ _)
      | alert =>
          -- whatever the raise writes, the level is bad or another push settles
          have hbad : ∀ (alerts : List LiveAlert) (nextId : ℕ) (p' : Push), PhantomFree
              { (setPush s i p') with alerts := alerts, nextId := nextId } := fun _ _ _ =>
            h.advance hp rfl fun _ => (hok hn).imp id .inl
          dsimp only at hs
          split at hs
          · exact Option.some.inj hs ▸ hbad _ _ _
          · exact Option.some.inj hs ▸ hbad _ _ _

theorem phantomFree_run (h : PhantomFree s) {i : ℕ} {now : ℤ} (hok : KeepsLevel s (.run i now))
    (hs : runPush showNumber s i now = some t) : PhantomFree t := by
  cases hp : s.pushes[i]? with
  | none => simp [runPush, hp] at hs
  | some p =>
      have hguard := hok p hp
      cases p with
      | incident tenantId plan => exact phantomFree_incident h hp hguard hs
      | levels tenantId plan =>
          simp only [runPush, hp] at hs
          exact Option.some.inj hs ▸ phantomFree_levels h hp hguard
      | begun tenantId metrics =>
          simp only [runPush, hp] at hs
          exact Option.some.inj hs ▸ h.frame hp rfl (fun hset => by cases hset) id rfl
      | read tenantId metrics prev =>
          simp only [runPush, hp] at hs
          exact Option.some.inj hs ▸ h.frame hp rfl (fun hset => by cases hset) id rfl
      | stored tenantId metrics prev => simp [runPush, hp] at hs
      | evaluated tenantId changed plan =>
          simp only [runPush, hp] at hs
          rw [← Option.some.inj hs]
          obtain ⟨hid, hlevel⟩ := writeStatus_frame s.device changed plan.target
          refine h.frame hp rfl (fun hset => ?_) (fun ha => ?_) hlevel
          · cases hsil : plan.silentEnd with
            | true => rfl
            | false => simpa [Push.settles, hsil] using hset
          · simpa [activeMetric, metricIncident, setPush, hid] using ha
      | silencing tenantId plan marked =>
          cases marked with
          | false =>
              simp only [runPush, hp] at hs
              exact Option.some.inj hs ▸ h.frame hp rfl (fun _ => rfl)
                (activeMetric_shrinks (shrinks_readWhere _ _ _)) rfl
          | true =>
              simp only [runPush, hp] at hs
              rw [← Option.some.inj hs]
              exact fun ha => absurd ha (not_active_resolved _ _ _)
      | trimming tenantId =>
          simp only [runPush, hp] at hs
          exact Option.some.inj hs ▸ h.frame hp rfl (fun hset => by cases hset)
            (activeMetric_shrinks (shrinks_trimTenant _ _)) rfl
      | done => simp [runPush, hp] at hs

/-! ## Runs -/

theorem phantomFree_step (h : PhantomFree s) {op : PushOp} (hok : KeepsLevel s op)
    (hs : pushStep showNumber s op = some t) : PhantomFree t := by
  cases op with
  | push tenantId metrics =>
      rw [← Option.some.inj hs]
      exact fun ha => (h ha).imp id fun ⟨p, hp, hset⟩ => ⟨p, List.mem_append_left _ hp, hset⟩
  | evaluate i resolved =>
      simp only [pushStep, evaluatePush] at hs
      split at hs
      · rename_i hp
        exact Option.some.inj hs ▸ h.frame hp rfl (fun hset => by cases hset) id rfl
      · cases hs
  | run i now => exact phantomFree_run h hok hs
  | setDeviceAlerts enabled => exact Option.some.inj hs ▸ h
  | setGroupAlerts groupId enabled => exact Option.some.inj hs ▸ h

theorem phantomFree_of_reach (h : Reach (pushMachine showNumber) KeepsLevel s) : PhantomFree s :=
  h.invariant (fun _ h0 ha => .inl (h0.2 ha)) fun _ _ _ hi hok hs => phantomFree_step hi hok hs

/-! ## The next alert of a device at rest -/

theorem pushPlan_alert_of_ok {d : PushDevice} {ev : Evaluation}
    (hd : d.lastMetricAlertStatus = some .ok) (hev : ev.thresholds.isSome = true)
    (hbad : ev.alert ≠ .ok) :
    (pushPlan d ev).notify = some .alert ∧ (pushPlan d ev).alert = ev.alert := by
  -- a stored ok level cannot drop, so nothing is re-baselined
  have hrebased : (ev.thresholds.bind fun th => inlineRebaselinePrevAlert
      (d.lastMetricAlertStatus.or d.lastMetricStatus) ev.alert d.latestMetrics th) = none := by
    obtain ⟨th, hth⟩ := Option.isSome_iff_exists.1 hev
    rw [hth, Option.bind_some, hd]
    unfold inlineRebaselinePrevAlert
    cases d.latestMetrics with
    | none => rfl
    | some m => exact if_pos (Nat.zero_le _)
  refine ⟨?_, rfl⟩
  simp only [pushPlan]
  rw [plan_alert_iff, hrebased, Option.none_or, hd]
  refine ⟨hev, ?_⟩
  cases ha : ev.alert with
  | ok => exact absurd ha hbad
  | warning => rfl
  | critical => rfl

/-- Without an active row of the incident, raising it inserts one. -/
theorem raiseMetric_inserts (hno : ¬ activeMetric s) (tenantId : ℕ) (opts : AddOpts) (now : ℤ) :
    (raiseMetric s tenantId opts now).2 = true := by
  have hread : readActive s.alerts (metricIncident s) = [] := by
    rw [readActive, List.filter_eq_nil_iff.2 fun a ha hact => hno ⟨a, ha, hact⟩]
    rfl
  simp only [raiseMetric, hread]
  rfl

/-- **No phantom metric alert**: in a run whose steps meet the condition, once no push is in flight an
active metric row has a warning or critical level; and with a stored ok level the next bad push
alerts and inserts its row. -/
theorem no_phantom_alert (h : Reach (pushMachine showNumber) KeepsLevel s) (hquiet : Quiet s) :
    (activeMetric s → alertBad s) ∧
      (s.device.lastMetricAlertStatus = some .ok → ∀ (ev : Evaluation) (tenantId : ℕ) (now : ℤ),
        ev.thresholds.isSome = true → ev.alert ≠ .ok →
        (pushPlan s.device ev).notify = some .alert ∧
          (raiseMetric s tenantId (metricAlertOpts showNumber s.device (pushPlan s.device ev)) now).2 =
            true) := by
  have hbad : activeMetric s → alertBad s := by
    intro hact
    rcases phantomFree_of_reach h hact with hbad | ⟨p, hp, hset⟩
    · exact hbad
    · rw [hquiet p hp] at hset
      cases hset
  refine ⟨hbad, fun hok ev tenantId now hev halert => ?_⟩
  refine ⟨(pushPlan_alert_of_ok hok hev halert).1, raiseMetric_inserts (fun hact => ?_) _ _ _⟩
  have := hbad hact
  rw [alertBad, hok] at this
  cases this

/-! ## Two pushes -/

/-- A device at rest, whose last push was ok. -/
def idleDevice : PushState where
  device := ⟨7, 1, none, .online, "srv", none, none, some ⟨some 10, none, []⟩, some .ok, some .ok⟩
  groupAlerts := fun _ => none
  alerts := []
  nextId := 1
  pushes := []

/-- The system defaults, as far as the runs below need them. -/
def plainThresholds : ResolvedThresholds := ⟨⟨80, 90, true⟩, ⟨85, 95, true⟩, ⟨80, 90, true⟩, []⟩

theorem idleDevice_init (showNumber : ℚ → String) : (pushMachine showNumber).init idleDevice := by
  refine ⟨rfl, ?_⟩
  rintro ⟨a, ha, -⟩
  cases ha

/-- A push that crosses the threshold and a later one that does not, one after the other. -/
theorem no_phantom_alert_recovery : ∃ s, Reach (pushMachine fun _ => "") KeepsLevel s ∧
    s.alerts.length = 1 ∧ (activeMetric s → alertBad s) := by
  have h0 : Reach _ KeepsLevel idleDevice := .start (idleDevice_init fun _ => "")
  have h1 := h0.next (.push 1 (some ⟨some 85, none, []⟩)) (by trivial) rfl
  have h2 := h1.next (.run 0 10) (by rintro _ ⟨⟩; trivial) rfl
  have h3 := h2.next (.run 0 11) (by rintro _ ⟨⟩; trivial) rfl
  have h4 := h3.next (.evaluate 0 (some plainThresholds)) (by trivial) rfl
  have h5 := h4.next (.run 0 12) (by rintro _ ⟨⟩; trivial) rfl
  have h6 := h5.next (.run 0 13) (by rintro _ ⟨⟩ ⟨⟩) rfl
  have h7 := h6.next (.run 0 14) (by rintro _ ⟨⟩ _; exact .inl rfl) rfl
  have h8 := h7.next (.run 0 15) (by rintro _ ⟨⟩; trivial) rfl
  exact ⟨_, h8, rfl, (no_phantom_alert h8 (by decide)).1⟩

/-- The push A stores its warning level; the push B, back to ok, resets it and resolves nothing; then A
raises its alert. -/
theorem phantom_alert : ¬ ∀ (showNumber : ℚ → String) (s : PushState),
    Reach (pushMachine showNumber) anyStep s → Quiet s → activeMetric s → alertBad s := by
  intro hall
  have h0 : Reach _ anyStep idleDevice := .start (idleDevice_init fun _ => "")
  have h1 := h0.next (.push 1 (some ⟨some 85, none, []⟩)) trivial rfl
  have h2 := h1.next (.run 0 10) trivial rfl
  have h3 := h2.next (.run 0 11) trivial rfl
  have h4 := h3.next (.evaluate 0 (some plainThresholds)) trivial rfl
  have h5 := h4.next (.run 0 12) trivial rfl
  have h6 := h5.next (.run 0 13) trivial rfl
  have h7 := h6.next (.push 1 (some ⟨some 10, none, []⟩)) trivial rfl
  have h8 := h7.next (.run 1 20) trivial rfl
  have h9 := h8.next (.run 1 21) trivial rfl
  have h10 := h9.next (.evaluate 1 (some plainThresholds)) trivial rfl
  have h11 := h10.next (.run 1 22) trivial rfl
  have h12 := h11.next (.run 1 23) trivial rfl
  have h13 := h12.next (.run 1 24) trivial rfl
  have h14 := h13.next (.run 0 30) trivial rfl
  have h15 := h14.next (.run 0 31) trivial rfl
  have hbad := hall _ _ h15 (by decide) ⟨_, List.mem_singleton.2 rfl, by rfl⟩
  cases hbad

end Obliance.Metrics
