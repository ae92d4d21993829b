import Obliance.Alerts.Service

/-!
# Calls of `liveAlertService` that run alone

The statements of one call, one after another, where no other call runs between them.

* `AlertTable` : `live_alerts` and its sequence;
* `AlertTable.add`, `resolveIncidents`, `resolveMutedMetricAlerts` : the calls;
* `not_active_resolveIncidents` : no row of a resolved incident is active;
* `Used` : the ids of the rows are used up; the calls keep it;
* `active_add` : an incident that is raised on a device is active, whatever the trim deletes.
-/

namespace Obliance.Alerts

structure AlertTable where
  rows : List LiveAlert
  nextId : ℕ
  deriving DecidableEq, Repr

namespace AlertTable

/-- `add` of an incident key. -/
def add (alerts : AlertTable) (device : Option AlertDevice) (inc : IncidentRef) (tenantId : ℕ) (opts : AddOpts)
    (now : ℤ) : AlertTable :=
  let c := commitRaise alerts.rows alerts.nextId (raiseOpen device inc) (readActive alerts.rows inc) tenantId opts now
  if c.2 then ⟨trimTenant c.1 tenantId, alerts.nextId + 1⟩ else ⟨c.1, alerts.nextId⟩

def resolveIncidents (alerts : AlertTable) (inc : IncidentRef) (now : ℤ) : AlertTable :=
  { alerts with rows := resolveWhere alerts.rows (LiveAlert.ofIncident inc) now }

/-- The active rows of the metric incident are marked read, then resolved. -/
def resolveMutedMetricAlerts (alerts : AlertTable) (deviceId : ℕ) (now : ℤ) : AlertTable :=
  let inc : IncidentRef := ⟨.metric, deviceId⟩
  { alerts with
    rows := readWhere alerts.rows (fun a => a.ofIncident inc && a.active && a.readAt.isNone) now }.resolveIncidents
      inc now

/-- Whether the incident is active, in any tenant. -/
def Active (alerts : AlertTable) (inc : IncidentRef) : Prop := ∃ a ∈ alerts.rows, a.activeOf inc = true

instance decidableActive (alerts : AlertTable) (inc : IncidentRef) : Decidable (alerts.Active inc) :=
  inferInstanceAs (Decidable (∃ a ∈ alerts.rows, a.activeOf inc = true))

theorem not_active_resolveIncidents (alerts : AlertTable) (inc : IncidentRef) (now : ℤ) :
    ¬ (alerts.resolveIncidents inc now).Active inc := by
  rintro ⟨a, ha, hact⟩
  rw [LiveAlert.activeOf, Bool.and_eq_true] at hact
  have hnot := (mem_resolveWhere_active ha hact.2).2
  rw [hact.1] at hnot
  cases hnot

theorem not_active_resolveMuted (alerts : AlertTable) (deviceId : ℕ) (now : ℤ) :
    ¬ (alerts.resolveMutedMetricAlerts deviceId now).Active ⟨.metric, deviceId⟩ :=
  not_active_resolveIncidents _ _ _

/-! ## A raise leaves the incident active -/

def Used (alerts : AlertTable) : Prop := ∀ a ∈ alerts.rows, a.id < alerts.nextId

variable {alerts : AlertTable} {inc : IncidentRef} {device : Option AlertDevice} {tenantId : ℕ} {opts : AddOpts}
  {now : ℤ}

theorem used_resolveWhere {rows : List LiveAlert} {nextId : ℕ} (h : ∀ a ∈ rows, a.id < nextId)
    (p : LiveAlert → Bool) (now : ℤ) : ∀ a ∈ resolveWhere rows p now, a.id < nextId := by
  intro a ha
  obtain ⟨b, hb, hid, -⟩ := (shrinks_resolveWhere rows p now).rows a ha
  exact hid ▸ h b hb

theorem used_insertAlert {rows : List LiveAlert} {nextId : ℕ} (h : ∀ a ∈ rows, a.id < nextId) :
    ∀ a ∈ insertAlert rows nextId tenantId opts now, a.id < nextId + 1 := by
  intro a ha
  obtain ha | ha := List.mem_append.1 ha
  · exact (h a ha).trans (Nat.lt_succ_self _)
  · rw [List.mem_singleton.1 ha]
    exact Nat.lt_succ_self _

theorem Used.resolveIncidents (h : alerts.Used) : (alerts.resolveIncidents inc now).Used := used_resolveWhere h _ _

theorem Used.add (h : alerts.Used) : (alerts.add device inc tenantId opts now).Used := by
  unfold AlertTable.add
  obtain ⟨hcommit, -⟩ | ⟨hcommit, -⟩ := commitRaise_cases alerts.rows alerts.nextId (raiseOpen device inc)
    (readActive alerts.rows inc) tenantId opts now
  · rw [hcommit]
    exact used_resolveWhere h _ _
  · rw [hcommit]
    exact fun a ha => used_insertAlert (used_resolveWhere h _ _) a (List.mem_of_mem_filter ha)

instance keptFirst_total : Std.Total keptFirst where
  total a b := by
    unfold keptFirst
    cases a.active <;> cases b.active <;> simp [le_total]

instance keptFirst_trans : IsTrans LiveAlert keptFirst where
  trans a b c hab hbc := by
    obtain ⟨ha, hb⟩ | ⟨hab, hid⟩ := hab <;> obtain ⟨hb', hc⟩ | ⟨hbc, hid'⟩ := hbc
    · rw [hb] at hb'
      cases hb'
    · exact .inl ⟨ha, hbc ▸ hb⟩
    · exact .inl ⟨hab.trans hb', hc⟩
    · exact .inr ⟨hab.trans hbc, hid'.trans hid⟩

/-- The newest row of its tenant is not trimmed while it is active. -/
theorem mem_trimTenant_newest {rows : List LiveAlert} {a : LiveAlert} (ha : a ∈ rows) (hact : a.active = true)
    (hnewest : ∀ b ∈ rows, a.id ≤ b.id → b = a) : a ∈ trimTenant rows a.tenantId := by
  have hkept : a.id ∈ keptIds rows a.tenantId := by
    have hin : a ∈ (rows.filter fun b => b.tenantId = a.tenantId).insertionSort keptFirst :=
      (List.mem_insertionSort _).2 (List.mem_filter.2 ⟨ha, decide_eq_true rfl⟩)
    have hsorted := List.pairwise_insertionSort keptFirst (rows.filter fun b => b.tenantId = a.tenantId)
    rw [keptIds]
    cases hcons : (rows.filter fun b => b.tenantId = a.tenantId).insertionSort keptFirst with
    | nil => exact absurd (hcons ▸ hin) List.not_mem_nil
    | cons b bs =>
        rw [hcons] at hin hsorted
        have hb : b ∈ rows :=
          List.mem_of_mem_filter ((List.mem_insertionSort keptFirst).1 (hcons ▸ List.mem_cons_self))
        have hba : b = a := by
          obtain rfl | hbs := List.mem_cons.1 hin
          · rfl
          · obtain ⟨-, hinact⟩ | ⟨-, hle⟩ := (List.pairwise_cons.1 hsorted).1 a hbs
            · rw [hact] at hinact
              cases hinact
            · exact hnewest b hb hle
        rw [hba]
        exact List.mem_map_of_mem List.mem_cons_self
  exact List.mem_filter.2 ⟨ha, by simp [hkept]⟩

theorem active_add (h : alerts.Used) (hopen : raiseOpen device inc = true) {key : String}
    (hkey : opts.stableKey = some key) (hinc : key ∈ incidentStableKeys inc) :
    (alerts.add device inc tenantId opts now).Active inc := by
  unfold AlertTable.add
  obtain ⟨hcommit, hor⟩ | ⟨hcommit, -⟩ := commitRaise_cases alerts.rows alerts.nextId (raiseOpen device inc)
    (readActive alerts.rows inc) tenantId opts now
  · -- a row that says the same already is kept
    rw [hcommit]
    obtain ⟨k, hk⟩ := Option.isSome_iff_exists.1 (hor.resolve_right (by rw [hopen]; decide))
    rw [hk]
    rw [raiseKeep, if_pos hopen] at hk
    have hactive := List.mem_filter.1 ((List.mem_insertionSort _).1 (List.mem_of_find?_eq_some hk))
    refine ⟨k, List.mem_map.2 ⟨k, hactive.1, ?_⟩, hactive.2⟩
    have hstale : k.id ∉ raiseStale (some k) (readActive alerts.rows inc) := fun hmem => by
      obtain ⟨r, hr, hid⟩ := List.mem_map.1 hmem
      exact of_decide_eq_true (List.mem_filter.1 hr).2 hid
    exact if_neg fun hp => hstale (of_decide_eq_true (Bool.and_eq_true_iff.1 hp).1)
  · rw [hcommit]
    have hused := used_resolveWhere h (fun a => decide (a.id ∈ raiseStale none (readActive alerts.rows inc))) now
    let row : LiveAlert := ⟨alerts.nextId, tenantId, opts.severity, opts.title, opts.message, opts.navigateTo,
      opts.stableKey, none, now, none⟩
    have hrow : row.activeOf inc = true := by
      rw [LiveAlert.activeOf, LiveAlert.ofIncident, show row.stableKey = some key from hkey]
      exact Bool.and_eq_true_iff.2 ⟨decide_eq_true hinc, rfl⟩
    refine ⟨row, mem_trimTenant_newest (a := row) (List.mem_append_right _ (List.mem_singleton_self _)) rfl ?_, hrow⟩
    intro b hb hle
    obtain hb | hb := List.mem_append.1 hb
    · exact absurd (hused b hb) (not_lt.2 hle)
    · exact List.mem_singleton.1 hb

end AlertTable

end Obliance.Alerts
