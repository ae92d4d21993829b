import Obliance.Alerts.Service

/-!
# The feed of active alerts (`services/liveAlert.service.ts`)

* `getForTenants` : the active rows of some tenants, newest id first;
* `Fades t t'` : every active row of `t'` is an active row of `t`, unchanged while it is unread;
* `alertStep_grows` : a statement lets the table fade, and inserts at most one row, with the next id.
-/

namespace Obliance.Alerts
open KeyedTable

def activeOfTenants (alerts : List LiveAlert) (tenantIds : List ℕ) : List LiveAlert :=
  alerts.filter fun a => a.active && decide (a.tenantId ∈ tenantIds)

def getForTenants (alerts : List LiveAlert) (tenantIds : List ℕ) (limit : ℕ) : List LiveAlert :=
  ((activeOfTenants alerts tenantIds).insertionSort fun a b => b.id ≤ a.id).take limit

/-- A feed that is not full holds every active row of the tenants. -/
theorem getForTenants_perm {alerts : List LiveAlert} {tenantIds : List ℕ} {limit : ℕ}
    (h : (activeOfTenants alerts tenantIds).length ≤ limit) :
    (getForTenants alerts tenantIds limit).Perm (activeOfTenants alerts tenantIds) := by
  have hsorted := List.perm_insertionSort (fun a b : LiveAlert => b.id ≤ a.id) (activeOfTenants alerts tenantIds)
  rw [getForTenants, List.take_of_length_le (hsorted.length_eq.trans_le h)]
  exact hsorted

theorem mem_activeOfTenants {alerts : List LiveAlert} {tenantIds : List ℕ} {a : LiveAlert} :
    a ∈ activeOfTenants alerts tenantIds ↔ a ∈ alerts ∧ a.active = true ∧ a.tenantId ∈ tenantIds := by
  rw [activeOfTenants, List.mem_filter, Bool.and_eq_true, decide_eq_true_eq]

/-! ## What a statement does to the active rows -/

/-- Rows are resolved, read and deleted; nothing else changes. -/
structure Fades (t t' : List LiveAlert) : Prop where
  ids : (t'.map LiveAlert.id).Sublist (t.map LiveAlert.id)
  rows : ∀ a' ∈ t', a'.active = true → ∃ a ∈ t, a.active = true ∧ a.id = a'.id ∧ a.tenantId = a'.tenantId ∧
    (a'.readAt = none → a = a')

theorem Fades.refl (t : List LiveAlert) : Fades t t :=
  ⟨.refl _, fun a ha hact => ⟨a, ha, hact, rfl, rfl, fun _ => rfl⟩⟩

theorem fades_resolveWhere (t : List LiveAlert) (p : LiveAlert → Bool) (now : ℤ) :
    Fades t (resolveWhere t p now) := by
  refine ⟨(shrinks_resolveWhere t p now).ids, fun a' ha' hact => ?_⟩
  exact ⟨a', (mem_resolveWhere_active ha' hact).1, hact, rfl, rfl, fun _ => rfl⟩

theorem fades_readWhere (t : List LiveAlert) (p : LiveAlert → Bool) (now : ℤ) : Fades t (readWhere t p now) := by
  refine ⟨(shrinks_readWhere t p now).ids, fun a' ha' hact => ?_⟩
  obtain ⟨a, ha, rfl⟩ := List.mem_map.1 ha'
  split at hact
  · rename_i hp
    refine ⟨a, ha, hact, ?_, ?_, ?_⟩ <;> simp [hp]
  · rename_i hp
    refine ⟨a, ha, hact, ?_, ?_, ?_⟩ <;> simp [hp]

theorem fades_deleteWhere (t : List LiveAlert) (p : LiveAlert → Bool) : Fades t (deleteWhere t p) :=
  ⟨(shrinks_deleteWhere t p).ids, fun a ha hact => ⟨a, List.mem_of_mem_filter ha, hact, rfl, rfl, fun _ => rfl⟩⟩

/-- The table fades, and may get one row, with the next id. -/
def Grows (s t : AlertState) : Prop :=
  Fades s.alerts t.alerts ∧ t.nextId = s.nextId ∨
    ∃ left row, Fades s.alerts left ∧ t.alerts = left ++ [row] ∧ row.id = s.nextId ∧ t.nextId = s.nextId + 1

variable {s t : AlertState}

theorem Grows.of_eq (halerts : t.alerts = s.alerts) (hnext : t.nextId = s.nextId) : Grows s t :=
  .inl ⟨halerts ▸ Fades.refl _, hnext⟩

theorem raiseCommit_grows {inc : IncidentRef} {now : ℤ} (h : raiseCommit s inc now = some t) : Grows s t := by
  unfold raiseCommit at h
  cases hr : s.holders inc with
  | none => simp [hr] at h
  | some r =>
      cases hact : r.active with
      | none => simp [hr, hact] at h
      | some active =>
          simp only [hr, hact] at h
          rcases commitRaise_cases s.alerts s.nextId r.isOpen active r.tenantId r.opts now with
            ⟨he, -⟩ | ⟨he, -, -⟩
          · rw [he] at h
            rw [← Option.some.inj h]
            exact .inl ⟨fades_resolveWhere _ _ _, rfl⟩
          · rw [he] at h
            rw [← Option.some.inj h]
            exact .inr ⟨_, _, fades_resolveWhere _ _ _, rfl, rfl, rfl⟩

theorem runCall_grows {i : ℕ} {now : ℤ} (h : runCall s i now = some t) : Grows s t := by
  unfold runCall at h
  split at h
  · cases h
  · split at h
    · cases h
    · exact Option.some.inj h ▸ .of_eq rfl rfl
  · exact Option.some.inj h ▸ .inr ⟨_, _, Fades.refl _, rfl, rfl, rfl⟩
  · exact Option.some.inj h ▸ .inl ⟨fades_deleteWhere _ _, rfl⟩
  · split at h
    · cases h
    · exact Option.some.inj h ▸ .inl ⟨fades_resolveWhere _ _ _, rfl⟩
  · exact Option.some.inj h ▸ .inl ⟨fades_readWhere _ _ _, rfl⟩

/-- **A statement lets the table fade, and inserts at most one row, with the next id.** -/
theorem alertStep_grows {op : AlertOp} (h : alertStep s op = some t) : Grows s t := by
  cases op with
  | add tenantId opts =>
      rw [← Option.some.inj h, startAdd]
      split
      · exact .of_eq rfl rfl
      · dsimp only
        split <;> exact .of_eq rfl rfl
  | resolveMutedMetricAlerts ids =>
      simp only [alertStep] at h
      split at h <;> exact Option.some.inj h ▸ .of_eq rfl rfl
  | run i now => exact runCall_grows h
  | raiseRead inc =>
      simp only [alertStep, raiseRead] at h
      split at h
      · cases h
      · split at h
        · cases h
        · exact Option.some.inj h ▸ .of_eq rfl rfl
  | raiseCommit inc now => exact raiseCommit_grows h
  | markRead id tenantId now => exact Option.some.inj h ▸ .inl ⟨fades_readWhere _ _ _, rfl⟩
  | markAllRead tenantId now => exact Option.some.inj h ▸ .inl ⟨fades_readWhere _ _ _, rfl⟩
  | deleteAlert id => exact Option.some.inj h ▸ .inl ⟨fades_deleteWhere _ _, rfl⟩
  | clearAll tenantId => exact Option.some.inj h ▸ .inl ⟨fades_deleteWhere _ _, rfl⟩
  | cleanup before => exact Option.some.inj h ▸ .inl ⟨fades_deleteWhere _ _, rfl⟩
  | createDevice id tenantId status =>
      simp only [alertStep] at h
      split at h
      · cases h
      · exact Option.some.inj h ▸ .of_eq rfl rfl
  | resolveIncidents kind ids | resolveDeviceIncidents ids | raiseAbort inc | dropCall i
  | writeStatus id status | moveDevice id tenantId | deleteDevice id =>
      exact Option.some.inj h ▸ .of_eq rfl rfl

end Obliance.Alerts
