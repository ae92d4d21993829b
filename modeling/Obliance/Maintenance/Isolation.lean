import Mathlib.Data.Set.Basic
import Obliance.Lib.RowIsolation
import Obliance.Maintenance.Service

/-!
# Whose maintenance windows reach a device

None of the three queries selects by `tenant_id`.

* `effective_not_isolated` : another tenant's global window is always listed;
* `isInMaintenance_isolated_iff`, `batch_isolated_iff` : the two checks are independent of other
  tenants exactly for the devices that their own tenant's windows already put in maintenance;
* `maintenance_not_isolated` : the three together.
-/

namespace Obliance.Maintenance
open RowIsolation

def ofTenant (T : ℕ) (w : MaintenanceWindow) : Bool := decide (w.tenantId = T)

/-- A one-time global window of tenant `T`, active at `now`, under an id that nothing disables. -/
def globalWindowNow (db : MaintenanceDb) (now : ℤ) (T : ℕ) : MaintenanceWindow where
  id := freshNat (db.windows.map Window.id ++ db.disables.map DisableRow.windowId)
  tenantId := T
  name := "global"
  scopeType := .global
  scopeId := none
  scheduleType := .oneTime
  startsAt := now
  endsAt := now
  recurrenceRule := ⟨none, none, none, none⟩
  timezone := "UTC"
  notificationChannels := []
  lastDedupKey := none
  createdBy := none
  createdAt := now
  updatedAt := now

section Isolation
variable (host : Host) (now : ℤ) (db : MaintenanceDb) (T : ℕ)

theorem globalWindowNow_foreign : ofTenant T (globalWindowNow db now (T + 1)) = false := by
  simp [ofTenant, globalWindowNow]

/-- The window applies to every device, and it is active. -/
theorem globalWindowNow_applies (scopeId : ℕ) (groupId : Option ℕ) :
    (Applies db scopeId groupId (globalWindowNow db now T) &&
      isWindowActive host (globalWindowNow db now T) now) = true := by
  have hfree : (globalWindowNow db now T).id ∉
      getDisabledWindowIds db .device scopeId (ancestorsOf db groupId) := by
    intro hm
    obtain ⟨r, hr, he⟩ := List.mem_map.1 hm
    have hlt : r.windowId < (globalWindowNow db now T).id := lt_freshNat
      (List.mem_append_right _ (List.mem_map_of_mem (List.mem_of_mem_filter hr)))
    exact hlt.ne he
  have hscope : (globalWindowNow db now T).scopeType = .global := rfl
  rw [isWindowActive_now host _ now rfl le_rfl le_rfl, Bool.and_true, Applies]
  simp [hfree, hscope]

/-- Every listed window is a row, and every global row is listed. -/
theorem mem_effective (scopeType : MaintenanceScope) (scopeId : ℕ) (groupId : Option ℕ) :
    (∀ e ∈ getEffectiveWindows host now db scopeType scopeId groupId, e.window ∈ db.windows) ∧
      ∀ w ∈ db.windows, w.scopeType = .global →
        ∃ e ∈ getEffectiveWindows host now db scopeType scopeId groupId, e.window = w := by
  unfold getEffectiveWindows
  simp only [List.mem_append]
  constructor
  · rintro e ((he | he) | he)
    all_goals
      obtain ⟨w, hw, rfl⟩ := List.mem_map.1 he
      exact List.mem_of_mem_filter hw
  · intro w hw hs
    exact ⟨_, .inr (List.mem_map_of_mem (List.mem_filter.2 ⟨hw, decide_eq_true hs⟩)), rfl⟩

/-- **The list of effective windows is never isolated**: it lists every tenant's global windows. -/
theorem effective_not_isolated (scopeType : MaintenanceScope) (scopeId : ℕ) (groupId : Option ℕ) :
    ¬ Isolated (ofTenant T)
      (fun rows => getEffectiveWindows host now { db with windows := rows } scopeType scopeId groupId)
      db.windows := by
  refine not_isolated_of_insert _ (globalWindowNow_foreign now db T) fun he => ?_
  obtain ⟨e, hmem, hw⟩ := (mem_effective host now
    { db with windows := db.windows ++ [globalWindowNow db now (T + 1)] } scopeType scopeId groupId).2
    _ (List.mem_append_right _ (List.mem_singleton_self _)) rfl
  rw [he] at hmem
  have hold : globalWindowNow db now (T + 1) ∈ db.windows :=
    hw ▸ (mem_effective host now db scopeType scopeId groupId).1 e hmem
  have hlt : (globalWindowNow db now (T + 1)).id < (globalWindowNow db now (T + 1)).id :=
    lt_freshNat (List.mem_append_left _ (List.mem_map_of_mem hold))
  exact lt_irrefl _ hlt

/-- **A single check is isolated exactly when the tenant's own windows already answer yes.** -/
theorem isInMaintenance_isolated_iff (scopeId : ℕ) (groupId : Option ℕ) :
    Isolated (ofTenant T) (fun rows =>
        (isInMaintenance host now { db with windows := rows } (fun _ => none) scopeId groupId).1)
        db.windows ↔
      (isInMaintenance host now { db with windows := db.windows.filter (ofTenant T) } (fun _ => none)
        scopeId groupId).1 = true := by
  have hq : ∀ rows, (isInMaintenance host now { db with windows := rows } (fun _ => none)
      scopeId groupId).1 =
      rows.any fun w => Applies db scopeId groupId w && isWindowActive host w now :=
    fun rows => lookup_eq_any host now { db with windows := rows } scopeId groupId
  simp only [hq]
  exact isolated_any_iff _ (globalWindowNow_foreign now db T)
    (globalWindowNow_applies host now db (T + 1) scopeId groupId)

/-- **The check of a list is isolated exactly when the tenant's own windows put every device of the
list in maintenance.** -/
theorem batch_isolated_iff (devices : List DeviceScope) :
    Isolated (ofTenant T) (fun rows =>
        {id | id ∈ getInMaintenanceDeviceIds host now { db with windows := rows } devices}) db.windows ↔
      ∀ device ∈ devices, device.id ∈ getInMaintenanceDeviceIds host now
        { db with windows := db.windows.filter (ofTenant T) } devices := by
  have hmem : ∀ rows id, id ∈ getInMaintenanceDeviceIds host now { db with windows := rows } devices ↔
      ∃ device ∈ devices, device.id = id ∧ (rows.any fun w =>
        Applies db device.id device.groupId w && isWindowActive host w now) = true :=
    fun rows id => mem_getInMaintenanceDeviceIds host now { db with windows := rows } devices id
  constructor
  · intro h device hd
    have hown : Agree (ofTenant T) db.windows (db.windows.filter (ofTenant T)) := agree_filter _ _
    have h1 := h _ hown
    have h2 := h _ (hown.trans (agree_insert (globalWindowNow_foreign now db T) _))
    have hin : device.id ∈ getInMaintenanceDeviceIds host now
        { db with windows := db.windows.filter (ofTenant T) ++ [globalWindowNow db now (T + 1)] }
        devices := by
      refine (hmem _ _).2 ⟨device, hd, rfl, ?_⟩
      rw [List.any_append, List.any_cons, globalWindowNow_applies]
      simp
    exact (Set.ext_iff.1 (h2.trans h1.symm) device.id).1 hin
  · intro h
    -- every listed device is in the answer, whatever the other tenants' rows are
    have hall : ∀ rows, Agree (ofTenant T) db.windows rows → ∀ id,
        id ∈ getInMaintenanceDeviceIds host now { db with windows := rows } devices ↔
          ∃ device ∈ devices, device.id = id := by
      intro rows hag id
      constructor
      · intro hid
        obtain ⟨device, hd, he, -⟩ := (hmem rows id).1 hid
        exact ⟨device, hd, he⟩
      · rintro ⟨device, hd, rfl⟩
        obtain ⟨device', hd', he, hany⟩ := (hmem _ _).1 (h device hd)
        refine (hmem rows _).2 ⟨device', hd', he, ?_⟩
        obtain ⟨w, hw, hwq⟩ := List.any_eq_true.1 hany
        rw [hag] at hw
        exact List.any_eq_true.2 ⟨w, List.mem_of_mem_filter hw, hwq⟩
    intro rows hag
    ext id
    exact (hall rows hag id).trans (hall db.windows (Agree.refl _ _) id).symm

/-- **Maintenance answers are never independent of other tenants' windows**: the list of effective
windows never is, and the two checks are only where the tenant's own windows already apply. -/
theorem maintenance_not_isolated (scopeId : ℕ) (groupId : Option ℕ) (devices : List DeviceScope) :
    ¬ Isolated (ofTenant T) (fun rows =>
        getEffectiveWindows host now { db with windows := rows } .device scopeId groupId) db.windows ∧
      (Isolated (ofTenant T) (fun rows =>
          (isInMaintenance host now { db with windows := rows } (fun _ => none) scopeId groupId).1)
          db.windows ↔
        (isInMaintenance host now { db with windows := db.windows.filter (ofTenant T) } (fun _ => none)
          scopeId groupId).1 = true) ∧
      (Isolated (ofTenant T) (fun rows =>
          {id | id ∈ getInMaintenanceDeviceIds host now { db with windows := rows } devices})
          db.windows ↔
        ∀ device ∈ devices, device.id ∈ getInMaintenanceDeviceIds host now
          { db with windows := db.windows.filter (ofTenant T) } devices) :=
  ⟨effective_not_isolated host now db T .device scopeId groupId,
    isInMaintenance_isolated_iff host now db T scopeId groupId,
    batch_isolated_iff host now db T devices⟩

end Isolation

/-- A global window of tenant 2 puts device 1 of tenant 1 in maintenance. -/
theorem foreign_window_silences_device :
    ¬ ∀ (host : Host) (now : ℤ) (db : MaintenanceDb) (T scopeId : ℕ) (groupId : Option ℕ),
      Isolated (ofTenant T) (fun rows =>
        getEffectiveWindows host now { db with windows := rows } .device scopeId groupId) db.windows ∧
      Isolated (ofTenant T) (fun rows =>
        (isInMaintenance host now { db with windows := rows } (fun _ => none) scopeId groupId).1)
        db.windows ∧
      Isolated (ofTenant T) (fun rows => {id | id ∈
        getInMaintenanceDeviceIds host now { db with windows := rows } [⟨scopeId, groupId⟩]})
        db.windows := by
  intro h
  obtain ⟨-, hone, -⟩ := h ⟨fun _ _ => none, Js.exactDoubles⟩ 0 ⟨[], [], [], []⟩ 1 1 none
  have := hone [globalWindowNow ⟨[], [], [], []⟩ 0 2] (by unfold Agree; decide)
  revert this
  decide

end Obliance.Maintenance
