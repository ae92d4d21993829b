import Mathlib.Data.List.Induction
import Obliance.Devices.Tables
import Obliance.Lib.JsSet
import Obliance.Lib.RowIsolation

/-!
# Which notification channels a device uses (`services/notification.service.ts`)

The bindings of the scopes above a device are applied in order: global, the groups from the root
down, the device itself.

* `applyBindings`, `cascade` : one scope, the scopes in order; the three resolvers are cascades;
* `cascade_isolated` : the result depends on the bindings of its own scopes only;
* `cascade_not_isolated` : it does depend on the bindings of other tenants, whatever the tables hold.
-/

namespace Obliance.Notify
open Obliance.Groups Obliance.Devices RowIsolation

inductive Scope where
  | global
  | group
  | monitor
  | device
  | agent
  deriving DecidableEq, Repr

inductive OverrideMode where
  | merge
  | replace
  | exclude
  deriving DecidableEq, Repr

/-- A row of `notification_bindings`. -/
structure BindingRow where
  id : ℕ
  tenantId : ℕ
  channelId : ℕ
  scope : Scope
  scopeId : Option ℕ
  overrideMode : OverrideMode
  deriving DecidableEq, Repr

structure NotifyDb where
  bindings : List BindingRow
  closure : List ClosureRow
  devices : List DeviceRow

/-- `WHERE scope = ? AND scope_id = ?` (`IS NULL` for a null id). -/
def getBindings (rows : List BindingRow) (scope : Scope) (scopeId : Option ℕ) : List BindingRow :=
  rows.filter fun r => decide (r.scope = scope) && decide (r.scopeId = scopeId)

/-- A 'replace' clears the set, then the bindings that do not exclude are added, then the excluded
channels are removed. -/
def applyBindings (channelIds : List ℕ) (bindings : List BindingRow) : List ℕ :=
  if bindings.isEmpty then channelIds
  else
    let start := if bindings.any fun b => b.overrideMode = .replace then [] else channelIds
    let added := JsSet.addAll start bindings (fun b => b.overrideMode ≠ .exclude) BindingRow.channelId
    JsSet.deleteAll added bindings (fun b => b.overrideMode = .exclude) BindingRow.channelId

/-- The loop over the groups from the root down. -/
def applyGroups (db : NotifyDb) (groupId : ℕ) (channelIds : List ℕ) : List ℕ :=
  (ancestorIds db.closure groupId).foldl
    (fun ids ancestorId => applyBindings ids (getBindings db.bindings .group (some ancestorId))) channelIds

def resolveChannelsForMonitor (db : NotifyDb) (monitorId : ℕ) (groupId : Option ℕ) : List ℕ :=
  let channelIds := applyBindings [] (getBindings db.bindings .global none)
  let channelIds := match groupId with
    | some g => applyGroups db g channelIds
    | none => channelIds
  applyBindings channelIds (getBindings db.bindings .monitor (some monitorId))

def resolveChannelsForGroup (db : NotifyDb) (groupId : ℕ) : List ℕ :=
  applyGroups db groupId (applyBindings [] (getBindings db.bindings .global none))

def resolveChannelsForAgent (db : NotifyDb) (deviceId : ℕ) : List ℕ :=
  let channelIds := applyBindings [] (getBindings db.bindings .global none)
  let channelIds := match truthyGroup db.devices deviceId with
    | some g => applyGroups db g channelIds
    | none => channelIds
  applyBindings channelIds (getBindings db.bindings .agent (some deviceId))

/-! ## The three resolvers are cascades -/

/-- The bindings of the scopes, applied in order. -/
def cascade (rows : List BindingRow) (scopes : List (Scope × Option ℕ)) : List ℕ :=
  scopes.foldl (fun ids s => applyBindings ids (getBindings rows s.1 s.2)) []

def groupScopes (closure : List ClosureRow) (groupId : Option ℕ) : List (Scope × Option ℕ) :=
  match groupId with
  | some g => (ancestorIds closure g).map fun a => (.group, some a)
  | none => []

theorem foldl_groupScopes (db : NotifyDb) (groupId : Option ℕ) (ids : List ℕ) :
    (groupScopes db.closure groupId).foldl (fun ids s => applyBindings ids (getBindings db.bindings s.1 s.2)) ids =
      match groupId with
      | some g => applyGroups db g ids
      | none => ids := by
  cases groupId with
  | none => rfl
  | some g => exact List.foldl_map

theorem resolveChannelsForMonitor_eq (db : NotifyDb) (monitorId : ℕ) (groupId : Option ℕ) :
    resolveChannelsForMonitor db monitorId groupId = cascade db.bindings
      ((.global, none) :: groupScopes db.closure groupId ++ [(.monitor, some monitorId)]) := by
  rw [cascade, List.cons_append, List.foldl_cons, List.foldl_append, foldl_groupScopes]
  rfl

theorem resolveChannelsForGroup_eq (db : NotifyDb) (groupId : ℕ) :
    resolveChannelsForGroup db groupId = cascade db.bindings
      ((.global, none) :: groupScopes db.closure (some groupId)) := by
  rw [cascade, List.foldl_cons, foldl_groupScopes]
  rfl

theorem resolveChannelsForAgent_eq (db : NotifyDb) (deviceId : ℕ) :
    resolveChannelsForAgent db deviceId = cascade db.bindings
      ((.global, none) :: groupScopes db.closure (truthyGroup db.devices deviceId) ++
        [(.agent, some deviceId)]) := by
  rw [cascade, List.cons_append, List.foldl_cons, List.foldl_append, foldl_groupScopes]
  rfl

/-! ## What the cascade depends on -/

/-- The row binds a channel at one of the scopes. -/
def inScopes (scopes : List (Scope × Option ℕ)) (r : BindingRow) : Bool :=
  decide ((r.scope, r.scopeId) ∈ scopes)

/-- **Bindings outside the scopes of a cascade do not change its result.** -/
theorem cascade_isolated (rows : List BindingRow) (scopes : List (Scope × Option ℕ)) :
    Isolated (inScopes scopes) (fun rows => cascade rows scopes) rows := by
  intro rows' h
  have hget : ∀ s ∈ scopes, getBindings rows' s.1 s.2 = getBindings rows s.1 s.2 := by
    intro s hs
    refine (h.of_imp fun r hr => ?_).symm
    simp only [Bool.and_eq_true, decide_eq_true_eq] at hr
    rw [inScopes, hr.1, hr.2]
    exact decide_eq_true hs
  exact List.foldl_ext _ _ [] fun ids s hs => by rw [hget s hs]

theorem mem_applyBindings {ids : List ℕ} {bindings : List BindingRow} {c : ℕ}
    (hc : c ∈ applyBindings ids bindings) : c ∈ ids ∨ ∃ b ∈ bindings, b.channelId = c := by
  unfold applyBindings at hc
  split at hc
  · exact .inl hc
  · have hadd := (JsSet.mem_deleteAll.1 hc).1
    rcases JsSet.mem_addAll.1 hadd with hs | ⟨b, hb, -, he⟩
    · split at hs
      · cases hs
      · exact .inl hs
    · exact .inr ⟨b, hb, he⟩

/-- Every channel of the result is bound by a row. -/
theorem mem_cascade {rows : List BindingRow} {scopes : List (Scope × Option ℕ)} {c : ℕ}
    (hc : c ∈ cascade rows scopes) : ∃ b ∈ rows, b.channelId = c := by
  induction scopes using List.reverseRecOn with
  | nil => cases hc
  | append_singleton scopes s ih =>
      rw [cascade, List.foldl_append] at hc
      rcases mem_applyBindings hc with hc | ⟨b, hb, he⟩
      · exact ih hc
      · exact ⟨b, List.mem_of_mem_filter hb, he⟩

/-- A merged channel that nothing excludes is in the result of its scope. -/
theorem mem_applyBindings_of_merge {ids : List ℕ} {bindings : List BindingRow} {b : BindingRow}
    (hb : b ∈ bindings) (hmode : b.overrideMode = .merge)
    (hfree : ∀ b' ∈ bindings, b'.channelId = b.channelId → b'.overrideMode ≠ .exclude) :
    b.channelId ∈ applyBindings ids bindings := by
  unfold applyBindings
  rw [if_neg (by simpa using List.ne_nil_of_mem hb)]
  refine JsSet.mem_deleteAll.2 ⟨JsSet.mem_addAll.2 (.inr ⟨b, hb, by simp [hmode], rfl⟩), ?_⟩
  intro b' hb' hex he
  exact hfree b' hb' he (by simpa using hex)

/-! ## Other tenants' bindings -/

def ofTenant (T : ℕ) (r : BindingRow) : Bool := decide (r.tenantId = T)

/-- A channel number that no row binds. -/
def freshChannel (rows : List BindingRow) : ℕ := freshNat (rows.map BindingRow.channelId)

theorem freshChannel_not_bound (rows : List BindingRow) : ∀ b ∈ rows, b.channelId ≠ freshChannel rows :=
  fun b hb => (lt_freshNat (List.mem_map.2 ⟨b, hb, rfl⟩)).ne

/-- **A cascade is never isolated from other tenants**: a foreign binding at its last scope adds a
channel. -/
theorem cascade_not_isolated (rows : List BindingRow) (T : ℕ) (scopes : List (Scope × Option ℕ))
    (s : Scope × Option ℕ) :
    ¬ Isolated (ofTenant T) (fun rows => cascade rows (scopes ++ [s])) rows := by
  let r : BindingRow := ⟨0, T + 1, freshChannel rows, s.1, s.2, .merge⟩
  refine not_isolated_of_insert r (by simp [ofTenant, r]) fun he => ?_
  have hin : r.channelId ∈ cascade (rows ++ [r]) (scopes ++ [s]) := by
    rw [cascade, List.foldl_append]
    refine mem_applyBindings_of_merge (b := r) ?_ rfl fun b' hb' hc => ?_
    · simp [getBindings, r]
    · rcases List.mem_append.1 (List.mem_of_mem_filter hb') with hb' | hb'
      · exact absurd hc (freshChannel_not_bound rows b' hb')
      · rw [List.mem_singleton.1 hb']
        simp [r]
  rw [he] at hin
  obtain ⟨b, hb, hc⟩ := mem_cascade hin
  exact freshChannel_not_bound rows b hb hc

/-- **No resolver is isolated from other tenants**, for any tables, tenant, device, monitor or
group. -/
theorem channels_not_isolated (db : NotifyDb) (T deviceId monitorId : ℕ) (groupId : Option ℕ) :
    ¬ Isolated (ofTenant T)
        (fun rows => resolveChannelsForAgent { db with bindings := rows } deviceId) db.bindings ∧
      ¬ Isolated (ofTenant T)
        (fun rows => resolveChannelsForMonitor { db with bindings := rows } monitorId groupId)
        db.bindings ∧
      ∀ g, ¬ Isolated (ofTenant T)
        (fun rows => resolveChannelsForGroup { db with bindings := rows } g) db.bindings := by
  refine ⟨?_, ?_, fun g => ?_⟩
  · simp only [resolveChannelsForAgent_eq]
    exact cascade_not_isolated db.bindings T (_ :: groupScopes db.closure _) _
  · simp only [resolveChannelsForMonitor_eq]
    exact cascade_not_isolated db.bindings T (_ :: groupScopes db.closure _) _
  · simp only [resolveChannelsForGroup_eq]
    -- the last scope is the group nearest to `g`, or the global one when `g` has no closure row
    rw [← List.dropLast_append_getLast (List.cons_ne_nil _ _)]
    exact cascade_not_isolated db.bindings T _ _

/-- A foreign tenant's global binding reaches a device of tenant 1. -/
theorem foreign_global_binding_reaches_device :
    ¬ ∀ (db : NotifyDb) (T : ℕ) (d : DeviceRow), d ∈ db.devices → d.tenantId = T →
      Isolated (ofTenant T)
        (fun rows => resolveChannelsForAgent { db with bindings := rows } d.id) db.bindings := by
  intro h
  have hiso := h ⟨[], [], [⟨1, 1, none⟩]⟩ 1 ⟨1, 1, none⟩ (by decide) rfl
    [⟨1, 2, 5, .global, none, .merge⟩] (by unfold Agree; decide)
  revert hiso
  decide

end Obliance.Notify
