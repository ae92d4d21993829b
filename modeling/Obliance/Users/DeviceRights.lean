import Mathlib.Data.List.Basic
import Obliance.Groups.Tables
import Obliance.Lib.JsSet
import Obliance.Users.Tables

/-!
# What a user may do to a device (`services/permission.service.ts`)

A team grants levels and capabilities on devices, on groups with all below them, and on ungrouped devices.

* `getDevicePermission`, `canWriteDevice`, `canUseCapability` : the questions about one device;
* `devicesLackingCapability` : the question about many, answered in chunks;
* `canUse_of_not_mem_lacking` : a device that is not lacking passes the single question.
-/

namespace Obliance.Users
open KeyedTable Obliance.Groups

inductive PermissionLevel where
  | ro
  | rw
  deriving DecidableEq, Repr

inductive TeamScope where
  | group
  | device
  | ungrouped
  deriving DecidableEq, Repr

/-- A row of `team_permissions`. -/
structure TeamPermission where
  teamId : ℤ
  scope : TeamScope
  scopeId : ℕ
  level : PermissionLevel
  capabilities : List String
  deriving DecidableEq, Repr

/-- A row of `agent_api_keys`. -/
structure ApiKeyRow where
  id : ℕ
  defaultGroupId : Option ℕ
  deriving DecidableEq, Repr

/-- The columns of `devices` that say whose a device is. -/
structure RightsDevice where
  id : ℕ
  groupId : Option ℕ
  apiKeyId : Option ℕ
  deriving DecidableEq, Repr

/-- The tables of teams; ids of groups come from a sequence that starts at 1. -/
structure TeamRights where
  memberships : List TeamMembership
  permissions : List TeamPermission
  closure : List ClosureRow
  apiKeys : List ApiKeyRow
  groups_pos : ∀ c ∈ closure, 0 < c.descendantId

variable (s : TeamRights) (devices : List RightsDevice)

/-- `team_permissions JOIN team_memberships` -/
def permissionsOf (userId : ℤ) : List TeamPermission :=
  s.permissions.filter fun p => s.memberships.any fun m => decide (m.userId = userId ∧ m.teamId = p.teamId)

/-- `JOIN device_group_closure` on the ancestor. -/
def coversGroup (p : TeamPermission) (groupId : ℕ) : Bool :=
  decide (p.scope = .group) &&
    s.closure.any fun c => decide (c.ancestorId = p.scopeId ∧ c.descendantId = groupId)

/-! ## One device -/

def levelOf (rows : List TeamPermission) : Option PermissionLevel :=
  if rows.isEmpty then none else if rows.any fun p => decide (p.level = .rw) then some .rw else some .ro

def getHighestPermission (userId : ℤ) (scope : TeamScope) (scopeId : ℕ) : Option PermissionLevel :=
  levelOf ((permissionsOf s userId).filter fun p => decide (p.scope = scope ∧ p.scopeId = scopeId))

def getGroupPermissionViaClosure (userId : ℤ) (groupId : ℕ) : Option PermissionLevel :=
  levelOf ((permissionsOf s userId).filter fun p => coversGroup s p groupId)

def highest (a b : Option PermissionLevel) : Option PermissionLevel :=
  if a = some .rw ∨ b = some .rw then some .rw
  else if a = some .ro ∨ b = some .ro then some .ro
  else none

/-- An id as a condition sees it. -/
def truthy (id : Option ℕ) : Option ℕ := id.filter (· ≠ 0)

/-- What the groups grant: that of the device, else the default group of its API key, else the ungrouped scope. -/
def groupLevel (userId : ℤ) (device : RightsDevice) : Option PermissionLevel :=
  match truthy device.groupId with
  | some groupId => getGroupPermissionViaClosure s userId groupId
  | none =>
      let defaultGroup := ((truthy device.apiKeyId).bind (get ApiKeyRow.id s.apiKeys)).bind fun key =>
        truthy key.defaultGroupId
      (defaultGroup.bind (getGroupPermissionViaClosure s userId)).or (getHighestPermission s userId .ungrouped 0)

def getDevicePermission (userId : ℤ) (deviceId : ℕ) (isAdmin : Bool) : Option PermissionLevel :=
  if isAdmin then some .rw
  else (get RightsDevice.id devices deviceId).bind fun device =>
    highest (getHighestPermission s userId .device deviceId) (groupLevel s userId device)

def canWriteDevice (userId : ℤ) (deviceId : ℕ) (isAdmin : Bool) : Bool :=
  decide (getDevicePermission s devices userId deviceId isAdmin = some .rw)

def canUseCapability (userId : ℤ) (deviceId : ℕ) (isAdmin : Bool) (capability : String) : Bool :=
  isAdmin || (get RightsDevice.id devices deviceId).any fun device =>
    ((permissionsOf s userId).any fun p =>
      decide (p.scope = .device ∧ p.scopeId = deviceId) && p.capabilities.contains capability) ||
    (truthy device.groupId).any fun groupId =>
      (permissionsOf s userId).any fun p => coversGroup s p groupId && p.capabilities.contains capability

/-! ## Many devices -/

def rightsChunk : ℕ := 5000

/-- The groups of the chunk's devices on which, or above which, the capability is granted. -/
def grantedGroups (userId : ℤ) (groupIds : List ℕ) (capability : String) : List ℕ :=
  (permissionsOf s userId).flatMap fun p =>
    if p.scope = .group ∧ p.capabilities.contains capability then
      (s.closure.filter fun c => decide (c.ancestorId = p.scopeId ∧ c.descendantId ∈ groupIds)).map
        ClosureRow.descendantId
    else []

def grantedIn (userId : ℤ) (capability : String) (chunk : List ℕ) : List ℕ :=
  let devices := devices.filter fun d => decide (d.id ∈ chunk)
  let direct := ((permissionsOf s userId).filter fun p =>
    decide (p.scope = .device ∧ p.scopeId ∈ chunk) && p.capabilities.contains capability).map
      TeamPermission.scopeId
  let groups := grantedGroups s userId (devices.filterMap RightsDevice.groupId) capability
  let byGroup := (devices.filter fun d => d.groupId.any fun g => decide (g ∈ groups)).map RightsDevice.id
  (direct ++ byGroup).filter fun id => decide (id ∈ devices.map RightsDevice.id)

/-- The devices the user may not use the capability on, unknown ones included. -/
def devicesLackingCapability (userId : ℤ) (deviceIds : List ℕ) (capability : String) : List ℕ :=
  let ids := JsSet.ofList (deviceIds.filter (0 < ·))
  let granted := (ids.toChunks rightsChunk).flatMap (grantedIn s devices userId capability)
  ids.filter fun id => !decide (id ∈ granted)

section
variable {s devices} {userId : ℤ} {capability : String} {chunk : List ℕ} {id : ℕ}

theorem mem_grantedGroups {groupIds : List ℕ} {groupId : ℕ}
    (h : groupId ∈ grantedGroups s userId groupIds capability) :
    0 < groupId ∧ (permissionsOf s userId).any fun p =>
      coversGroup s p groupId && p.capabilities.contains capability := by
  obtain ⟨p, hp, hmem⟩ := List.mem_flatMap.1 h
  split at hmem
  · rename_i hgrant
    obtain ⟨c, hc, rfl⟩ := List.mem_map.1 hmem
    obtain ⟨hclosure, hrow⟩ := List.mem_filter.1 hc
    rw [decide_eq_true_eq] at hrow
    refine ⟨s.groups_pos c hclosure, List.any_eq_true.2 ⟨p, hp, ?_⟩⟩
    rw [coversGroup, hgrant.2, Bool.and_true, Bool.and_eq_true, List.any_eq_true]
    exact ⟨decide_eq_true hgrant.1, c, hclosure, decide_eq_true ⟨hrow.1, rfl⟩⟩
  · cases hmem

theorem canUse_of_mem_grantedIn (hkeyed : Keyed RightsDevice.id devices)
    (h : id ∈ grantedIn s devices userId capability chunk) :
    canUseCapability s devices userId id false capability = true := by
  obtain ⟨hgranted, hexists⟩ := List.mem_filter.1 h
  obtain ⟨device, hdevice, rfl⟩ := List.mem_map.1 (of_decide_eq_true hexists)
  have hget : get RightsDevice.id devices device.id = some device :=
    (get_eq_some_iff hkeyed).2 ⟨List.mem_of_mem_filter hdevice, rfl⟩
  rw [canUseCapability, hget, Bool.false_or, Option.any_some, Bool.or_eq_true]
  rcases List.mem_append.1 hgranted with hdirect | hgroup
  · left
    obtain ⟨p, hp, hid⟩ := List.mem_map.1 hdirect
    obtain ⟨hperm, hrow⟩ := List.mem_filter.1 hp
    rw [Bool.and_eq_true, decide_eq_true_eq] at hrow
    refine List.any_eq_true.2 ⟨p, hperm, ?_⟩
    rw [Bool.and_eq_true]
    exact ⟨decide_eq_true ⟨hrow.1.1, hid⟩, hrow.2⟩
  · right
    obtain ⟨d, hd, hid⟩ := List.mem_map.1 hgroup
    obtain ⟨hmem, hany⟩ := List.mem_filter.1 hd
    obtain rfl : d = device :=
      hkeyed.eq_of_key (List.mem_of_mem_filter hmem) (List.mem_of_mem_filter hdevice) hid
    cases hgroupId : d.groupId with
    | none =>
        rw [hgroupId] at hany
        cases hany
    | some groupId =>
        rw [hgroupId, Option.any_some, decide_eq_true_eq] at hany
        obtain ⟨hpos, hcovers⟩ := mem_grantedGroups hany
        have htruthy : truthy (some groupId) = some groupId := by simp [truthy, hpos.ne']
        rw [htruthy, Option.any_some]
        exact hcovers

/-- A device that is not lacking the capability may be used with it. -/
theorem canUse_of_not_mem_lacking (hkeyed : Keyed RightsDevice.id devices) {deviceIds : List ℕ} (hid : id ∈ deviceIds)
    (hpos : 0 < id) (h : id ∉ devicesLackingCapability s devices userId deviceIds capability) :
    canUseCapability s devices userId id false capability = true := by
  have hids : id ∈ JsSet.ofList (deviceIds.filter (0 < ·)) := by
    rw [JsSet.mem_ofList, List.mem_filter]
    exact ⟨hid, decide_eq_true hpos⟩
  have hgranted : id ∈ ((JsSet.ofList (deviceIds.filter (0 < ·))).toChunks rightsChunk).flatMap
      (grantedIn s devices userId capability) := by
    by_contra hnot
    exact h (List.mem_filter.2 ⟨hids, by simp [hnot]⟩)
  obtain ⟨chunk, -, hchunk⟩ := List.mem_flatMap.1 hgranted
  exact canUse_of_mem_grantedIn hkeyed hchunk

end

end Obliance.Users
