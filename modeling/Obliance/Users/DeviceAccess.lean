import Mathlib.Data.Option.Basic
import Obliance.Users.DeviceRights

/-!
# Who may read which device (`services/permission.service.ts`)

One question in three forms: a user and a device, the devices of a user, the users of a device.

* `RbacState` : the tables all three read, with their keys;
* `MayRead` : what a user may read, by where the grants are;
* `getDevicePermission_iff`, `mem_getVisibleDeviceIds`, `mem_getUsersWithDeviceAccess` : what each form answers;
* `visible_iff_permission` : the devices of a user are the devices they have a permission on;
* `users_agree_iff` : the users of a device leave out what an API key claims and the ungrouped grants.
-/

namespace Obliance.Users
open KeyedTable Obliance.Groups

/-- The tables of teams, devices and API keys: ids are serial, references to groups are foreign keys, and an
ungrouped grant carries the scope id 0. -/
structure RbacState extends TeamRights where
  devices : List RightsDevice
  devices_keyed : Keyed RightsDevice.id devices
  apiKeys_keyed : Keyed ApiKeyRow.id apiKeys
  apiKeys_pos : ∀ k ∈ apiKeys, 0 < k.id
  groupIds_pos : ∀ d ∈ devices, d.groupId ≠ some 0
  ungrouped_zero : ∀ p ∈ permissions, p.scope = .ungrouped → p.scopeId = 0

/-! Tables without rows are in order. -/

theorem no_groups_pos : ∀ c ∈ ([] : List ClosureRow), 0 < c.descendantId := List.forall_mem_nil _

theorem no_apiKeys_keyed : Keyed ApiKeyRow.id [] := List.nodup_nil

theorem no_apiKeys_pos : ∀ k ∈ ([] : List ApiKeyRow), 0 < k.id := List.forall_mem_nil _

theorem no_permissions_zero : ∀ p ∈ ([] : List TeamPermission), p.scope = .ungrouped → p.scopeId = 0 :=
  List.forall_mem_nil _

variable (s : RbacState) (userId : ℤ)

def canReadDevice (deviceId : ℕ) (isAdmin : Bool) : Bool :=
  decide (getDevicePermission s.toTeamRights s.devices userId deviceId isAdmin ≠ none)

/-! ## The devices of a user -/

def getUserTeamIds : List ℤ := (s.memberships.filter fun m => decide (m.userId = userId)).map TeamMembership.teamId

/-- `number[] | 'all'` -/
inductive VisibleDevices where
  | all
  | ids (ids : List ℕ)
  deriving DecidableEq, Repr

/-- A join of the closure with the permissions finds a row. -/
def covered (permissions : List TeamPermission) (groupId : ℕ) : Bool :=
  permissions.any fun p => coversGroup s.toTeamRights p groupId

def getVisibleDeviceIds (isAdmin : Bool) : VisibleDevices :=
  if isAdmin then .all
  else
    let teamIds := getUserTeamIds s userId
    if teamIds.isEmpty then .ids []
    else
      let permissions := s.permissions.filter fun p => decide (p.teamId ∈ teamIds)
      let groupDevices := s.devices.filter fun d => d.groupId.any (covered s permissions)
      let directDevices := permissions.filter fun p => decide (p.scope = .device)
      let apiKeyClaimedDevices := s.devices.filter fun d => d.groupId.isNone && s.apiKeys.any fun key =>
        decide (d.apiKeyId = some key.id) && key.defaultGroupId.any (covered s permissions)
      let hasUngroupedScope := permissions.any fun p => decide (p.scope = .ungrouped)
      let ungroupedDevices := if hasUngroupedScope then s.devices.filter fun d => d.groupId.isNone else []
      .ids (JsSet.ofList (groupDevices.map RightsDevice.id ++ directDevices.map TeamPermission.scopeId ++
        apiKeyClaimedDevices.map RightsDevice.id ++ ungroupedDevices.map RightsDevice.id))

/-! ## The users of a device -/

/-- `team_memberships JOIN team_permissions`, for the selected permissions. -/
def membersWith (selects : TeamPermission → Bool) : List ℤ :=
  (s.memberships.filter fun m => s.permissions.any fun p => decide (p.teamId = m.teamId) && selects p).map
    TeamMembership.userId

def getUsersWithDeviceAccess (deviceId : ℕ) : List ℤ :=
  match get RightsDevice.id s.devices deviceId with
  | none => []
  | some device =>
      let directUsers := membersWith s fun p => decide (p.scope = .device ∧ p.scopeId = deviceId)
      let groupUsers := match truthy device.groupId with
        | some groupId => membersWith s fun p => coversGroup s.toTeamRights p groupId
        | none => []
      JsSet.ofList (directUsers ++ groupUsers)

/-! ## Grants -/

def GrantedDevice (deviceId : ℕ) : Prop :=
  ∃ p ∈ permissionsOf s.toTeamRights userId, p.scope = .device ∧ p.scopeId = deviceId

/-- On the group or on one above it. -/
def GrantedGroup (groupId : ℕ) : Prop :=
  ∃ p ∈ permissionsOf s.toTeamRights userId, coversGroup s.toTeamRights p groupId = true

def GrantedUngrouped : Prop := ∃ p ∈ permissionsOf s.toTeamRights userId, p.scope = .ungrouped

/-- On the group that the API key of the device puts its devices in. -/
def GrantedByClaim (d : RightsDevice) : Prop :=
  ∃ key ∈ s.apiKeys, d.apiKeyId = some key.id ∧ ∃ groupId ∈ key.defaultGroupId, GrantedGroup s userId groupId

/-- What a user may read: a device of their own grants, one of a granted group, and a device without a group that
is claimed or that the ungrouped scope is granted on. -/
def MayRead (d : RightsDevice) : Prop :=
  GrantedDevice s userId d.id ∨ (∃ groupId ∈ d.groupId, GrantedGroup s userId groupId) ∨
    d.groupId = none ∧ (GrantedByClaim s userId d ∨ GrantedUngrouped s userId)

section
variable {s userId}

theorem mem_permissionsOf {p : TeamPermission} : p ∈ permissionsOf s.toTeamRights userId ↔
    p ∈ s.permissions ∧ ∃ m ∈ s.memberships, m.userId = userId ∧ m.teamId = p.teamId := by
  simp only [permissionsOf, List.mem_filter, List.any_eq_true, decide_eq_true_eq]

/-- No closure row leads to a group 0, so no grant is on it. -/
theorem GrantedGroup.pos {groupId : ℕ} (h : GrantedGroup s userId groupId) : groupId ≠ 0 := by
  obtain ⟨p, -, hcovers⟩ := h
  obtain ⟨c, hc, hrow⟩ := List.any_eq_true.1 (Bool.and_eq_true _ _ ▸ hcovers).2
  rw [← (of_decide_eq_true hrow).2]
  exact (s.groups_pos c hc).ne'

theorem truthy_eq_some {id : Option ℕ} {n : ℕ} : truthy id = some n ↔ id = some n ∧ n ≠ 0 := by
  rw [truthy, Option.filter_eq_some_iff, decide_eq_true_eq]

/-! ## One user and one device -/

theorem levelOf_ne_none {rows : List TeamPermission} : levelOf rows ≠ none ↔ ∃ p, p ∈ rows := by
  cases rows with
  | nil => simp [levelOf]
  | cons p rows =>
      refine ⟨fun _ => ⟨p, .head _⟩, fun _ => ?_⟩
      rw [levelOf, if_neg (by simp)]
      split_ifs <;> exact Option.some_ne_none _

theorem highest_ne_none {a b : Option PermissionLevel} : highest a b ≠ none ↔ a ≠ none ∨ b ≠ none := by
  rcases a with _ | _ | _ <;> rcases b with _ | _ | _ <;> decide

theorem highestPermission_ne_none {scope : TeamScope} {scopeId : ℕ} :
    getHighestPermission s.toTeamRights userId scope scopeId ≠ none ↔
      ∃ p ∈ permissionsOf s.toTeamRights userId, p.scope = scope ∧ p.scopeId = scopeId := by
  rw [getHighestPermission, levelOf_ne_none]
  simp only [List.mem_filter, decide_eq_true_eq]

theorem viaClosure_ne_none {groupId : ℕ} :
    getGroupPermissionViaClosure s.toTeamRights userId groupId ≠ none ↔ GrantedGroup s userId groupId := by
  rw [getGroupPermissionViaClosure, levelOf_ne_none]
  simp only [List.mem_filter, GrantedGroup]

theorem ungrouped_ne_none :
    getHighestPermission s.toTeamRights userId .ungrouped 0 ≠ none ↔ GrantedUngrouped s userId := by
  rw [highestPermission_ne_none]
  refine exists_congr fun p => and_congr_right fun hp => and_iff_left_of_imp fun hscope => ?_
  exact s.ungrouped_zero p (mem_permissionsOf.1 hp).1 hscope

/-- The default group of the device's API key, as the point check looks it up. -/
theorem claimed_iff {d : RightsDevice} :
    ((((truthy d.apiKeyId).bind (get ApiKeyRow.id s.apiKeys)).bind fun key => truthy key.defaultGroupId).bind
      (getGroupPermissionViaClosure s.toTeamRights userId)) ≠ none ↔ GrantedByClaim s userId d := by
  rw [Option.ne_none_iff_exists']
  constructor
  · rintro ⟨level, hlevel⟩
    obtain ⟨groupId, hgroup, hlevel⟩ := Option.bind_eq_some_iff.1 hlevel
    obtain ⟨key, hkey, hdefault⟩ := Option.bind_eq_some_iff.1 hgroup
    obtain ⟨keyId, hkeyId, hget⟩ := Option.bind_eq_some_iff.1 hkey
    refine ⟨key, mem_of_get hget, ?_, groupId, (truthy_eq_some.1 hdefault).1, ?_⟩
    · rw [(truthy_eq_some.1 hkeyId).1, key_of_get hget]
    · exact viaClosure_ne_none.1 (hlevel ▸ Option.some_ne_none _)
  · rintro ⟨key, hkey, hapi, groupId, hdefault, hgranted⟩
    have hget : get ApiKeyRow.id s.apiKeys key.id = some key := (get_eq_some_iff s.apiKeys_keyed).2 ⟨hkey, rfl⟩
    rw [hapi, truthy_eq_some.2 ⟨rfl, (s.apiKeys_pos key hkey).ne'⟩, Option.bind_some, hget, Option.bind_some,
      truthy_eq_some.2 ⟨hdefault, hgranted.pos⟩, Option.bind_some]
    exact Option.ne_none_iff_exists'.1 (viaClosure_ne_none.2 hgranted)

theorem groupLevel_ne_none {d : RightsDevice} (hd : d ∈ s.devices) :
    groupLevel s.toTeamRights userId d ≠ none ↔ (∃ groupId ∈ d.groupId, GrantedGroup s userId groupId) ∨
      d.groupId = none ∧ (GrantedByClaim s userId d ∨ GrantedUngrouped s userId) := by
  cases hgroup : d.groupId with
  | none =>
      rw [groupLevel, hgroup]
      change Option.or _ _ ≠ none ↔ _
      rw [Ne, Option.or_eq_none_iff, not_and_or, ← Ne, ← Ne, claimed_iff, ungrouped_ne_none]
      simp
  | some groupId =>
      have hpos : groupId ≠ 0 := fun hzero => s.groupIds_pos d hd (hzero ▸ hgroup)
      have htruthy : truthy (some groupId) = some groupId := truthy_eq_some.2 ⟨rfl, hpos⟩
      rw [groupLevel, hgroup, htruthy]
      change getGroupPermissionViaClosure s.toTeamRights userId groupId ≠ none ↔ _
      rw [viaClosure_ne_none]
      simp

theorem getDevicePermission_iff {d : RightsDevice} (hd : d ∈ s.devices) :
    getDevicePermission s.toTeamRights s.devices userId d.id false ≠ none ↔ MayRead s userId d := by
  have hget : get RightsDevice.id s.devices d.id = some d := (get_eq_some_iff s.devices_keyed).2 ⟨hd, rfl⟩
  rw [getDevicePermission, if_neg Bool.false_ne_true, hget, Option.bind_some, highest_ne_none,
    highestPermission_ne_none, groupLevel_ne_none hd]
  rfl

/-! ## The devices of a user -/

/-- The permissions of the user's teams, asked for by the teams' ids. -/
theorem filter_teamIds :
    (s.permissions.filter fun p => decide (p.teamId ∈ getUserTeamIds s userId)) =
      permissionsOf s.toTeamRights userId := by
  refine List.filter_congr fun p _ => Bool.eq_iff_iff.2 ?_
  simp only [decide_eq_true_eq, getUserTeamIds, List.mem_map, List.mem_filter, List.any_eq_true, and_assoc]

theorem permissionsOf_eq_nil (h : getUserTeamIds s userId = []) : permissionsOf s.toTeamRights userId = [] := by
  rw [← filter_teamIds, h]
  simp

theorem covered_iff {groupId : ℕ} :
    covered s (permissionsOf s.toTeamRights userId) groupId = true ↔ GrantedGroup s userId groupId := by
  rw [covered, List.any_eq_true]
  rfl

theorem mem_getVisibleDeviceIds (s : RbacState) (userId : ℤ) :
    ∃ ids, getVisibleDeviceIds s userId false = .ids ids ∧ ∀ d ∈ s.devices, (d.id ∈ ids ↔ MayRead s userId d) := by
  unfold getVisibleDeviceIds
  rw [if_neg Bool.false_ne_true]
  dsimp only
  rw [filter_teamIds]
  by_cases hteams : getUserTeamIds s userId = []
  · refine ⟨[], by rw [hteams]; rfl, fun d _ => ?_⟩
    simp [MayRead, GrantedDevice, GrantedGroup, GrantedByClaim, GrantedUngrouped, permissionsOf_eq_nil hteams]
  · rw [if_neg (by rwa [List.isEmpty_iff])]
    refine ⟨_, rfl, fun d hd => ?_⟩
    -- a row of a selection of devices with this id is the device's
    have hrow : ∀ p : RightsDevice → Bool, d.id ∈ (s.devices.filter p).map RightsDevice.id ↔ p d = true := by
      intro p
      rw [List.mem_map]
      constructor
      · rintro ⟨d', hd', hid⟩
        obtain ⟨hmem, hp⟩ := List.mem_filter.1 hd'
        rwa [s.devices_keyed.eq_of_key hmem hd hid] at hp
      · exact fun hp => ⟨d, List.mem_filter.2 ⟨hd, hp⟩, rfl⟩
    have hdirect : d.id ∈ ((permissionsOf s.toTeamRights userId).filter fun p => decide (p.scope = .device)).map
        TeamPermission.scopeId ↔ GrantedDevice s userId d.id := by
      simp only [List.mem_map, List.mem_filter, decide_eq_true_eq, and_assoc, GrantedDevice]
    have hgroup : d.groupId.any (covered s (permissionsOf s.toTeamRights userId)) = true ↔
        ∃ groupId ∈ d.groupId, GrantedGroup s userId groupId := by
      rw [Option.any_eq_true]
      exact exists_congr fun groupId => and_congr_right fun _ => covered_iff
    have hclaim : (s.apiKeys.any fun key => decide (d.apiKeyId = some key.id) &&
        key.defaultGroupId.any (covered s (permissionsOf s.toTeamRights userId))) = true ↔
          GrantedByClaim s userId d := by
      rw [List.any_eq_true]
      refine exists_congr fun key => and_congr_right fun _ => ?_
      rw [Bool.and_eq_true, decide_eq_true_eq, Option.any_eq_true]
      exact and_congr_right fun _ => exists_congr fun groupId => and_congr_right fun _ => covered_iff
    have hungrouped : d.id ∈ (if (permissionsOf s.toTeamRights userId).any (fun p => decide (p.scope = .ungrouped))
        then s.devices.filter fun d => d.groupId.isNone else []).map RightsDevice.id ↔
          d.groupId = none ∧ GrantedUngrouped s userId := by
      split_ifs with hany
      · rw [hrow, Option.isNone_iff_eq_none]
        refine (and_iff_left ?_).symm
        simpa only [List.any_eq_true, decide_eq_true_eq, GrantedUngrouped] using hany
      · simp only [List.any_eq_true, decide_eq_true_eq] at hany
        exact ⟨fun h => absurd h List.not_mem_nil, fun h => absurd h.2 hany⟩
    rw [JsSet.mem_ofList, List.mem_append, List.mem_append, List.mem_append, hrow, hrow, hdirect, hungrouped, hgroup,
      Bool.and_eq_true, Option.isNone_iff_eq_none, hclaim, MayRead]
    rw [or_assoc, or_assoc, or_left_comm, and_or_left]

/-! ## The users of a device -/

theorem mem_membersWith {selects : TeamPermission → Bool} :
    userId ∈ membersWith s selects ↔ ∃ p ∈ permissionsOf s.toTeamRights userId, selects p = true := by
  simp only [membersWith, List.mem_map, List.mem_filter, List.any_eq_true, Bool.and_eq_true, decide_eq_true_eq,
    mem_permissionsOf]
  constructor
  · rintro ⟨m, ⟨hm, p, hp, hteam, hselects⟩, huser⟩
    exact ⟨p, ⟨hp, m, hm, huser, hteam.symm⟩, hselects⟩
  · rintro ⟨p, ⟨hp, m, hm, huser, hteam⟩, hselects⟩
    exact ⟨m, ⟨hm, p, hp, hteam.symm, hselects⟩, huser⟩

theorem mem_getUsersWithDeviceAccess {d : RightsDevice} (hd : d ∈ s.devices) :
    userId ∈ getUsersWithDeviceAccess s d.id ↔
      GrantedDevice s userId d.id ∨ ∃ groupId ∈ d.groupId, GrantedGroup s userId groupId := by
  have hget : get RightsDevice.id s.devices d.id = some d := (get_eq_some_iff s.devices_keyed).2 ⟨hd, rfl⟩
  rw [getUsersWithDeviceAccess, hget]
  dsimp only
  rw [JsSet.mem_ofList, List.mem_append, mem_membersWith]
  simp only [decide_eq_true_eq]
  refine or_congr_right ?_
  cases hgroup : d.groupId with
  | none => simp [truthy]
  | some groupId =>
      have hpos : groupId ≠ 0 := fun hzero => s.groupIds_pos d hd (hzero ▸ hgroup)
      rw [truthy_eq_some.2 ⟨rfl, hpos⟩]
      dsimp only
      rw [mem_membersWith]
      simp [GrantedGroup]

end

/-! ## Agreement -/

/-- **A device is listed for a user exactly when the user has a permission on it.** -/
theorem visible_iff_permission {d : RightsDevice} (hd : d ∈ s.devices) :
    ∃ ids, getVisibleDeviceIds s userId false = .ids ids ∧
      (d.id ∈ ids ↔ getDevicePermission s.toTeamRights s.devices userId d.id false ≠ none) := by
  obtain ⟨ids, hids, hmem⟩ := mem_getVisibleDeviceIds s userId
  exact ⟨ids, hids, (hmem d hd).trans (getDevicePermission_iff hd).symm⟩

/-- **The users of a device are those who may read it** exactly when the device has a group, or the user has a
grant on the device itself, or neither the claim of its API key nor the ungrouped scope gives the user a grant. -/
theorem users_agree_iff {d : RightsDevice} (hd : d ∈ s.devices) :
    (userId ∈ getUsersWithDeviceAccess s d.id ↔ canReadDevice s userId d.id false = true) ↔
      d.groupId ≠ none ∨ GrantedDevice s userId d.id ∨
        ¬ GrantedByClaim s userId d ∧ ¬ GrantedUngrouped s userId := by
  rw [mem_getUsersWithDeviceAccess hd, canReadDevice, decide_eq_true_eq, getDevicePermission_iff hd, MayRead]
  cases hgroup : d.groupId with
  | none =>
      simp only [Option.mem_def, reduceCtorEq, false_and, exists_false, or_false, false_or, true_and, ne_eq,
        not_true_eq_false]
      tauto
  | some groupId => simp

/-! ## A team with ungrouped devices -/

/-- User 4 is in team 1, which reads what is below group 3 and all ungrouped devices. -/
def ungroupedTeam : RbacState where
  memberships := [⟨1, 4⟩]
  permissions := [⟨1, .group, 3, .ro, []⟩, ⟨1, .ungrouped, 0, .ro, []⟩]
  closure := [⟨3, 3, 0⟩, ⟨5, 5, 0⟩, ⟨3, 5, 1⟩]
  apiKeys := [⟨9, some 5⟩]
  groups_pos := by decide
  devices := [⟨20, some 5, none⟩, ⟨21, none, some 9⟩, ⟨22, none, none⟩, ⟨23, some 8, none⟩]
  devices_keyed := by decide
  apiKeys_keyed := by decide
  apiKeys_pos := by decide
  groupIds_pos := by decide
  ungrouped_zero := by decide

example : getVisibleDeviceIds ungroupedTeam 4 false = .ids [20, 21, 22] := by decide

/-- The device that an API key claims is listed and readable. -/
theorem ungroupedTeam_visible : ∃ ids, getVisibleDeviceIds ungroupedTeam 4 false = .ids ids ∧
    (21 ∈ ids ↔ getDevicePermission ungroupedTeam.toTeamRights ungroupedTeam.devices 4 21 false ≠ none) :=
  visible_iff_permission ungroupedTeam 4 (d := ⟨21, none, some 9⟩) (by decide)

/-- User 4 may read device 22 and is not among its users. -/
theorem ungroupedTeam_missed : ¬ ∀ (s : RbacState) (userId : ℤ) (d : RightsDevice), d ∈ s.devices →
    (userId ∈ getUsersWithDeviceAccess s d.id ↔ canReadDevice s userId d.id false = true) := by
  intro h
  have hmissed := h ungroupedTeam 4 ⟨22, none, none⟩ (by decide)
  exact absurd hmissed (by decide)

/-- For a device with a group the two agree. -/
theorem ungroupedTeam_grouped :
    4 ∈ getUsersWithDeviceAccess ungroupedTeam 20 ↔ canReadDevice ungroupedTeam 4 20 false = true :=
  (users_agree_iff ungroupedTeam 4 (d := ⟨20, some 5, none⟩) (by decide)).2 (.inl (by decide))

end Obliance.Users
