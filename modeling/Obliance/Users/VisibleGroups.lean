import Obliance.Groups.Move
import Obliance.Users.DeviceAccess

/-!
# The groups a user sees (`services/permission.service.ts`, `getVisibleGroupIds`)

The tree of groups a user navigates: what is below a granted group, the groups of granted devices, and all above
these.

* `RbacTree` : the tables of the rights over an exact closure table;
* `mem_getVisibleGroupIds` : which groups are seen;
* `visible_tree_whole` : the group of every visible device is seen, and all above a group that is seen.
-/

namespace Obliance.Users
open KeyedTable ParentForest Obliance.Groups

/-- The tables of teams, devices and API keys, with the groups whose closure they read. -/
structure RbacTree extends RbacState where
  groups : GroupDb
  sound : groups.Sound
  closure_eq : closure = groups.closure

variable (s : RbacTree) (userId : ℤ)

/-- `number[] | 'all'`, as for devices. The code leaves out the queries for an empty list of ids. -/
def getVisibleGroupIds (isAdmin : Bool) : VisibleDevices :=
  if isAdmin then .all
  else
    let teamIds := getUserTeamIds s.toRbacState userId
    if teamIds.isEmpty then .ids []
    else
      let permissions := s.permissions.filter fun p => decide (p.teamId ∈ teamIds)
      let permGroupIds := (permissions.filter fun p => decide (p.scope = .group)).map TeamPermission.scopeId
      let descendantIds := (s.closure.filter fun c => decide (c.ancestorId ∈ permGroupIds)).map
        ClosureRow.descendantId
      let deviceIds := (permissions.filter fun p => decide (p.scope = .device)).map TeamPermission.scopeId
      let deviceGroupIds := (s.devices.filter fun d => decide (d.id ∈ deviceIds)).filterMap RightsDevice.groupId
      let ancestorIds := (s.closure.filter fun c => decide (c.descendantId ∈ deviceGroupIds)).map
        ClosureRow.ancestorId
      let permAncestorIds := (s.closure.filter fun c => decide (c.descendantId ∈ permGroupIds)).map
        ClosureRow.ancestorId
      .ids (JsSet.ofList (descendantIds ++ deviceGroupIds ++ (ancestorIds ++ permAncestorIds)))

/-! ## Which groups are seen -/

/-- A grant on the group itself. -/
def GrantedHere (groupId : ℕ) : Prop :=
  ∃ p ∈ permissionsOf s.toTeamRights userId, p.scope = .group ∧ p.scopeId = groupId

/-- A device of the group is granted. -/
def HasGrantedDevice (groupId : ℕ) : Prop :=
  ∃ d ∈ s.devices, GrantedDevice s.toRbacState userId d.id ∧ d.groupId = some groupId

/-- The closure table leads from one group to the other. -/
def Above (ancestorId descendantId : ℕ) : Prop := ∃ k, s.groups.InClosure ancestorId descendantId k

variable {s userId}

theorem above_iff {a d : ℕ} (hd : s.groups.Mem d) : Above s a d ↔ Under s.groups.parent a d :=
  (s.sound.exact.under_iff hd).symm

theorem Above.mem {a d : ℕ} (h : Above s a d) : s.groups.Mem a ∧ s.groups.Mem d := by
  obtain ⟨k, hk⟩ := h
  exact ⟨s.sound.exact.mem_ancestor s.sound.schema hk, s.sound.exact.mem_descendant hk⟩

theorem mem_closure_map {p : ClosureRow → Bool} {f : ClosureRow → ℕ} {g : ℕ} :
    g ∈ (s.closure.filter p).map f ↔ ∃ a d k, s.groups.InClosure a d k ∧ p ⟨a, d, k⟩ = true ∧ f ⟨a, d, k⟩ = g := by
  rw [s.closure_eq]
  simp only [List.mem_map, List.mem_filter, and_assoc]
  exact ⟨fun ⟨⟨a, d, k⟩, h⟩ => ⟨a, d, k, h⟩, fun ⟨a, d, k, h⟩ => ⟨⟨a, d, k⟩, h⟩⟩

theorem exists_above {P : ℕ → Prop} {g : ℕ} :
    (∃ a d k, s.groups.InClosure a d k ∧ P d ∧ a = g) ↔ ∃ d, P d ∧ ∃ k, s.groups.InClosure g d k := by
  constructor
  · rintro ⟨_, d, k, hk, hd, rfl⟩
    exact ⟨d, hd, k, hk⟩
  · rintro ⟨d, hd, k, hk⟩
    exact ⟨g, d, k, hk, hd, rfl⟩

theorem mem_getVisibleGroupIds (s : RbacTree) (userId : ℤ) :
    ∃ ids, getVisibleGroupIds s userId false = .ids ids ∧ ∀ g, g ∈ ids ↔
      (∃ p, GrantedHere s userId p ∧ Above s p g) ∨ HasGrantedDevice s userId g ∨
        (∃ d, HasGrantedDevice s userId d ∧ Above s g d) ∨ ∃ p, GrantedHere s userId p ∧ Above s g p := by
  have hhere : ∀ p, p ∈ ((permissionsOf s.toTeamRights userId).filter fun p => decide (p.scope = .group)).map
      TeamPermission.scopeId ↔ GrantedHere s userId p := fun p => by
    simp only [List.mem_map, List.mem_filter, decide_eq_true_eq, and_assoc, GrantedHere]
  have hdevice : ∀ g, g ∈ (s.devices.filter fun d => decide (d.id ∈
      ((permissionsOf s.toTeamRights userId).filter fun p => decide (p.scope = .device)).map
        TeamPermission.scopeId)).filterMap RightsDevice.groupId ↔ HasGrantedDevice s userId g := fun g => by
    simp only [List.mem_filterMap, List.mem_filter, List.mem_map, decide_eq_true_eq, and_assoc, HasGrantedDevice,
      GrantedDevice]
  unfold getVisibleGroupIds
  rw [if_neg Bool.false_ne_true]
  dsimp only
  rw [filter_teamIds]
  by_cases hteams : getUserTeamIds s.toRbacState userId = []
  · refine ⟨[], by rw [hteams]; rfl, fun g => ?_⟩
    simp [GrantedHere, HasGrantedDevice, GrantedDevice, permissionsOf_eq_nil hteams]
  · rw [if_neg (by rwa [List.isEmpty_iff])]
    refine ⟨_, rfl, fun g => ?_⟩
    rw [JsSet.mem_ofList, List.mem_append, List.mem_append, List.mem_append, hdevice, mem_closure_map,
      mem_closure_map, mem_closure_map, or_assoc]
    simp only [decide_eq_true_eq, hhere, hdevice, Above]
    refine or_congr ?_ (or_congr_right (or_congr ?_ ?_))
    · constructor
      · rintro ⟨a, _, k, hk, ha, hg⟩
        exact ⟨a, ha, k, hg ▸ hk⟩
      · rintro ⟨a, ha, k, hk⟩
        exact ⟨a, g, k, hk, ha, rfl⟩
    · exact exists_above
    · exact exists_above

/-! ## The tree -/

theorem grantedGroup_iff {g : ℕ} :
    GrantedGroup s.toRbacState userId g ↔ ∃ p, GrantedHere s userId p ∧ Above s p g := by
  simp only [GrantedGroup, coversGroup, Bool.and_eq_true, decide_eq_true_eq, List.any_eq_true, GrantedHere, Above,
    GroupDb.InClosure, ← s.closure_eq]
  constructor
  · rintro ⟨p, hp, hscope, ⟨a, d, k⟩, hc, rfl, rfl⟩
    exact ⟨_, ⟨p, hp, hscope, rfl⟩, k, hc⟩
  · rintro ⟨_, ⟨p, hp, hscope, rfl⟩, k, hc⟩
    exact ⟨p, hp, hscope, _, hc, rfl, rfl⟩

/-- What is above a group that is seen is on the way down to it from a granted group, or above that one. -/
theorem seen_of_under {grps : List ℕ} (hmem : ∀ g, g ∈ grps ↔
      (∃ p, GrantedHere s userId p ∧ Above s p g) ∨ HasGrantedDevice s userId g ∨
        (∃ d, HasGrantedDevice s userId d ∧ Above s g d) ∨ ∃ p, GrantedHere s userId p ∧ Above s g p)
    {a g : ℕ} (hg : g ∈ grps) (ha : Under s.groups.parent a g) : a ∈ grps := by
  have habove : ∀ {d}, Above s g d → Above s a d := fun hgd =>
    (above_iff hgd.mem.2).2 (ha.trans ((above_iff hgd.mem.2).1 hgd))
  rcases (hmem g).1 hg with ⟨p, hp, hpg⟩ | hdevice | ⟨d, hd, hgd⟩ | ⟨p, hp, hgp⟩
  · have hag : Above s a g := (above_iff hpg.mem.2).2 ha
    rcases under_or_under ha ((above_iff hpg.mem.2).1 hpg) with hap | hpa
    · exact (hmem a).2 (.inr (.inr (.inr ⟨p, hp, (above_iff hpg.mem.1).2 hap⟩)))
    · exact (hmem a).2 (.inl ⟨p, hp, (above_iff hag.mem.1).2 hpa⟩)
  · by_cases hg : s.groups.Mem g
    · exact (hmem a).2 (.inr (.inr (.inl ⟨g, hdevice, (above_iff hg).2 ha⟩)))
    · -- an id without a group has no parent
      obtain ⟨k, hk⟩ := ha
      have hroot : s.groups.parent g = none := by
        rw [GroupDb.parent, Option.not_isSome_iff_eq_none.1 hg]
        rfl
      cases k with
      | zero => exact (hmem a).2 (.inr (.inl (Option.some.inj hk ▸ hdevice)))
      | succ k =>
          rw [up_succ_of_root hroot] at hk
          cases hk
  · exact (hmem a).2 (.inr (.inr (.inl ⟨d, hd, habove hgd⟩)))
  · exact (hmem a).2 (.inr (.inr (.inr ⟨p, hp, habove hgp⟩)))

/-- **The visible tree has no holes**: the group of every visible device is seen, and every group above a group
that is seen. -/
theorem visible_tree_whole (s : RbacTree) (userId : ℤ) :
    ∃ devs grps, getVisibleDeviceIds s.toRbacState userId false = .ids devs ∧
      getVisibleGroupIds s userId false = .ids grps ∧
      (∀ d ∈ s.devices, d.id ∈ devs → ∀ g ∈ d.groupId, g ∈ grps) ∧
      ∀ g ∈ grps, ∀ a, Under s.groups.parent a g → a ∈ grps := by
  obtain ⟨devs, hdevs, hread⟩ := mem_getVisibleDeviceIds s.toRbacState userId
  obtain ⟨grps, hgrps, hmem⟩ := mem_getVisibleGroupIds s userId
  refine ⟨devs, grps, hdevs, hgrps, fun d hd hvisible g hg => ?_, fun g hg a ha => seen_of_under hmem hg ha⟩
  rcases (hread d hd).1 hvisible with hgranted | ⟨g', hg', hgranted⟩ | ⟨hnone, -⟩
  · exact (hmem g).2 (.inr (.inl ⟨d, hd, hgranted, hg⟩))
  · obtain rfl : g' = g := Option.some.inj (hg'.symm.trans hg)
    exact (hmem g').2 (.inl (grantedGroup_iff.1 hgranted))
  · rw [hnone] at hg
    cases hg

/-- User 4 is in team 1, which has a grant on group 2, below group 1, and on device 20 of group 3. -/
def grantedTree : RbacTree where
  memberships := [⟨1, 4⟩]
  permissions := [⟨1, .group, 2, .ro, []⟩, ⟨1, .device, 20, .ro, []⟩]
  closure := twoTrees.closure
  apiKeys := []
  groups_pos := by decide
  devices := [⟨20, some 3, none⟩, ⟨21, some 2, none⟩]
  devices_keyed := by decide
  apiKeys_keyed := no_apiKeys_keyed
  apiKeys_pos := no_apiKeys_pos
  groupIds_pos := by decide
  ungrouped_zero := by decide
  groups := twoTrees
  sound := twoTrees_sound
  closure_eq := rfl

/-- Both devices are visible, and so are their groups with all above them. -/
theorem visible_tree_whole_granted :
    (∀ d ∈ grantedTree.devices, d.id ∈ [21, 20] → ∀ g ∈ d.groupId, g ∈ [2, 3, 1]) ∧
      ∀ g ∈ [2, 3, 1], ∀ a, Under grantedTree.groups.parent a g → a ∈ [2, 3, 1] := by
  obtain ⟨devs, grps, hdevs, hgrps, hwhole⟩ := visible_tree_whole grantedTree 4
  have hdevices : getVisibleDeviceIds grantedTree.toRbacState 4 false = .ids [21, 20] := by decide
  have hgroups : getVisibleGroupIds grantedTree 4 false = .ids [2, 3, 1] := by decide
  obtain rfl := VisibleDevices.ids.inj (hdevs.symm.trans hdevices)
  obtain rfl := VisibleDevices.ids.inj (hgrps.symm.trans hgroups)
  exact hwhole

end Obliance.Users
