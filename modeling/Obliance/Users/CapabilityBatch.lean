import Obliance.Db.Int4
import Obliance.Users.DeviceAccess

/-!
# The capability check of a list of devices, chunk by chunk (`services/permission.service.ts`)

The check of one device asks for its own grants first, then for those of its group. The check of a list reads
both for 5000 devices at a time, into one set that all chunks share.

* `canUseCapability`, `devicesLackingCapability` : the checks; `none` is a query that throws, as any does with an
  id out of the range of its column;
* `checkChunk_spec` : a chunk adds its devices that may be used, and no others;
* `devicesLackingCapability_eq` : the check of a list is the check of each of its ids.
-/

namespace Obliance.Users.Batch
open KeyedTable Obliance.Groups Obliance.Js Obliance.Db

variable (s : RbacState) (userId : ℤ) (capability : String)

def canUseCapability (deviceId : ℕ) (isAdmin : Bool) : Option Bool :=
  if isAdmin then some true
  else if int4Max < deviceId then none
  else some (Users.canUseCapability s.toTeamRights s.devices userId deviceId false capability)

/-- `.map(Number).filter((n) => Number.isInteger(n) && n > 0)` -/
def positiveIds (deviceIds : List JsVal) : List ℕ :=
  deviceIds.filterMap fun v => v.toNumber.bind fun q => if q.den = 1 ∧ 0 < q.num then some q.num.toNat else none

/-- The groups with the capabilities that are granted on them, or above them. -/
def groupRows (groupIds : List ℕ) : List (ℕ × List String) :=
  (permissionsOf s.toTeamRights userId).flatMap fun p =>
    if p.scope = .group then
      (s.closure.filter fun c => decide (c.ancestorId = p.scopeId ∧ c.descendantId ∈ groupIds)).map fun c =>
        (c.descendantId, p.capabilities)
    else []

/-- The groups of the chunk on which the capability is granted. -/
def grantedGroups (groupIds : List ℕ) : List ℕ :=
  if groupIds.isEmpty then []
  else JsSet.addAll [] (groupRows s userId groupIds) (fun row => row.2.contains capability) Prod.fst

/-- The body of the loop, on the set of what is granted so far. -/
def checkChunk (granted chunk : List ℕ) : Option (List ℕ) :=
  if chunk.any fun id => decide (int4Max < id) then none
  else
    let devices := s.devices.filter fun d => decide (d.id ∈ chunk)
    let direct := (permissionsOf s.toTeamRights userId).filter fun p =>
      decide (p.scope = .device ∧ p.scopeId ∈ chunk)
    let granted := JsSet.addAll granted direct (fun p => p.capabilities.contains capability) TeamPermission.scopeId
    let groupIds := JsSet.ofList (devices.filterMap RightsDevice.groupId)
    let granted := JsSet.addAll granted devices
      (fun d => d.groupId.any fun g => decide (g ∈ grantedGroups s userId capability groupIds)) RightsDevice.id
    let existing := JsSet.ofList (devices.map RightsDevice.id)
    -- a device granted directly but deleted since is still lacking
    some (JsSet.deleteAll granted chunk (fun id => !decide (id ∈ existing)) id)

def devicesLackingCapability (deviceIds : List JsVal) : Option (List ℕ) :=
  let ids := JsSet.ofList (positiveIds deviceIds)
  if ids.isEmpty then some []
  else ((ids.toChunks rightsChunk).foldlM (checkChunk s userId capability) []).map fun granted =>
    ids.filter fun id => !decide (id ∈ granted)

section
variable {s userId capability}

/-! ## One device -/

/-- The device exists, and the capability is granted on it, on its group or above that. -/
def Granted (s : RbacState) (userId : ℤ) (capability : String) (id : ℕ) : Prop :=
  ∃ d ∈ s.devices, d.id = id ∧
    ((∃ p ∈ permissionsOf s.toTeamRights userId, (p.scope = .device ∧ p.scopeId = id) ∧
      p.capabilities.contains capability = true) ∨
    ∃ groupId ∈ d.groupId, ∃ p ∈ permissionsOf s.toTeamRights userId,
      coversGroup s.toTeamRights p groupId = true ∧ p.capabilities.contains capability = true)

theorem canUse_iff {id : ℕ} :
    Users.canUseCapability s.toTeamRights s.devices userId id false capability = true ↔
      Granted s userId capability id := by
  rw [Users.canUseCapability, Bool.false_or, Option.any_eq_true]
  refine exists_congr fun d => ?_
  rw [get_eq_some_iff s.devices_keyed, and_assoc]
  refine and_congr_right fun hd => and_congr_right fun _ => ?_
  rw [Bool.or_eq_true]
  refine or_congr ?_ ?_
  · simp only [List.any_eq_true, Bool.and_eq_true, decide_eq_true_eq]
  · rw [Option.any_eq_true]
    refine exists_congr fun groupId => ?_
    have hpos : d.groupId = some groupId → groupId ≠ 0 := fun hgroup hzero =>
      s.groupIds_pos d hd (hzero ▸ hgroup)
    rw [truthy_eq_some, and_iff_left_of_imp hpos]
    simp only [List.any_eq_true, Bool.and_eq_true, Option.mem_def]

/-! ## One chunk -/

theorem mem_groupRows {groupIds : List ℕ} {groupId : ℕ} :
    (∃ row ∈ groupRows s userId groupIds, row.2.contains capability = true ∧ row.1 = groupId) ↔
      groupId ∈ groupIds ∧ ∃ p ∈ permissionsOf s.toTeamRights userId,
        coversGroup s.toTeamRights p groupId = true ∧ p.capabilities.contains capability = true := by
  constructor
  · rintro ⟨row, hrow, hcap, rfl⟩
    obtain ⟨p, hp, hmem⟩ := List.mem_flatMap.1 hrow
    split at hmem
    · rename_i hscope
      obtain ⟨c, hc, rfl⟩ := List.mem_map.1 hmem
      obtain ⟨hclosure, hjoin⟩ := List.mem_filter.1 hc
      obtain ⟨hancestor, hin⟩ := of_decide_eq_true hjoin
      refine ⟨hin, p, hp, ?_, hcap⟩
      rw [coversGroup, Bool.and_eq_true, List.any_eq_true]
      exact ⟨decide_eq_true hscope, c, hclosure, decide_eq_true ⟨hancestor, rfl⟩⟩
    · cases hmem
  · rintro ⟨hin, p, hp, hcovers, hcap⟩
    rw [coversGroup, Bool.and_eq_true, List.any_eq_true] at hcovers
    obtain ⟨hscope, c, hclosure, hjoin⟩ := hcovers
    obtain ⟨hancestor, rfl⟩ := of_decide_eq_true hjoin
    refine ⟨(c.descendantId, p.capabilities), List.mem_flatMap.2 ⟨p, hp, ?_⟩, hcap, rfl⟩
    rw [if_pos (of_decide_eq_true hscope)]
    exact List.mem_map.2 ⟨c, List.mem_filter.2 ⟨hclosure, decide_eq_true ⟨hancestor, hin⟩⟩, rfl⟩

theorem mem_grantedGroups {groupIds : List ℕ} {groupId : ℕ} :
    groupId ∈ grantedGroups s userId capability groupIds ↔
      groupId ∈ groupIds ∧ ∃ p ∈ permissionsOf s.toTeamRights userId,
        coversGroup s.toTeamRights p groupId = true ∧ p.capabilities.contains capability = true := by
  unfold grantedGroups
  split_ifs with hempty
  · rw [List.isEmpty_iff] at hempty
    subst hempty
    simp
  · rw [JsSet.mem_addAll, mem_groupRows, or_iff_right List.not_mem_nil]

/-- A chunk with ids in range adds those of its devices that may be used. -/
theorem checkChunk_spec {granted chunk : List ℕ} (hgranted : ∀ id ∈ granted, Granted s userId capability id)
    (hrange : ∀ id ∈ chunk, (id : ℤ) ≤ int4Max) :
    ∃ granted', checkChunk s userId capability granted chunk = some granted' ∧
      ∀ id, id ∈ granted' ↔ id ∈ granted ∨ id ∈ chunk ∧ Granted s userId capability id := by
  have hnone : (chunk.any fun id => decide (int4Max < id)) = false := by
    rw [List.any_eq_false]
    exact fun id hid => by simpa using hrange id hid
  unfold checkChunk
  rw [hnone, if_neg Bool.false_ne_true]
  dsimp only
  refine ⟨_, rfl, fun id => ?_⟩
  -- the devices of the chunk, their groups with the capability, and what the deletions leave
  have hdevice : ∀ {d : RightsDevice}, d ∈ s.devices.filter (fun d => decide (d.id ∈ chunk)) ↔
      d ∈ s.devices ∧ d.id ∈ chunk := by
    intro d
    rw [List.mem_filter, decide_eq_true_eq]
  have hgroup : ∀ {g : ℕ}, g ∈ JsSet.ofList ((s.devices.filter fun d => decide (d.id ∈ chunk)).filterMap
      RightsDevice.groupId) ↔ ∃ d, (d ∈ s.devices ∧ d.id ∈ chunk) ∧ d.groupId = some g := by
    intro g
    rw [JsSet.mem_ofList, List.mem_filterMap]
    exact exists_congr fun d => and_congr_left' hdevice
  have hexisting : ∀ {id : ℕ}, id ∈ JsSet.ofList ((s.devices.filter fun d => decide (d.id ∈ chunk)).map
      RightsDevice.id) ↔ ∃ d, (d ∈ s.devices ∧ d.id ∈ chunk) ∧ d.id = id := by
    intro id
    rw [JsSet.mem_ofList, List.mem_map]
    exact exists_congr fun d => and_congr_left' hdevice
  rw [JsSet.mem_deleteAll, JsSet.mem_addAll, JsSet.mem_addAll]
  constructor
  · rintro ⟨(hold | ⟨p, hp, hcap, rfl⟩) | ⟨d, hd, hany, rfl⟩, hkept⟩
    · exact .inl hold
    · obtain ⟨hp, hrow⟩ := List.mem_filter.1 hp
      obtain ⟨hscope, hin⟩ := of_decide_eq_true hrow
      by_cases hexists : p.scopeId ∈ JsSet.ofList ((s.devices.filter fun d => decide (d.id ∈ chunk)).map
          RightsDevice.id)
      · obtain ⟨d, ⟨hd, -⟩, hid⟩ := hexisting.1 hexists
        exact .inr ⟨hin, d, hd, hid, .inl ⟨p, hp, ⟨hscope, rfl⟩, hcap⟩⟩
      · exact absurd rfl (hkept p.scopeId hin (by rw [decide_eq_false hexists, Bool.not_false]))
    · obtain ⟨hmem, hin⟩ := hdevice.1 hd
      obtain ⟨g, hg, hgranted⟩ := (Option.any_eq_true _ _).1 hany
      exact .inr ⟨hin, d, hmem, rfl, .inr ⟨g, hg, (mem_grantedGroups.1 (of_decide_eq_true hgranted)).2⟩⟩
  · have hkept : Granted s userId capability id → ∀ id' ∈ chunk,
        (!decide (id' ∈ JsSet.ofList ((s.devices.filter fun d => decide (d.id ∈ chunk)).map RightsDevice.id))) = true →
          id' ≠ id := by
      rintro ⟨d, hd, rfl, -⟩ id' hin hnot rfl
      rw [decide_eq_true (hexisting.2 ⟨d, ⟨hd, hin⟩, rfl⟩)] at hnot
      cases hnot
    rintro (hold | ⟨hin, hgrant⟩)
    · exact ⟨.inl (.inl hold), hkept (hgranted id hold)⟩
    · refine ⟨?_, hkept hgrant⟩
      obtain ⟨d, hd, rfl, ⟨p, hp, ⟨hscope, hid⟩, hcap⟩ | ⟨g, hg, hcovered⟩⟩ := hgrant
      · refine .inl (.inr ⟨p, List.mem_filter.2 ⟨hp, decide_eq_true ⟨hscope, ?_⟩⟩, hcap, hid⟩)
        rwa [hid]
      · refine .inr ⟨d, hdevice.2 ⟨hd, hin⟩, (Option.any_eq_true _ _).2 ⟨g, hg, decide_eq_true ?_⟩, rfl⟩
        exact mem_grantedGroups.2 ⟨hgroup.2 ⟨d, ⟨hd, hin⟩, hg⟩, hcovered⟩

/-- What one chunk grants by itself. -/
theorem mem_grantedIn {chunk : List ℕ} {id : ℕ} (hin : id ∈ chunk) (h : Granted s userId capability id) :
    id ∈ grantedIn s.toTeamRights s.devices userId capability chunk := by
  obtain ⟨d, hd, rfl, hgrant⟩ := h
  have hmem : d ∈ s.devices.filter fun d => decide (d.id ∈ chunk) := List.mem_filter.2 ⟨hd, decide_eq_true hin⟩
  refine List.mem_filter.2 ⟨List.mem_append.2 ?_, decide_eq_true (List.mem_map_of_mem hmem)⟩
  rcases hgrant with ⟨p, hp, ⟨hscope, hid⟩, hcap⟩ | ⟨g, hg, p, hp, hcovers, hcap⟩
  · refine .inl (List.mem_map.2 ⟨p, List.mem_filter.2 ⟨hp, ?_⟩, hid⟩)
    rw [Bool.and_eq_true, decide_eq_true_eq]
    exact ⟨⟨hscope, hid ▸ hin⟩, hcap⟩
  · refine .inr (List.mem_map.2 ⟨d, List.mem_filter.2 ⟨hmem, ?_⟩, rfl⟩)
    rw [Option.any_eq_true]
    refine ⟨g, hg, decide_eq_true (List.mem_flatMap.2 ⟨p, hp, ?_⟩)⟩
    rw [coversGroup, Bool.and_eq_true, decide_eq_true_eq, List.any_eq_true] at hcovers
    obtain ⟨hscope, c, hclosure, hjoin⟩ := hcovers
    obtain ⟨hancestor, rfl⟩ := of_decide_eq_true hjoin
    rw [if_pos ⟨hscope, hcap⟩]
    refine List.mem_map.2 ⟨c, List.mem_filter.2 ⟨hclosure, decide_eq_true ⟨hancestor, ?_⟩⟩, rfl⟩
    exact List.mem_filterMap.2 ⟨d, hmem, hg⟩

theorem checkChunk_throws {granted chunk : List ℕ} {id : ℕ} (hid : id ∈ chunk) (hlarge : int4Max < id) :
    checkChunk s userId capability granted chunk = none :=
  if_pos (List.any_eq_true.2 ⟨id, hid, decide_eq_true hlarge⟩)

/-! ## All chunks -/

theorem checkChunks_spec {chunks : List (List ℕ)} (hrange : ∀ chunk ∈ chunks, ∀ id ∈ chunk, (id : ℤ) ≤ int4Max) :
    ∀ {granted : List ℕ}, (∀ id ∈ granted, Granted s userId capability id) →
      ∃ granted', chunks.foldlM (checkChunk s userId capability) granted = some granted' ∧
        ∀ id, id ∈ granted' ↔ id ∈ granted ∨ (∃ chunk ∈ chunks, id ∈ chunk) ∧ Granted s userId capability id := by
  induction chunks with
  | nil => exact fun {granted} _ => ⟨granted, rfl, fun id => by simp⟩
  | cons chunk chunks ih =>
      intro granted hgranted
      obtain ⟨mid, hmid, hmem⟩ := checkChunk_spec hgranted (hrange chunk (.head _))
      have hmidGranted : ∀ id ∈ mid, Granted s userId capability id := fun id hid =>
        ((hmem id).1 hid).elim (hgranted id) And.right
      obtain ⟨final, hfinal, hall⟩ := ih (fun c hc => hrange c (.tail _ hc)) hmidGranted
      refine ⟨final, ?_, fun id => ?_⟩
      · rw [List.foldlM_cons, hmid]
        exact hfinal
      · rw [hall, hmem, List.exists_mem_cons_iff, or_assoc, ← or_and_right]

theorem checkChunks_throws {chunks : List (List ℕ)} {id : ℕ} (hid : ∃ chunk ∈ chunks, id ∈ chunk)
    (hlarge : int4Max < id) :
    ∀ {granted : List ℕ}, chunks.foldlM (checkChunk s userId capability) granted = none := by
  induction chunks with
  | nil =>
      obtain ⟨chunk, hchunk, -⟩ := hid
      cases hchunk
  | cons chunk chunks ih =>
      intro granted
      rw [List.foldlM_cons]
      rcases List.exists_mem_cons_iff .. |>.1 hid with hhead | htail
      · rw [checkChunk_throws hhead hlarge]
        rfl
      · cases checkChunk s userId capability granted chunk with
        | none => rfl
        | some mid => exact ih htail

theorem flatten_toChunks_go {α : Type} (n : ℕ) (xs : List α) : ∀ (acc₁ : Array α) (acc₂ : Array (List α)),
    (List.toChunks.go n xs acc₁ acc₂).flatten = acc₂.toList.flatten ++ acc₁.toList ++ xs := by
  induction xs with
  | nil =>
      intro acc₁ acc₂
      simp [List.toChunks.go]
  | cons x xs ih =>
      intro acc₁ acc₂
      rw [List.toChunks.go]
      split <;> simp [ih]

/-- The chunks hold the elements of the list. -/
theorem mem_toChunks {α : Type} {n : ℕ} {xs : List α} {x : α} : (∃ chunk ∈ xs.toChunks n, x ∈ chunk) ↔ x ∈ xs := by
  have hflatten : (xs.toChunks n).flatten = xs := by
    unfold List.toChunks
    split
    · rfl
    · simp
    · simp [flatten_toChunks_go]
  rw [← List.mem_flatten, hflatten]

/-! ## The list one by one -/

/-- `new Set` keeps the first of each value. -/
theorem ofList_eq_eraseDups (ids : List ℕ) : JsSet.ofList ids = ids.eraseDups := by
  have hgeneral : ∀ seen : List ℕ, ids.foldl JsSet.add seen = seen ++ (ids.filter (· ∉ seen)).eraseDups := by
    induction ids with
    | nil => exact fun seen => (List.append_nil seen).symm
    | cons id ids ih =>
        intro seen
        rw [List.foldl_cons, ih, JsSet.add]
        split_ifs with hseen
        · rw [List.filter_cons_of_neg (by simpa using hseen)]
        · rw [List.filter_cons_of_pos (by simpa using hseen), List.eraseDups_cons, List.append_assoc,
            List.singleton_append, List.filter_filter]
          congr 3
          refine List.filter_congr fun x _ => ?_
          by_cases hx : x = id <;> simp [hx]
  have hfilter : ids.filter (· ∉ ([] : List ℕ)) = ids := List.filter_eq_self.2 fun id _ => by simp
  rw [JsSet.ofList, hgeneral, hfilter, List.nil_append]

end

/-- The check of each id in turn, keeping those that may not be used. -/
def lackingOneByOne : List ℕ → Option (List ℕ)
  | [] => some []
  | id :: ids => (canUseCapability s userId capability id false).bind fun allowed =>
      (lackingOneByOne ids).map fun lacking => if allowed then lacking else id :: lacking

section
variable {s userId capability} {ids : List ℕ}

theorem lackingOneByOne_eq (hrange : ∀ id ∈ ids, (id : ℤ) ≤ int4Max) :
    lackingOneByOne s userId capability ids = some (ids.filter fun id =>
      !Users.canUseCapability s.toTeamRights s.devices userId id false capability) := by
  induction ids with
  | nil => rfl
  | cons id ids ih =>
      rw [lackingOneByOne, ih fun id' hid => hrange id' (.tail _ hid), canUseCapability, if_neg Bool.false_ne_true,
        if_neg (not_lt.2 (hrange id (.head _))), Option.bind_some, Option.map_some, List.filter_cons]
      cases Users.canUseCapability s.toTeamRights s.devices userId id false capability <;> rfl

theorem lackingOneByOne_throws {id : ℕ} (hid : id ∈ ids) (hlarge : int4Max < id) :
    lackingOneByOne s userId capability ids = none := by
  induction ids with
  | nil => cases hid
  | cons id' ids ih =>
      rw [lackingOneByOne]
      rcases List.mem_cons.1 hid with rfl | hid
      · rw [canUseCapability, if_neg Bool.false_ne_true, if_pos hlarge]
        rfl
      · rw [ih hid]
        cases canUseCapability s userId capability id' false <;> rfl

end

/-- **The check of a list is the check of its positive integers one by one**, each at its first occurrence; it
throws when one of these throws. -/
theorem devicesLackingCapability_eq (deviceIds : List JsVal) :
    devicesLackingCapability s userId capability deviceIds =
      lackingOneByOne s userId capability (positiveIds deviceIds).eraseDups := by
  unfold devicesLackingCapability
  dsimp only
  rw [ofList_eq_eraseDups]
  generalize (positiveIds deviceIds).eraseDups = ids
  split_ifs with hempty
  · rw [List.isEmpty_iff] at hempty
    rw [hempty]
    rfl
  · by_cases hlarge : ∃ id ∈ ids, int4Max < (id : ℤ)
    · obtain ⟨id, hid, hlarge⟩ := hlarge
      rw [checkChunks_throws (mem_toChunks.2 hid) hlarge, lackingOneByOne_throws hid hlarge]
      rfl
    · have hrange : ∀ id ∈ ids, (id : ℤ) ≤ int4Max := fun id hid => not_lt.1 fun h => hlarge ⟨id, hid, h⟩
      have hnothing : ∀ id ∈ ([] : List ℕ), Granted s userId capability id := fun id hid => nomatch hid
      obtain ⟨granted, hgranted, hmem⟩ := checkChunks_spec
        (fun chunk hchunk id hid => hrange id (mem_toChunks.1 ⟨chunk, hchunk, hid⟩)) hnothing
      rw [hgranted, Option.map_some, lackingOneByOne_eq hrange]
      refine congrArg some (List.filter_congr fun id hid => congrArg Bool.not ?_)
      rw [Bool.eq_iff_iff, decide_eq_true_eq, hmem, canUse_iff, mem_toChunks, or_iff_right List.not_mem_nil,
        and_iff_right hid]

/-- The check that keeps what each chunk grants apart, on ids in range, is the check one by one too. -/
theorem lackingOneByOne_eq_chunksApart {ids : List ℕ} (hpos : ∀ id ∈ ids, 0 < id)
    (hrange : ∀ id ∈ ids, (id : ℤ) ≤ int4Max) :
    lackingOneByOne s userId capability ids.eraseDups =
      some (Users.devicesLackingCapability s.toTeamRights s.devices userId ids capability) := by
  have hfilter : ids.filter (0 < ·) = ids := List.filter_eq_self.2 fun id hid => decide_eq_true (hpos id hid)
  rw [← ofList_eq_eraseDups, Users.devicesLackingCapability, hfilter, lackingOneByOne_eq]
  · refine congrArg some (List.filter_congr fun id hid => congrArg Bool.not (Bool.eq_iff_iff.2 ?_))
    rw [decide_eq_true_eq, List.mem_flatMap]
    constructor
    · intro hcan
      obtain ⟨chunk, hchunk, hin⟩ := (mem_toChunks (n := rightsChunk)).2 hid
      exact ⟨chunk, hchunk, mem_grantedIn hin (canUse_iff.1 hcan)⟩
    · rintro ⟨chunk, -, hgranted⟩
      exact canUse_of_mem_grantedIn s.devices_keyed hgranted
  · intro id hid
    exact hrange id (JsSet.mem_ofList.1 hid)

theorem ungroupedTeam_groups_pos : ∀ c ∈ ungroupedTeam.closure, 0 < c.descendantId := ungroupedTeam.groups_pos

/-- Ids 20 and 22 exist; the grant is on the group above that of 20. Id 99 is unknown, and 20 comes twice. -/
def executeTeam : RbacState :=
  { ungroupedTeam with
    permissions := [⟨1, .group, 3, .ro, ["execute"]⟩], groups_pos := ungroupedTeam_groups_pos,
    ungrouped_zero := by decide }

theorem devicesLackingCapability_eq_mixed :
    devicesLackingCapability executeTeam 4 "execute"
        [.num 99, .num 20, .num 22, .null, .num 20, .num (-1), .num 99] = some [99, 22] ∧
      lackingOneByOne executeTeam 4 "execute" [99, 20, 22] = some [99, 22] := by
  have hbatch : devicesLackingCapability executeTeam 4 "execute"
      [.num 99, .num 20, .num 22, .null, .num 20, .num (-1), .num 99] = some [99, 22] := by decide
  exact ⟨hbatch, (devicesLackingCapability_eq executeTeam 4 "execute" _).symm.trans hbatch⟩

end Obliance.Users.Batch
