import Mathlib.Data.List.Basic
import Mathlib.Data.List.Range
import Obliance.Groups.Move
import Obliance.Metrics.Layers

/-!
# The layers of a device (`services/threshold.service.ts`)

* `ancestorsOf` : the groups above a group, walked in the cached group tree;
* `getElem?_ancestorsOf` : they are the nearest ones that the closure table has;
* `buildLayers`, `resolveForDevice`, `resolveMany`, `resolveForGroup` : the layers and what they resolve to;
* `device_inherits` : values skip the groups above, switches come from the nearest;
* `previews_exact` : what the editors show as inherited is what is used when nothing is set.
-/

namespace Obliance.Metrics.Thresholds
open Obliance.Js Obliance.Groups KeyedTable ParentForest GuardedRun

/-! ## The group tree -/

structure GroupNode where
  id : ℕ
  parentId : Option ℕ
  tenantId : ℕ
  name : String
  thresholds : Option MetricThresholds

/-- `new Map()` with a node for each row. -/
def groupIndex (rows : List GroupNode) : JsMap ℕ GroupNode := rows.foldl (fun map r => map.set r.id r) []

def MAX_CHAIN : ℕ := 64

/-- The loop of `ancestorsOf` while the chain has room for `room` more. -/
def ancestorLoop (index : JsMap ℕ GroupNode) : ℕ → Option ℕ → List ℕ → List GroupNode
  | 0, _, _ => []
  | _ + 1, none, _ => []
  | room + 1, some parentId, seen =>
      if parentId ∈ seen then []
      else
        match index.get parentId with
        | none => []
        | some node => node :: ancestorLoop index room node.parentId (node.id :: seen)

/-- The ancestors of a group, root first, without the group itself. -/
def ancestorsOf (index : JsMap ℕ GroupNode) (groupId : ℕ) : List GroupNode :=
  (ancestorLoop index MAX_CHAIN ((index.get groupId).bind GroupNode.parentId) [groupId]).reverse

/-! ## The layers -/

structure TenantLayer where
  thresholds : Option MetricThresholds
  name : Option String

/-- What a group or a device gives for its layer. -/
structure OwnLayer where
  id : ℕ
  name : Option String
  thresholds : Option MetricThresholds

def globalLayer (thresholds : Option MetricThresholds) : CascadeLayer := ⟨⟨.global, none, none⟩, thresholds, true⟩

def tenantLayer (t : ℕ × TenantLayer) : CascadeLayer := ⟨⟨.tenant, some t.1, t.2.name⟩, t.2.thresholds, true⟩

def ancestorLayer (a : GroupNode) : CascadeLayer := ⟨⟨.group, some a.id, some a.name⟩, a.thresholds, false⟩

def groupLayer (g : OwnLayer) : CascadeLayer := ⟨⟨.group, some g.id, g.name⟩, g.thresholds, true⟩

def deviceLayer (d : OwnLayer) : CascadeLayer := ⟨⟨.device, some d.id, d.name⟩, d.thresholds, true⟩

def buildLayers (global : Option MetricThresholds) (tenant : Option (ℕ × TenantLayer)) (ancestors : List GroupNode)
    (group device : Option OwnLayer) : List CascadeLayer :=
  globalLayer global :: (tenant.map tenantLayer).toList ++ ancestors.map ancestorLayer ++
    ((group.map groupLayer).toList ++ (device.map deviceLayer).toList)

/-- A device joined with its group. -/
structure DeviceThresholdRow where
  id : ℕ
  tenantId : ℕ
  groupId : Option ℕ
  hostname : Option String
  displayName : Option String
  deviceOverride : Option MetricThresholds
  groupThresholds : Option MetricThresholds
  groupName : Option String

/-- What the cached accessors give. -/
structure Accessors where
  global : Option MetricThresholds
  tenant : ℕ → TenantLayer
  index : JsMap ℕ GroupNode

/-- `a || b || null` of two texts. -/
def firstText (a b : Option String) : Option String := (a.filter (· ≠ "")).or (b.filter (· ≠ ""))

variable (acc : Accessors)

/-- `group` and `device` of a row. -/
def DeviceThresholdRow.group (row : DeviceThresholdRow) : Option OwnLayer :=
  row.groupId.map fun id => ⟨id, row.groupName.or ((acc.index.get id).map GroupNode.name), row.groupThresholds⟩

def DeviceThresholdRow.device (row : DeviceThresholdRow) : OwnLayer :=
  ⟨row.id, firstText row.displayName row.hostname, row.deviceOverride⟩

def layersForDeviceRow (row : DeviceThresholdRow) (includeDevice : Bool) : List CascadeLayer :=
  buildLayers acc.global (some (row.tenantId, acc.tenant row.tenantId))
    ((row.groupId.map fun id => ancestorsOf acc.index id).getD []) (row.group acc)
    (if includeDevice then some row.device else none)

def resolveForDevice (row : Option DeviceThresholdRow) (includeDevice : Bool) : Cascade :=
  match row with
  | none => resolveCascade []
  | some row => resolveCascade (layersForDeviceRow acc row includeDevice)

def resolveMany (rows : List DeviceThresholdRow) : JsMap ℕ Cascade :=
  rows.foldl (fun out r => out.set r.id (resolveCascade (layersForDeviceRow acc r true))) []

def resolveGlobal : Cascade := resolveCascade (buildLayers acc.global none [] none none)

def resolveForTenant (tenantId : ℕ) : Cascade :=
  resolveCascade (buildLayers acc.global (some (tenantId, acc.tenant tenantId)) [] none none)

/-- A group as it is in the table now. -/
def resolveForGroup (row : Option GroupNode) (includeSelf : Bool) : Option Cascade :=
  row.map fun row => resolveCascade (buildLayers acc.global (some (row.tenantId, acc.tenant row.tenantId))
    (ancestorsOf acc.index row.id) (if includeSelf then some ⟨row.id, some row.name, row.thresholds⟩ else none) none)

/-! ## The walk is the closure table -/

section Walk
variable {index : JsMap ℕ GroupNode}

def parentIn (index : JsMap ℕ GroupNode) (d : ℕ) : Option ℕ := (index.get d).bind GroupNode.parentId

/-- The loop from the parent of `d` meets the groups above `d` one by one. -/
theorem getElem?_ancestorLoop (hkey : ∀ d node, index.get d = some node → node.id = d)
    (hacyclic : Acyclic (parentIn index)) (hclosed : ∀ d p, parentIn index d = some p → (index.get p).isSome)
    (room : ℕ) {d : ℕ} {seen : List ℕ} (hseen : ∀ x ∈ seen, ∃ k, up (parentIn index) k x = some d)
    (i : ℕ) :
    (ancestorLoop index room (parentIn index d) seen)[i]? =
      if i < room then (up (parentIn index) (i + 1) d).bind index.get else none := by
  induction room generalizing d seen i with
  | zero => rfl
  | succ room ih =>
      cases hp : parentIn index d with
      | none => rw [up_succ_of_root hp, Option.bind_none, ite_self]; rfl
      | some p =>
          obtain ⟨node, hnode⟩ := Option.isSome_iff_exists.1 (hclosed d p hp)
          have hnew : p ∉ seen := by
            intro hmem
            obtain ⟨k, hk⟩ := hseen p hmem
            refine hacyclic p k ?_
            rw [up_add_of hk, up_succ_of_parent hp, up_zero]
          have hparent : node.parentId = parentIn index p := by rw [parentIn, hnode, Option.bind_some]
          rw [ancestorLoop, if_neg hnew, hnode, up_succ_of_parent hp]
          dsimp only
          cases i with
          | zero => rw [if_pos (Nat.succ_pos room), up_zero, Option.bind_some, hnode]; rfl
          | succ i =>
              have hseen' : ∀ x ∈ node.id :: seen, ∃ k, up (parentIn index) k x = some p := by
                intro x hx
                rcases List.mem_cons.1 hx with rfl | hx
                · exact ⟨0, by rw [hkey p node hnode, up_zero]⟩
                · obtain ⟨k, hk⟩ := hseen x hx
                  exact ⟨k + 1, by rw [up_add_of hk, up_succ_of_parent hp, up_zero]⟩
              rw [List.getElem?_cons_succ, hparent, ih hseen']
              simp only [Nat.add_lt_add_iff_right]

/-! ## The groups that the closure table has above -/

/-- The rows are read from the table of groups, in any order. -/
def ReadFrom (db : GroupDb) (rows : List GroupNode) : Prop :=
  (rows.map fun n => (n.id, n.parentId)).Perm (db.groups.map fun g => (g.id, g.parentId))

variable {db : GroupDb} {rows : List GroupNode}

theorem ReadFrom.keyed (hrows : ReadFrom db rows) (h : db.Schema) : Keyed GroupNode.id rows := by
  have hids := hrows.map Prod.fst
  rw [List.map_map, List.map_map] at hids
  exact hids.nodup_iff.2 h.ids

theorem get_groupIndex (hkeyed : Keyed GroupNode.id rows) (d : ℕ) :
    (groupIndex rows).get d = get GroupNode.id rows d := by
  cases hget : get GroupNode.id rows d with
  | none => exact JsMap.get_foldl_set_of_notMem (get_eq_none_iff.1 hget) []
  | some node =>
      obtain ⟨hmem, rfl⟩ := (get_eq_some_iff hkeyed).1 hget
      exact JsMap.get_foldl_set_of_mem (v := id) hkeyed hmem []

theorem parent_get_iff {ρ : Type} {id : ρ → ℕ} {parent : ρ → Option ℕ} {t : List ρ} (hkeyed : Keyed id t) {d : ℕ}
    {p : Option ℕ} : (get id t d).map parent = some p ↔ (d, p) ∈ t.map fun r => (id r, parent r) := by
  rw [Option.map_eq_some_iff, List.mem_map]
  constructor
  · rintro ⟨r, hr, rfl⟩
    obtain ⟨hmem, rfl⟩ := (get_eq_some_iff hkeyed).1 hr
    exact ⟨r, hmem, rfl⟩
  · rintro ⟨r, hmem, heq⟩
    obtain ⟨rfl, rfl⟩ := Prod.ext_iff.1 heq
    exact ⟨r, (get_eq_some_iff hkeyed).2 ⟨hmem, rfl⟩, rfl⟩

/-- The tree of the index is that of the table. -/
theorem get_groupIndex_parent (hrows : ReadFrom db rows) (h : db.Schema) (d : ℕ) :
    ((groupIndex rows).get d).map GroupNode.parentId = (db.group d).map GroupRow.parentId := by
  rw [get_groupIndex (hrows.keyed h)]
  refine Option.ext fun p => ?_
  rw [parent_get_iff (hrows.keyed h), List.Perm.mem_iff hrows]
  exact (parent_get_iff h.ids).symm

theorem parentIn_groupIndex (hrows : ReadFrom db rows) (h : db.Schema) : parentIn (groupIndex rows) = db.parent := by
  funext d
  have hparent := congrArg Option.join (get_groupIndex_parent hrows h d)
  rwa [← Option.bind_id_eq_join, ← Option.bind_id_eq_join, Option.bind_map, Option.bind_map] at hparent

theorem isSome_groupIndex (hrows : ReadFrom db rows) (h : db.Schema) {d : ℕ} (hd : db.Mem d) :
    ((groupIndex rows).get d).isSome := by
  have hsome := congrArg Option.isSome (get_groupIndex_parent hrows h d)
  rw [Option.isSome_map, Option.isSome_map] at hsome
  rw [hsome]
  exact hd

/-- **The walk is the closure table**: the `i`-th group it meets is the one `i + 1` levels above, up to 64 of them. -/
theorem getElem?_ancestorsOf (h : db.Sound) (hrows : ReadFrom db rows) {g : ℕ} (hg : db.Mem g) (i : ℕ)
    (node : GroupNode) :
    (ancestorsOf (groupIndex rows) g).reverse[i]? = some node ↔
      i < MAX_CHAIN ∧ node ∈ rows ∧ db.InClosure node.id g (i + 1) := by
  have hkeyed := hrows.keyed h.schema
  have hparent := parentIn_groupIndex hrows h.schema
  have hkey : ∀ d node, (groupIndex rows).get d = some node → node.id = d := fun d node hget =>
    ((get_eq_some_iff hkeyed).1 ((get_groupIndex hkeyed d).symm.trans hget)).2
  rw [ancestorsOf, List.reverse_reverse, ← parentIn,
    getElem?_ancestorLoop hkey (hparent ▸ h.acyclic)
      (fun d p hp => isSome_groupIndex hrows h.schema (h.schema.closed.parent_mem (hparent ▸ hp)))
      MAX_CHAIN (fun x hx => ⟨0, by rw [List.mem_singleton.1 hx, up_zero]⟩) i, hparent]
  split_ifs with hi
  · rw [and_iff_right hi, h.exact, and_iff_right hg, Option.bind_eq_some_iff]
    constructor
    · rintro ⟨a, ha, hget⟩
      obtain ⟨hmem, rfl⟩ := (get_eq_some_iff hkeyed).1 ((get_groupIndex hkeyed a).symm.trans hget)
      exact ⟨hmem, ha⟩
    · rintro ⟨hmem, ha⟩
      exact ⟨node.id, ha, (get_groupIndex hkeyed _).trans ((get_eq_some_iff hkeyed).2 ⟨hmem, rfl⟩)⟩
  · simp [hi]

end Walk

/-! ## What a device inherits -/

/-- The layers whose values count for a device: the install's, its tenant's, its group's and its own. -/
def ownLayers (row : DeviceThresholdRow) (includeDevice : Bool) : List CascadeLayer :=
  buildLayers acc.global (some (row.tenantId, acc.tenant row.tenantId)) [] (row.group acc)
    (if includeDevice then some row.device else none)

/-- The groups above the group of a device, nearest first. -/
def GroupsAbove (db : GroupDb) (rows : List GroupNode) (row : DeviceThresholdRow) (above : List GroupNode) : Prop :=
  ∀ i node, above[i]? = some node ↔
    ∃ g, row.groupId = some g ∧ i < MAX_CHAIN ∧ node ∈ rows ∧ db.InClosure node.id g (i + 1)

/-- The layers of a device whose switches count, innermost first. -/
def switchLayers (row : DeviceThresholdRow) (includeDevice : Bool) (above : List GroupNode) : List CascadeLayer :=
  (if includeDevice then [deviceLayer row.device] else []) ++ (row.group acc).toList.map groupLayer ++
    above.map ancestorLayer ++ [tenantLayer (row.tenantId, acc.tenant row.tenantId), globalLayer acc.global]

/-- Values skip the groups above that of the device; switches come from the nearest that has one. A mount without a
switch is on where a layer has values for it, and has that of disks elsewhere. -/
structure Inherits (db : GroupDb) (rows : List GroupNode) (row : DeviceThresholdRow) (includeDevice : Bool)
    (c : Cascade) : Prop where
  value : ∀ metric slot, (c.metric metric).slot slot = genericSlot (ownLayers acc row includeDevice) metric slot
  mount : ∀ mount slot,
    (c.mount mount).slot slot = ((resolveCascade (ownLayers acc row includeDevice)).mount mount).slot slot
  switch : ∃ above, GroupsAbove db rows row above ∧
    (∀ metric, (c.metric metric).switch =
      ((switchLayers acc row includeDevice above).findSome? fun l => l.switch metric).getD (true, systemOrigin)) ∧
    ∀ mount, (c.mount mount).switch =
      (((switchLayers acc row includeDevice above).findSome? fun l => l.mountSwitch mount).or
        ((innermost (fun l => l.merges mount) (ownLayers acc row includeDevice)).map fun _ =>
          (true, systemOrigin))).getD c.disk.switch

section Inherited
variable {acc} {row : DeviceThresholdRow} {includeDevice : Bool}

theorem metric_resolveCascade (layers : List CascadeLayer) (metric : MetricKind) :
    (resolveCascade layers).metric metric = resolveSlot metric layers := by
  cases metric <;> rfl

theorem layersForDeviceRow_eq : layersForDeviceRow acc row includeDevice =
    [globalLayer acc.global, tenantLayer (row.tenantId, acc.tenant row.tenantId)] ++
      ((row.groupId.map fun id => ancestorsOf acc.index id).getD []).map ancestorLayer ++
        ((row.group acc).toList.map groupLayer ++ if includeDevice then [deviceLayer row.device] else []) := by
  unfold layersForDeviceRow buildLayers
  cases row.group acc <;> cases includeDevice <;> rfl

/-- What the groups above do not give comes from the layers of the device itself. -/
theorem innermost_ownLayers {α : Type} {f : CascadeLayer → Option α} (hf : ∀ a, f (ancestorLayer a) = none) :
    innermost f (layersForDeviceRow acc row includeDevice) = innermost f (ownLayers acc row includeDevice) := by
  rw [layersForDeviceRow_eq, innermost_skip]
  · unfold ownLayers buildLayers
    cases row.group acc <;> cases includeDevice <;> rfl
  · intro l hl
    obtain ⟨a, -, rfl⟩ := List.mem_map.1 hl
    exact hf a

theorem reverse_layersForDeviceRow : (layersForDeviceRow acc row includeDevice).reverse =
    switchLayers acc row includeDevice ((row.groupId.map fun id => ancestorsOf acc.index id).getD []).reverse := by
  rw [layersForDeviceRow_eq, switchLayers]
  cases row.group acc <;> cases includeDevice <;> simp

/-- **What a device inherits.** -/
theorem device_inherits {db : GroupDb} {rows : List GroupNode} (h : db.Sound) (hrows : ReadFrom db rows)
    (hindex : acc.index = groupIndex rows) (hgroup : ∀ g ∈ row.groupId, db.Mem g) :
    Inherits acc db rows row includeDevice (resolveForDevice acc (some row) includeDevice) where
  value metric slot := by
    rw [resolveForDevice, metric_resolveCascade, slot_resolveSlot, genericSlot, innermost_ownLayers (fun _ => rfl),
      genericSlot]
  mount mount slot := by
    rw [resolveForDevice, slot_mount, slot_mount, genericSlot, innermost_ownLayers (fun _ => rfl),
      innermost_ownLayers (fun _ => rfl), genericSlot]
  switch := by
    refine ⟨((row.groupId.map fun id => ancestorsOf acc.index id).getD []).reverse, fun i node => ?_,
      fun metric => ?_, fun mount => ?_⟩
    · cases hg : row.groupId with
      | none => simp
      | some g =>
          rw [Option.map_some, Option.getD_some, hindex, getElem?_ancestorsOf h hrows (hgroup g hg)]
          simp
    · rw [resolveForDevice, metric_resolveCascade, switch_resolveSlot, innermost, reverse_layersForDeviceRow]
    · rw [resolveForDevice, switch_mount, innermost, reverse_layersForDeviceRow, innermost_ownLayers (fun _ => rfl)]
      rfl

end Inherited

def mutedCpu : MetricThresholds := ⟨none, some ⟨some (some 50), none, some (some false), false⟩, none, [], .nil⟩

/-- Group 1 sets a value for processors and mutes them. -/
def twoTreesRows : List GroupNode :=
  [⟨1, none, 1, "A", some mutedCpu⟩, ⟨2, some 1, 1, "B", none⟩, ⟨3, none, 1, "C", none⟩]

def twoTreesAccessors : Accessors := ⟨none, fun _ => ⟨none, some "T"⟩, groupIndex twoTreesRows⟩

def deviceOfB : DeviceThresholdRow := ⟨7, 1, some 2, some "pc", none, none, none, some "B"⟩

/-- A device of group 2 is muted by group 1 and does not take the value. -/
theorem device_inherits_twoTrees :
    let c := resolveForDevice twoTreesAccessors (some deviceOfB) true
    Inherits twoTreesAccessors twoTrees twoTreesRows deviceOfB true c ∧
      c.cpu.switch = (false, ⟨.group, some 1, some "A"⟩) ∧ c.cpu.slot .warn = (80, systemOrigin) :=
  ⟨device_inherits twoTrees_sound (.refl _) rfl fun g hg => by
    obtain rfl := Option.some.inj hg
    unfold GroupDb.Mem
    decide, by decide, by decide⟩

/-! ## What the editors show -/

/-- What an editor shows as inherited is what is used when its own object is not there. -/
structure PreviewsExact : Prop where
  device : ∀ row, resolveForDevice acc (some row) false =
    resolveForDevice acc (some { row with deviceOverride := none }) true
  group : ∀ row, resolveForGroup acc (some row) false =
    resolveForGroup acc (some { row with thresholds := none }) true
  /-- What a group gives is what its devices inherit. -/
  member : ∀ (node : GroupNode) (row : DeviceThresholdRow), row.groupId = some node.id →
    row.tenantId = node.tenantId → row.groupThresholds = node.thresholds → row.groupName = some node.name →
      resolveForGroup acc (some node) true = some (resolveForDevice acc (some row) false)
  root : ∀ node, parentIn acc.index node.id = none →
    resolveForGroup acc (some node) false = some (resolveForTenant acc node.tenantId)
  ungrouped : ∀ row, row.groupId = none →
    resolveForDevice acc (some row) false = resolveForTenant acc row.tenantId
  tenant : ∀ tenantId, (acc.tenant tenantId).thresholds = none → resolveForTenant acc tenantId = resolveGlobal acc
  bulk : ∀ rows : List DeviceThresholdRow, (rows.map DeviceThresholdRow.id).Nodup → ∀ row ∈ rows,
    (resolveMany acc rows).get row.id = some (resolveForDevice acc (some row) true)

section Previews
variable {acc}

/-- The innermost layer without an object. -/
theorem resolveCascade_concat_unset (outer : List CascadeLayer) {l : CascadeLayer} (h : l.thresholds = none) :
    resolveCascade (outer ++ [l]) = resolveCascade outer := by
  rw [resolveCascade_unset outer [] h, List.append_nil]

theorem ancestorsOf_root {index : JsMap ℕ GroupNode} {g : ℕ} (h : parentIn index g = none) :
    ancestorsOf index g = [] := by
  rw [parentIn] at h
  rw [ancestorsOf, h]
  rfl

theorem previews_exact (acc : Accessors) : PreviewsExact acc where
  device row := by
    have hlayers : layersForDeviceRow acc { row with deviceOverride := none } true =
        layersForDeviceRow acc row false ++ [deviceLayer { row.device with thresholds := none }] := by
      simp [layersForDeviceRow, buildLayers, DeviceThresholdRow.group, DeviceThresholdRow.device]
    rw [resolveForDevice, resolveForDevice, hlayers, resolveCascade_concat_unset _ rfl]
  group row := by
    have hlayers : ∀ ancestors, buildLayers acc.global (some (row.tenantId, acc.tenant row.tenantId)) ancestors
        (some ⟨row.id, some row.name, none⟩) none =
          buildLayers acc.global (some (row.tenantId, acc.tenant row.tenantId)) ancestors none none ++
            [groupLayer ⟨row.id, some row.name, none⟩] := fun ancestors => by simp [buildLayers]
    simp only [resolveForGroup, Option.map_some, Bool.false_eq_true, if_false, if_true]
    rw [hlayers, resolveCascade_concat_unset _ rfl]
  member node row hid htenant hthresholds hname := by
    simp [resolveForGroup, resolveForDevice, layersForDeviceRow, DeviceThresholdRow.group, hid, htenant, hthresholds,
      hname]
  root node hroot := by
    simp [resolveForGroup, resolveForTenant, ancestorsOf_root hroot]
  ungrouped row hnone := by
    simp [resolveForDevice, layersForDeviceRow, resolveForTenant, DeviceThresholdRow.group, hnone]
  tenant tenantId hnone := by
    have hlayers : buildLayers acc.global (some (tenantId, acc.tenant tenantId)) [] none none =
        buildLayers acc.global none [] none none ++ [tenantLayer (tenantId, acc.tenant tenantId)] := rfl
    rw [resolveForTenant, resolveGlobal, hlayers, resolveCascade_concat_unset _ hnone]
  bulk rows hids row hrow :=
    JsMap.get_foldl_set_of_mem (v := fun r => resolveCascade (layersForDeviceRow acc r true)) hids hrow []

end Previews

end Obliance.Metrics.Thresholds
