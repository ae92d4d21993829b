import Mathlib.Data.List.Forall2
import Mathlib.Data.List.Induction
import Obliance.Js.Value
import Obliance.Metrics.Muting

/-!
# The cascade of threshold layers (`services/thresholdCascade.ts`)

Layers in order, the outermost first. A generic metric takes each slot from the innermost layer that sets it, a
mount takes the whole entry of the innermost layer that has one which is more than an alerts switch.

* `resolveSlot`, `resolveCascade` : a generic metric, all metrics with the mounts;
* `innermost` : what the innermost layer gives that gives anything;
* `slot_resolveSlot`, `slot_mount` : where the values of a metric and of a mount come from;
* `switch_resolveSlot`, `switch_mount` : where their alerts switches come from;
* `SameButNotify` : two layers that differ in alerts switches only;
* `values_agree_iff` : when such layers resolve to the same values.
-/

namespace Obliance.Metrics
open Obliance.Js

/-! ## Layers -/

inductive ThresholdLayer where
  | system
  | global
  | tenant
  | group
  | device
  deriving DecidableEq, Repr

structure ThresholdOrigin where
  layer : ThresholdLayer
  id : Option ℕ
  name : Option String
  deriving DecidableEq, Repr

/-- An object of a layer. A key may be missing; a value other than a number, or a boolean for `notify`, is
`some none`. -/
structure MetricThreshold where
  warn : Option (Option ℚ)
  crit : Option (Option ℚ)
  notify : Option (Option Bool)
  otherKeys : Bool
  deriving DecidableEq, Repr

/-- What is no object is `none`. -/
structure MetricThresholds where
  disk : Option MetricThreshold
  cpu : Option MetricThreshold
  ram : Option MetricThreshold
  diskByMount : List (String × Option MetricThreshold)
  mounts_nodup : (diskByMount.map Prod.fst).Nodup

structure CascadeLayer where
  origin : ThresholdOrigin
  thresholds : Option MetricThresholds
  /-- `false`: only the alerts switches are read. -/
  values : Bool

def CascadeLayer.metric (l : CascadeLayer) : MetricKind → Option MetricThreshold
  | .disk => l.thresholds.bind MetricThresholds.disk
  | .cpu => l.thresholds.bind MetricThresholds.cpu
  | .ram => l.thresholds.bind MetricThresholds.ram

def systemOrigin : ThresholdOrigin := ⟨.system, none, none⟩

structure SystemDefault where
  warn : ℚ
  crit : ℚ

def systemDefaultThresholds : MetricKind → SystemDefault
  | .disk => ⟨85, 95⟩
  | .cpu => ⟨80, 95⟩
  | .ram => ⟨80, 95⟩

/-! ## The cascade -/

structure SlotOrigins where
  warn : ThresholdOrigin
  crit : ThresholdOrigin
  notify : ThresholdOrigin
  deriving DecidableEq, Repr

/-- A resolved slot with where its parts come from. -/
structure CascadedThreshold extends ResolvedMetricThreshold where
  origin : SlotOrigins
  deriving DecidableEq, Repr

/-- The body of the loop of `resolveSlot`. -/
def slotStep (metric : MetricKind) (r : CascadedThreshold) (l : CascadeLayer) : CascadedThreshold :=
  match l.metric metric with
  | none => r
  | some t =>
      let r := if l.values then
        let r := match t.warn.join with
          | some warn => { r with warn := warn, origin := { r.origin with warn := l.origin } }
          | none => r
        match t.crit.join with
          | some crit => { r with crit := crit, origin := { r.origin with crit := l.origin } }
          | none => r
        else r
      match t.notify.join with
      | some notify => { r with notify := notify, origin := { r.origin with notify := l.origin } }
      | none => r

def resolveSlot (metric : MetricKind) (layers : List CascadeLayer) : CascadedThreshold :=
  let sys := systemDefaultThresholds metric
  layers.foldl (slotStep metric)
    { warn := sys.warn, crit := sys.crit, notify := true, origin := ⟨systemOrigin, systemOrigin, systemOrigin⟩ }

def MetricThreshold.onlyNotify (entry : MetricThreshold) : Bool :=
  entry.warn.isNone && entry.crit.isNone && entry.notify.isSome && !entry.otherKeys

/-- What the layers so far say about a mount; its values come with their origin. -/
structure MountAcc where
  values : Option (MetricThreshold × ThresholdOrigin)
  notify : Bool
  notifyOrigin : ThresholdOrigin
  deriving DecidableEq, Repr

def newAcc : MountAcc := ⟨none, true, systemOrigin⟩

/-- What an entry of a layer makes of it. -/
def mountEntry (l : CascadeLayer) (entry : Option MetricThreshold) (acc : Option MountAcc) : Option MountAcc :=
  match entry with
  | none => acc
  | some entry =>
      let acc := if l.values && !entry.onlyNotify then
        some { acc.getD newAcc with values := some (entry, l.origin) } else acc
      match entry.notify.join with
      | some notify => some { acc.getD newAcc with notify := notify, notifyOrigin := l.origin }
      | none => acc

/-- The body of the loop over the entries of a layer. -/
def mountStep (l : CascadeLayer) (mounts : JsMap String MountAcc) (e : String × Option MetricThreshold) :
    JsMap String MountAcc :=
  match mountEntry l e.2 (mounts.get e.1) with
  | some acc => mounts.set e.1 acc
  | none => mounts

def mountLayer (mounts : JsMap String MountAcc) (l : CascadeLayer) : JsMap String MountAcc :=
  match l.thresholds with
  | none => mounts
  | some t => t.diskByMount.foldl (mountStep l) mounts

def resolveMount (disk : CascadedThreshold) (acc : MountAcc) : CascadedThreshold :=
  let warn := acc.values.bind fun v => v.1.warn.join.map fun q => (q, v.2)
  let crit := acc.values.bind fun v => v.1.crit.join.map fun q => (q, v.2)
  { warn := (warn.map Prod.fst).getD disk.warn
    crit := (crit.map Prod.fst).getD disk.crit
    notify := acc.notify
    origin :=
      { warn := (warn.map Prod.snd).getD disk.origin.warn
        crit := (crit.map Prod.snd).getD disk.origin.crit
        notify := acc.notifyOrigin } }

structure Cascade where
  disk : CascadedThreshold
  cpu : CascadedThreshold
  ram : CascadedThreshold
  diskByMount : JsMap String CascadedThreshold

def resolveCascade (layers : List CascadeLayer) : Cascade :=
  let disk := resolveSlot .disk layers
  let mounts := layers.foldl mountLayer []
  { disk := disk
    cpu := resolveSlot .cpu layers
    ram := resolveSlot .ram layers
    diskByMount := mounts.map fun e => (e.1, resolveMount disk e.2) }

/-- What the evaluation reads of it. -/
def Cascade.resolved (c : Cascade) : ResolvedThresholds where
  cpu := c.cpu.toResolvedMetricThreshold
  ram := c.ram.toResolvedMetricThreshold
  disk := c.disk.toResolvedMetricThreshold
  diskByMount := c.diskByMount.map fun e => (e.1, e.2.toResolvedMetricThreshold)

def Cascade.metric (c : Cascade) : MetricKind → CascadedThreshold
  | .disk => c.disk
  | .cpu => c.cpu
  | .ram => c.ram

/-- A mount that is not listed has the generic values of disks. -/
def Cascade.mount (c : Cascade) (mount : String) : CascadedThreshold := (c.diskByMount.get mount).getD c.disk

/-! ## Where values come from -/

inductive Slot where
  | warn
  | crit
  deriving DecidableEq, Repr

/-- A value and its origin. -/
def CascadedThreshold.slot (t : CascadedThreshold) : Slot → ℚ × ThresholdOrigin
  | .warn => (t.warn, t.origin.warn)
  | .crit => (t.crit, t.origin.crit)

def MetricThreshold.slot (t : MetricThreshold) : Slot → Option ℚ
  | .warn => t.warn.join
  | .crit => t.crit.join

def SystemDefault.slot (t : SystemDefault) : Slot → ℚ × ThresholdOrigin
  | .warn => (t.warn, systemOrigin)
  | .crit => (t.crit, systemOrigin)

/-- What the innermost layer gives that gives anything. -/
def innermost {α : Type} (f : CascadeLayer → Option α) (layers : List CascadeLayer) : Option α :=
  layers.reverse.findSome? f

/-- The slot of a metric in a layer whose values count. -/
def CascadeLayer.sets (l : CascadeLayer) (metric : MetricKind) (slot : Slot) : Option (ℚ × ThresholdOrigin) :=
  if l.values then ((l.metric metric).bind fun t => t.slot slot).map fun q => (q, l.origin) else none

/-- The value of the innermost layer that sets the slot, or the system's. -/
def genericSlot (layers : List CascadeLayer) (metric : MetricKind) (slot : Slot) : ℚ × ThresholdOrigin :=
  (innermost (fun l => l.sets metric slot) layers).getD ((systemDefaultThresholds metric).slot slot)

/-- The entry of a mount in a layer. -/
def CascadeLayer.entry (l : CascadeLayer) (mount : String) : Option MetricThreshold :=
  (l.thresholds.bind fun t => t.diskByMount.lookup mount).join

/-- The entry has a key other than `notify`. -/
def MetricThreshold.hasValues (entry : MetricThreshold) : Bool :=
  entry.warn.isSome || entry.crit.isSome || entry.otherKeys

/-- The entry has no key at all. -/
def MetricThreshold.isEmpty (entry : MetricThreshold) : Bool := !entry.hasValues && entry.notify.isNone

/-- The entry of a value layer that lists the mount with more than an alerts switch. -/
def CascadeLayer.lists (l : CascadeLayer) (mount : String) : Option (MetricThreshold × ThresholdOrigin) :=
  if l.values then ((l.entry mount).filter MetricThreshold.hasValues).map fun e => (e, l.origin) else none

def CascadeLayer.listsEmpty (l : CascadeLayer) (mount : String) : Bool :=
  l.values && (l.entry mount).any MetricThreshold.isEmpty

/-- Inside of the innermost layer that lists the mount, a value layer has an empty entry for it. -/
def EmptyInside (layers : List CascadeLayer) (mount : String) : Prop :=
  ∃ outer l inner, layers = outer ++ l :: inner ∧ l.listsEmpty mount = true ∧ ∀ l' ∈ inner, l'.lists mount = none

/-- What the innermost layer that lists the mount sets in it, or the generic value of disks. -/
def listedSlot (layers : List CascadeLayer) (mount : String) (slot : Slot) : ℚ × ThresholdOrigin :=
  ((innermost (fun l => l.lists mount) layers).bind fun e => (e.1.slot slot).map fun q => (q, e.2)).getD
    (genericSlot layers .disk slot)

/-! ## Layers that differ in switches only -/

/-- Two objects with the same keys and values, `notify` apart; where there is one only, it is a switch alone. -/
def EqualButNotify : Option MetricThreshold → Option MetricThreshold → Prop
  | none, none => True
  | some a, some b => a.warn = b.warn ∧ a.crit = b.crit ∧ a.otherKeys = b.otherKeys
  | some a, none => a.onlyNotify = true
  | none, some b => b.onlyNotify = true

structure SameButNotify (l l' : CascadeLayer) : Prop where
  origin : l.origin = l'.origin
  values : l.values = l'.values
  metric : ∀ metric, EqualButNotify (l.metric metric) (l'.metric metric)
  entry : ∀ mount, EqualButNotify (l.entry mount) (l'.entry mount)

/-- Empty entries inside the innermost layer that lists the mount are in both lists or in neither, or that layer sets
what disks have without it. -/
def MountAgrees (layers layers' : List CascadeLayer) (mount : String) : Prop :=
  (EmptyInside layers mount ↔ EmptyInside layers' mount) ∨
    ∀ slot, listedSlot layers mount slot = genericSlot layers .disk slot

section
variable {layers layers' : List CascadeLayer} {l l' : CascadeLayer} {metric : MetricKind} {mount : String} {slot : Slot}

/-! ## Generic metrics -/

theorem innermost_append {α : Type} (f : CascadeLayer → Option α) (layers : List CascadeLayer) (l : CascadeLayer) :
    innermost f (layers ++ [l]) = (f l).or (innermost f layers) := by
  rw [innermost, List.reverse_append, List.reverse_singleton, List.singleton_append, List.findSome?_cons]
  cases f l <;> rfl

theorem slotStep_slot (r : CascadedThreshold) :
    (slotStep metric r l).slot slot = (l.sets metric slot).getD (r.slot slot) := by
  unfold slotStep CascadeLayer.sets
  cases l.metric metric with
  | none => cases l.values <;> rfl
  | some t =>
      obtain ⟨warn, crit, notify, otherKeys⟩ := t
      cases l.values <;> cases slot <;> rcases warn with _ | _ | _ <;> rcases crit with _ | _ | _ <;>
        rcases notify with _ | _ | _ <;> rfl

/-- A generic metric has the value of the innermost layer that sets it. -/
theorem slot_resolveSlot : (resolveSlot metric layers).slot slot = genericSlot layers metric slot := by
  unfold resolveSlot genericSlot
  induction layers using List.reverseRecOn with
  | nil => cases slot <;> rfl
  | append_singleton layers l ih =>
      dsimp only at ih ⊢
      rw [List.foldl_concat, slotStep_slot, ih, innermost_append]
      cases l.sets metric slot <;> rfl

/-! ## Mounts -/

/-- The entry of a mount that the merge of values reads. -/
def CascadeLayer.merges (l : CascadeLayer) (mount : String) : Option (MetricThreshold × ThresholdOrigin) :=
  if l.values then ((l.entry mount).filter fun e => !e.onlyNotify).map fun e => (e, l.origin) else none

theorem get_mountStep (mounts : JsMap String MountAcc) (e : String × Option MetricThreshold) :
    (mountStep l mounts e).get mount = if mount = e.1 then mountEntry l e.2 (mounts.get e.1) else mounts.get mount := by
  unfold mountStep
  cases hacc : mountEntry l e.2 (mounts.get e.1) with
  | some acc => exact JsMap.get_set mounts e.1 mount acc
  | none =>
      split_ifs with hmount
      · -- nothing is stored, as nothing was
        subst hmount
        unfold mountEntry at hacc
        cases he : e.2 with
        | none =>
            rw [he] at hacc
            exact hacc
        | some entry =>
            rw [he] at hacc
            dsimp only at hacc
            split at hacc
            · cases hacc
            · split at hacc
              · cases hacc
              · exact hacc
      · rfl

theorem get_mountLayer (mounts : JsMap String MountAcc) :
    (mountLayer mounts l).get mount = mountEntry l (l.entry mount) (mounts.get mount) := by
  unfold mountLayer CascadeLayer.entry
  cases l.thresholds with
  | none => rfl
  | some t =>
      have hfold : ∀ (entries : List (String × Option MetricThreshold)) (mounts : JsMap String MountAcc),
          (entries.map Prod.fst).Nodup → (entries.foldl (mountStep l) mounts).get mount =
            mountEntry l (entries.lookup mount).join (mounts.get mount) := by
        intro entries
        induction entries with
        | nil => exact fun _ _ => rfl
        | cons e entries ih =>
            intro mounts hd
            obtain ⟨hnot, hrest⟩ := List.nodup_cons.1 hd
            rw [List.foldl_cons, ih _ hrest, get_mountStep, List.lookup_cons]
            by_cases hmount : mount = e.1
            · have hnone : entries.lookup mount = none := by
                rw [List.lookup_eq_none_iff]
                intro e' he'
                rw [bne_iff_ne, hmount]
                exact fun heq => hnot (List.mem_map.2 ⟨e', he', heq.symm⟩)
              rw [if_pos hmount, hnone, beq_iff_eq.2 hmount, ← hmount]
              rfl
            · rw [if_neg hmount, beq_eq_false_iff_ne.2 hmount]
      exact hfold t.diskByMount mounts t.mounts_nodup

theorem mountEntry_values (acc : Option MountAcc) :
    (mountEntry l (l.entry mount) acc).bind MountAcc.values = (l.merges mount).or (acc.bind MountAcc.values) := by
  unfold mountEntry CascadeLayer.merges
  cases l.entry mount with
  | none => cases l.values <;> rfl
  | some entry =>
      cases l.values with
      | false => rcases hn : entry.notify.join with _ | _ <;> cases acc <;> simp [newAcc, hn]
      | true =>
          cases honly : entry.onlyNotify <;> rcases hn : entry.notify.join with _ | _ <;> cases acc <;>
            simp [newAcc, hn, honly, Option.filter_some]

theorem values_mounts :
    ((layers.foldl mountLayer []).get mount).bind MountAcc.values = innermost (fun l => l.merges mount) layers := by
  induction layers using List.reverseRecOn with
  | nil => rfl
  | append_singleton layers l ih => rw [List.foldl_concat, get_mountLayer, mountEntry_values, ih, innermost_append]

theorem resolveMount_slot (disk : CascadedThreshold) (acc : MountAcc) :
    (resolveMount disk acc).slot slot =
      (acc.values.bind fun v => (v.1.slot slot).map fun q => (q, v.2)).getD (disk.slot slot) := by
  obtain ⟨_ | ⟨⟨warn, crit, _, _⟩, origin⟩, _, _⟩ := acc
  · cases slot <;> rfl
  · cases slot <;> rcases warn with _ | _ | _ <;> rcases crit with _ | _ | _ <;> rfl

/-- A mount has what the entry that was merged last sets, and the generic values of disks beside it. -/
theorem slot_mount : ((resolveCascade layers).mount mount).slot slot =
    ((innermost (fun l => l.merges mount) layers).bind fun v => (v.1.slot slot).map fun q => (q, v.2)).getD
      (genericSlot layers .disk slot) := by
  rw [← values_mounts, ← slot_resolveSlot, Cascade.mount, resolveCascade]
  dsimp only
  rw [JsMap.get_map]
  cases (layers.foldl mountLayer []).get mount with
  | none => rfl
  | some acc => exact resolveMount_slot _ acc

/-! ## Switches, and layers that give nothing -/

/-- The alerts switch of a metric in a layer. -/
def CascadeLayer.switch (l : CascadeLayer) (metric : MetricKind) : Option (Bool × ThresholdOrigin) :=
  ((l.metric metric).bind fun t => t.notify.join).map fun b => (b, l.origin)

/-- The alerts switch of a mount in a layer. -/
def CascadeLayer.mountSwitch (l : CascadeLayer) (mount : String) : Option (Bool × ThresholdOrigin) :=
  ((l.entry mount).bind fun t => t.notify.join).map fun b => (b, l.origin)

def CascadedThreshold.switch (t : CascadedThreshold) : Bool × ThresholdOrigin := (t.notify, t.origin.notify)

def MountAcc.switch (acc : MountAcc) : Bool × ThresholdOrigin := (acc.notify, acc.notifyOrigin)

theorem slotStep_switch (r : CascadedThreshold) : (slotStep metric r l).switch = (l.switch metric).getD r.switch := by
  unfold slotStep CascadeLayer.switch
  cases l.metric metric with
  | none => rfl
  | some t =>
      obtain ⟨warn, crit, notify, otherKeys⟩ := t
      cases l.values <;> rcases warn with _ | _ | _ <;> rcases crit with _ | _ | _ <;> rcases notify with _ | _ | _ <;>
        rfl

/-- A generic metric has the switch of the innermost layer that has one; it is on when none has. -/
theorem switch_resolveSlot : (resolveSlot metric layers).switch =
    (innermost (fun l => l.switch metric) layers).getD (true, systemOrigin) := by
  unfold resolveSlot
  induction layers using List.reverseRecOn with
  | nil => rfl
  | append_singleton layers l ih =>
      dsimp only at ih ⊢
      rw [List.foldl_concat, slotStep_switch, ih, innermost_append]
      cases l.switch metric <;> rfl

theorem mountEntry_switch (acc : Option MountAcc) : (mountEntry l (l.entry mount) acc).map MountAcc.switch =
    (l.mountSwitch mount).or ((acc.map MountAcc.switch).or ((l.merges mount).map fun _ => (true, systemOrigin))) := by
  unfold mountEntry CascadeLayer.mountSwitch CascadeLayer.merges
  cases l.entry mount with
  | none => cases l.values <;> cases acc <;> rfl
  | some entry =>
      cases hvalues : l.values <;> cases honly : entry.onlyNotify <;> rcases hn : entry.notify.join with _ | _ <;>
        cases acc <;> simp [MountAcc.switch, newAcc, hn, honly, Option.filter_some]

theorem switch_mounts : ((layers.foldl mountLayer []).get mount).map MountAcc.switch =
    (innermost (fun l => l.mountSwitch mount) layers).or
      ((innermost (fun l => l.merges mount) layers).map fun _ => (true, systemOrigin)) := by
  induction layers using List.reverseRecOn with
  | nil => rfl
  | append_singleton layers l ih =>
      rw [List.foldl_concat, get_mountLayer, mountEntry_switch, ih, innermost_append, innermost_append]
      cases l.mountSwitch mount <;> cases innermost (fun l => l.mountSwitch mount) layers <;> cases l.merges mount <;>
        cases innermost (fun l => l.merges mount) layers <;> rfl

/-- A mount has the switch of the innermost layer that has one for it. Without one it is on where its values are merged,
and that of disks elsewhere. -/
theorem switch_mount : ((resolveCascade layers).mount mount).switch =
    ((innermost (fun l => l.mountSwitch mount) layers).or
      ((innermost (fun l => l.merges mount) layers).map fun _ => (true, systemOrigin))).getD
        (resolveSlot .disk layers).switch := by
  rw [← switch_mounts, Cascade.mount, resolveCascade]
  dsimp only
  rw [JsMap.get_map]
  cases (layers.foldl mountLayer []).get mount <;> rfl

/-- Layers that give nothing count for nothing. -/
theorem innermost_skip {α : Type} {f : CascadeLayer → Option α} (outer inner : List CascadeLayer)
    {middle : List CascadeLayer} (h : ∀ l ∈ middle, f l = none) :
    innermost f (outer ++ middle ++ inner) = innermost f (outer ++ inner) := by
  have hmiddle : middle.reverse.findSome? f = none :=
    List.findSome?_eq_none_iff.2 fun l hl => h l (List.mem_reverse.1 hl)
  unfold innermost
  rw [List.reverse_append, List.reverse_append, List.reverse_append, List.findSome?_append, List.findSome?_append,
    List.findSome?_append, hmiddle, Option.none_or]

/-- A layer without an object changes nothing. -/
theorem resolveCascade_unset (outer inner : List CascadeLayer) (h : l.thresholds = none) :
    resolveCascade (outer ++ l :: inner) = resolveCascade (outer ++ inner) := by
  have hslot : ∀ metric, resolveSlot metric (outer ++ l :: inner) = resolveSlot metric (outer ++ inner) := by
    intro metric
    have hstep : ∀ r, slotStep metric r l = r := fun r => by
      cases metric <;> simp [slotStep, CascadeLayer.metric, h]
    simp only [resolveSlot, List.foldl_append, List.foldl_cons, hstep]
  have hmount : ∀ mounts, mountLayer mounts l = mounts := fun mounts => by rw [mountLayer, h]
  simp only [resolveCascade, hslot, List.foldl_append, List.foldl_cons, hmount]

/-! ## Empty entries -/

theorem onlyNotify_eq (e : MetricThreshold) : e.onlyNotify = (!e.hasValues && e.notify.isSome) := by
  unfold MetricThreshold.onlyNotify MetricThreshold.hasValues
  cases e.warn <;> cases e.crit <;> cases e.otherKeys <;> cases e.notify <;> rfl

/-- An entry that sets no value, empty or a switch alone. -/
theorem slot_of_not_hasValues {e : MetricThreshold} (h : e.hasValues = false) : e.slot slot = none := by
  obtain ⟨warn, crit, notify, otherKeys⟩ := e
  cases warn <;> cases crit <;> first | cases slot <;> rfl | cases h

theorem not_hasValues_of_onlyNotify {e : MetricThreshold} (h : e.onlyNotify = true) : e.hasValues = false := by
  rw [onlyNotify_eq, Bool.and_eq_true, Bool.not_eq_true'] at h
  exact h.1

theorem not_hasValues_of_isEmpty {e : MetricThreshold} (h : e.isEmpty = true) : e.hasValues = false := by
  rw [MetricThreshold.isEmpty, Bool.and_eq_true, Bool.not_eq_true'] at h
  exact h.1

/-- What the merge reads: an entry that lists the mount, or an empty one. -/
theorem merges_cases (l : CascadeLayer) (mount : String) :
    l.listsEmpty mount = true ∧ l.lists mount = none ∧
        (∃ e, l.merges mount = some (e, l.origin) ∧ e.isEmpty = true) ∨
    l.listsEmpty mount = false ∧ l.merges mount = l.lists mount := by
  unfold CascadeLayer.listsEmpty CascadeLayer.lists CascadeLayer.merges
  cases l.values with
  | false => exact .inr ⟨rfl, rfl⟩
  | true =>
      cases l.entry mount with
      | none => exact .inr ⟨rfl, rfl⟩
      | some e =>
          cases hvalues : e.hasValues <;> cases hnotify : e.notify <;>
            simp [onlyNotify_eq, MetricThreshold.isEmpty, hvalues, hnotify, Option.filter_some]

theorem emptyInside_append : EmptyInside (layers ++ [l]) mount ↔
    l.listsEmpty mount = true ∨ l.lists mount = none ∧ EmptyInside layers mount := by
  constructor
  · rintro ⟨outer, l₀, inner, hsplit, hempty, hinner⟩
    rcases List.eq_nil_or_concat inner with rfl | ⟨inner, last, rfl⟩
    · obtain ⟨-, hlast⟩ := List.append_inj' hsplit rfl
      exact .inl (List.singleton_inj.1 hlast ▸ hempty)
    · rw [List.concat_eq_append] at hsplit hinner
      rw [← List.cons_append, ← List.append_assoc] at hsplit
      obtain ⟨hlayers, hlast⟩ := List.append_inj' hsplit rfl
      obtain rfl := List.singleton_inj.1 hlast
      refine .inr ⟨hinner l (by simp), outer, l₀, inner, hlayers, hempty, fun l' hl' => hinner l' (by simp [hl'])⟩
  · rintro (hempty | ⟨hnone, outer, l₀, inner, rfl, hempty, hinner⟩)
    · exact ⟨layers, l, [], rfl, hempty, fun l' hl' => nomatch hl'⟩
    · refine ⟨outer, l₀, inner ++ [l], by simp, hempty, fun l' hl' => ?_⟩
      rcases List.mem_append.1 hl' with hl' | hl'
      · exact hinner l' hl'
      · exact List.mem_singleton.1 hl' ▸ hnone

/-- An empty entry inside is merged last; without one, the innermost entry that lists the mount is. -/
theorem innermost_merges (layers : List CascadeLayer) (mount : String) :
    EmptyInside layers mount ∧
        (∃ e o, innermost (fun l => l.merges mount) layers = some (e, o) ∧ e.isEmpty = true) ∨
    ¬ EmptyInside layers mount ∧
      innermost (fun l => l.merges mount) layers = innermost (fun l => l.lists mount) layers := by
  induction layers using List.reverseRecOn with
  | nil =>
      refine .inr ⟨?_, rfl⟩
      rintro ⟨outer, l, inner, hnil, -⟩
      simp at hnil
  | append_singleton layers l ih =>
      rw [emptyInside_append, innermost_append, innermost_append]
      rcases merges_cases l mount with ⟨hempty, hnone, e, hmerges, he⟩ | ⟨hempty, hmerges⟩
      · exact .inl ⟨.inl hempty, e, l.origin, by rw [hmerges]; rfl, he⟩
      · rw [hempty, hmerges]
        cases hlists : l.lists mount with
        | some v => exact .inr ⟨by simp, rfl⟩
        | none => simpa using ih

/-- The values of a mount, by what the layers say about it. -/
theorem slot_mount_cases (layers : List CascadeLayer) (mount : String) :
    EmptyInside layers mount ∧
        (∀ slot, ((resolveCascade layers).mount mount).slot slot = genericSlot layers .disk slot) ∨
      ¬ EmptyInside layers mount ∧
        ∀ slot, ((resolveCascade layers).mount mount).slot slot = listedSlot layers mount slot := by
  rcases innermost_merges layers mount with ⟨hinside, e, o, hmerges, he⟩ | ⟨hinside, hmerges⟩
  · refine .inl ⟨hinside, fun slot => ?_⟩
    rw [slot_mount, hmerges, Option.bind_some, slot_of_not_hasValues (not_hasValues_of_isEmpty he)]
    rfl
  · refine .inr ⟨hinside, fun slot => ?_⟩
    rw [slot_mount, hmerges, listedSlot]

/-! ## Two lists of layers -/

theorem innermost_congr {α : Type} {f : CascadeLayer → Option α}
    (hf : ∀ l l', SameButNotify l l' → f l = f l') (h : List.Forall₂ SameButNotify layers layers') :
    innermost f layers = innermost f layers' := by
  have hreverse := List.rel_reverse h
  unfold innermost
  generalize layers.reverse = inner at hreverse ⊢
  generalize layers'.reverse = inner' at hreverse ⊢
  induction hreverse with
  | nil => rfl
  | cons hhead _ ih => rw [List.findSome?_cons, List.findSome?_cons, hf _ _ hhead, ih]

theorem sets_congr (h : SameButNotify l l') : l.sets metric slot = l'.sets metric slot := by
  have hmetric := h.metric metric
  unfold CascadeLayer.sets
  rw [h.origin, h.values]
  cases hl : l.metric metric with
  | none =>
      cases hl' : l'.metric metric with
      | none => rfl
      | some b =>
          rw [hl, hl'] at hmetric
          rw [Option.bind_none, Option.bind_some, slot_of_not_hasValues (not_hasValues_of_onlyNotify hmetric)]
  | some a =>
      cases hl' : l'.metric metric with
      | none =>
          rw [hl, hl'] at hmetric
          rw [Option.bind_none, Option.bind_some, slot_of_not_hasValues (not_hasValues_of_onlyNotify hmetric)]
      | some b =>
          rw [hl, hl'] at hmetric
          have hslot : a.slot slot = b.slot slot := by
            cases slot
            · exact congrArg Option.join hmetric.1
            · exact congrArg Option.join hmetric.2.1
          rw [Option.bind_some, Option.bind_some, hslot]

theorem genericSlot_congr (h : List.Forall₂ SameButNotify layers layers') :
    genericSlot layers metric slot = genericSlot layers' metric slot := by
  rw [genericSlot, innermost_congr (fun _ _ => sets_congr) h, genericSlot]

/-- An entry without its switch. -/
def withoutNotify (e : MetricThreshold × ThresholdOrigin) : MetricThreshold × ThresholdOrigin :=
  ({ e.1 with notify := none }, e.2)

theorem lists_congr (h : SameButNotify l l') :
    (l.lists mount).map withoutNotify = (l'.lists mount).map withoutNotify := by
  have hentry := h.entry mount
  unfold CascadeLayer.lists
  rw [h.origin, h.values]
  cases hl : l.entry mount with
  | none =>
      cases hl' : l'.entry mount with
      | none => rfl
      | some b =>
          rw [hl, hl'] at hentry
          rw [Option.filter_some, not_hasValues_of_onlyNotify hentry]
          rfl
  | some a =>
      cases hl' : l'.entry mount with
      | none =>
          rw [hl, hl'] at hentry
          rw [Option.filter_some, not_hasValues_of_onlyNotify hentry]
          rfl
      | some b =>
          rw [hl, hl'] at hentry
          obtain ⟨warn, crit, notify, otherKeys⟩ := a
          obtain ⟨rfl, rfl, rfl⟩ := hentry
          cases l'.values
          · rfl
          · rw [if_pos rfl, if_pos rfl, Option.filter_some, Option.filter_some]
            unfold MetricThreshold.hasValues
            dsimp only
            split <;> rfl

theorem listedSlot_congr (h : List.Forall₂ SameButNotify layers layers') :
    listedSlot layers mount slot = listedSlot layers' mount slot := by
  have hbind : ∀ x : Option (MetricThreshold × ThresholdOrigin),
      (x.bind fun e => (e.1.slot slot).map fun q => (q, e.2)) =
        (x.map withoutNotify).bind fun e => (e.1.slot slot).map fun q => (q, e.2) := by
    intro x
    cases x <;> cases slot <;> rfl
  have hmap : ∀ layers, (innermost (fun l => l.lists mount) layers).map withoutNotify =
      innermost (fun l => (l.lists mount).map withoutNotify) layers := fun layers => List.map_findSome?
  rw [listedSlot, hbind, hmap, innermost_congr (fun _ _ => lists_congr) h, genericSlot_congr h, ← hmap, ← hbind,
    listedSlot]

/-- The values of a mount agree exactly where empty entries do, or where they make no difference. -/
theorem mount_agrees_iff (h : List.Forall₂ SameButNotify layers layers') :
    (∀ slot, ((resolveCascade layers).mount mount).slot slot = ((resolveCascade layers').mount mount).slot slot) ↔
      MountAgrees layers layers' mount := by
  have hgeneric : ∀ slot, genericSlot layers .disk slot = genericSlot layers' .disk slot := fun _ =>
    genericSlot_congr h
  have hlisted : ∀ slot, listedSlot layers mount slot = listedSlot layers' mount slot := fun _ => listedSlot_congr h
  unfold MountAgrees
  rcases slot_mount_cases layers mount with ⟨hinside, hvalue⟩ | ⟨hinside, hvalue⟩ <;>
    rcases slot_mount_cases layers' mount with ⟨hinside', hvalue'⟩ | ⟨hinside', hvalue'⟩ <;>
    simp only [hvalue, hvalue', hinside, hinside', hgeneric, hlisted, iff_true, iff_false, true_or, false_or,
      not_true_eq_false, implies_true]
  exact ⟨fun heq slot => (heq slot).symm, fun heq slot => (heq slot).symm⟩

/-! ## The evaluation -/

/-- What the evaluation reads of a mount. -/
theorem resolved_forMount (c : Cascade) (mount : Option String) :
    (c.resolved.forMount mount).getD c.resolved.disk =
      (((mount.filter (· ≠ "")).map c.mount).getD c.disk).toResolvedMetricThreshold := by
  unfold ResolvedThresholds.forMount Cascade.mount Cascade.resolved
  dsimp only
  cases mount.filter (· ≠ "") with
  | none => rfl
  | some m =>
      rw [Option.bind_some, JsMap.lookup_eq_get, JsMap.get_map, Option.map_some, Option.getD_some]
      cases c.diskByMount.get m <;> rfl

theorem sameValues_of_slot {t t' : CascadedThreshold} (h : ∀ slot, t.slot slot = t'.slot slot) :
    t.toResolvedMetricThreshold.SameValues t'.toResolvedMetricThreshold :=
  ⟨congrArg Prod.fst (h .warn), congrArg Prod.fst (h .crit)⟩

end

/-- The same values and origins for every metric and mount, and the same evaluation of every push. -/
structure SameResult (c c' : Cascade) : Prop where
  metric : ∀ metric slot, (c.metric metric).slot slot = (c'.metric metric).slot slot
  mount : ∀ mount slot, (c.mount mount).slot slot = (c'.mount mount).slot slot
  status : ∀ metrics, computeMetricStatus metrics c.resolved = computeMetricStatus metrics c'.resolved

theorem computeMetricStatus_congr {c c' : Cascade}
    (hmetric : ∀ metric slot, (c.metric metric).slot slot = (c'.metric metric).slot slot)
    (hmount : ∀ mount slot, (c.mount mount).slot slot = (c'.mount mount).slot slot) (metrics : Option PushMetrics) :
    computeMetricStatus metrics c.resolved = computeMetricStatus metrics c'.resolved := by
  have hsame : SameValues c.resolved c'.resolved := by
    refine ⟨sameValues_of_slot (hmetric .cpu), sameValues_of_slot (hmetric .ram), fun mount => ?_⟩
    rw [resolved_forMount, resolved_forMount]
    cases mount.filter (· ≠ "") with
    | none => exact sameValues_of_slot (hmetric .disk)
    | some m => exact sameValues_of_slot (hmount m)
  cases metrics with
  | none => rfl
  | some m =>
      rw [computeMetricStatus, computeMetricStatus, breachesOf_congr hsame]

/-- **The alerts switches change no evaluation** exactly when, for every mount, empty entries inside the innermost
layer that lists it are in both lists or in neither, or that layer sets what disks have without it. -/
theorem values_agree_iff {layers layers' : List CascadeLayer} (h : List.Forall₂ SameButNotify layers layers') :
    SameResult (resolveCascade layers) (resolveCascade layers') ↔ ∀ mount, MountAgrees layers layers' mount := by
  have hmetric : ∀ metric slot, ((resolveCascade layers).metric metric).slot slot =
      ((resolveCascade layers').metric metric).slot slot := by
    intro metric slot
    have hresolve : ∀ layers, ((resolveCascade layers).metric metric).slot slot = genericSlot layers metric slot := by
      intro layers
      cases metric <;> exact slot_resolveSlot
    rw [hresolve, hresolve, genericSlot_congr h]
  constructor
  · exact fun hsame mount => (mount_agrees_iff h).1 (hsame.mount mount)
  · intro hagrees
    have hmount := fun mount => (mount_agrees_iff h).2 (hagrees mount)
    exact ⟨hmetric, hmount, computeMetricStatus_congr hmetric hmount⟩

/-! ## A disk of a tenant -/

/-- The thresholds of one mount, and nothing else. -/
def mountOnly (mount : String) (entry : MetricThreshold) : MetricThresholds where
  disk := none
  cpu := none
  ram := none
  diskByMount := [(mount, some entry)]
  mounts_nodup := List.nodup_singleton _

/-- The tenant sets 50 and 60 for drive C; the device has an entry of its own. -/
def driveC (entry : MetricThreshold) : List CascadeLayer :=
  [⟨⟨.tenant, some 1, none⟩, some (mountOnly "C:\\" ⟨some (some 50), some (some 60), none, false⟩), true⟩,
    ⟨⟨.device, some 7, none⟩, some (mountOnly "C:\\" entry), true⟩]

theorem driveC_same (notify notify' : Option (Option Bool)) :
    List.Forall₂ SameButNotify (driveC ⟨none, none, notify, false⟩) (driveC ⟨none, none, notify', false⟩) := by
  have hrefl : ∀ t : Option MetricThreshold, EqualButNotify t t := by
    intro t
    cases t with
    | none => exact True.intro
    | some t => exact ⟨rfl, rfl, rfl⟩
  refine .cons ⟨rfl, rfl, fun _ => hrefl _, fun _ => hrefl _⟩
    (.cons ⟨rfl, rfl, fun metric => ?_, fun mount => ?_⟩ .nil)
  · cases metric <;> exact True.intro
  · unfold CascadeLayer.entry mountOnly
    dsimp only [Option.bind_some]
    rw [List.lookup_cons, List.lookup_cons]
    cases mount == "C:\\" with
    | true => exact ⟨rfl, rfl, rfl⟩
    | false => exact True.intro

/-- An empty entry of the device and one that mutes: the first takes the tenant's values away. -/
theorem driveC_mute_counts : ¬ ∀ layers layers' : List CascadeLayer, List.Forall₂ SameButNotify layers layers' →
    SameResult (resolveCascade layers) (resolveCascade layers') := by
  intro h
  have hwarn := (h _ _ (driveC_same none (some (some false)))).mount "C:\\" .warn
  exact absurd hwarn (by decide)

theorem not_emptyInside {layers : List CascadeLayer} {mount : String}
    (h : ∀ l ∈ layers, l.listsEmpty mount = false) : ¬ EmptyInside layers mount := by
  rintro ⟨outer, l, inner, rfl, hempty, -⟩
  rw [h l (by simp)] at hempty
  cases hempty

/-- An entry that mutes and one that does not: both leave the tenant's values. -/
theorem driveC_switch_same : SameResult (resolveCascade (driveC ⟨none, none, some (some false), false⟩))
    (resolveCascade (driveC ⟨none, none, some (some true), false⟩)) := by
  have hnone : ∀ (b : Bool) (mount : String), ¬ EmptyInside (driveC ⟨none, none, some (some b), false⟩) mount := by
    intro b mount
    refine not_emptyInside fun l hl => ?_
    simp only [driveC, List.mem_cons, List.not_mem_nil, or_false] at hl
    rcases hl with rfl | rfl <;> unfold CascadeLayer.listsEmpty CascadeLayer.entry mountOnly <;>
      dsimp only [Option.bind_some] <;> rw [List.lookup_cons] <;> cases mount == "C:\\" <;> rfl
  exact (values_agree_iff (driveC_same (some (some false)) (some (some true)))).2 fun mount =>
    .inl (iff_of_false (hnone false mount) (hnone true mount))

end Obliance.Metrics
