import Obliance.Groups.Runs
import Obliance.Updates.Fleet

/-!
# Auto-approval in full (`services/update.service.ts`, `applyAutoApprove`)

Which policies apply to a device, how their exclusions are decoded, and what the loop approves.

* `PolicyDb` : devices, groups with an exact closure, policies and updates;
* `exclusionOf` : the filter that the code makes of a stored list, `none` where it throws;
* `reached` : the policies whose update the loop runs;
* `Wanted` : some policy that applies approves the severity and excludes neither uid nor category;
* `Open`, `KeptOut` : a policy with no unreadable list up to it, an update that its decoded lists keep out;
* `autoApprove_eq` : the loop approves the rows that a reached policy takes;
* `mem_reached_iff`, `takes_iff` : these policies are the open ones, and they take what is not kept out;
* `auto_approve_exact_iff` : auto-approval is exact when no update is lost or forgotten by the lists;
* `defaultLists_stop` : the default lists of a policy stop the loop.
-/

namespace Obliance.Updates.AutoApproval
open Js (Json)
open KeyedTable ParentForest Obliance.Groups

structure DeviceRow where
  id : ℕ
  groupId : Option ℕ
  deriving DecidableEq, Repr

/-- A row of `update_policies`; the lists are `none` for SQL's NULL. -/
structure PolicyRow where
  tenantId : ℕ
  enabled : Bool
  targetType : String
  targetId : Option ℕ
  autoApproveCritical : Bool
  autoApproveSecurity : Bool
  autoApproveOptional : Bool
  excludedUpdateIds : Option (List Json)
  excludedCategories : Option (List Json)
  createdBy : Option ℕ

/-- The tables; the group of a device is a foreign key. -/
structure PolicyDb where
  devices : List DeviceRow
  groups : GroupDb
  sound : groups.Sound
  device_group : ∀ d ∈ devices, ∀ g ∈ d.groupId, groups.Mem g
  /-- In the order of the query. -/
  policies : List PolicyRow
  updates : List FleetRow

structure Host where
  /-- `JSON.parse` of the text that an array becomes, `none` when it throws. -/
  parse : List Json → Option Json
  /-- `v.length > 0` for an object. -/
  lengthy : List (List Char × Json) → Bool
  /-- The values bound for `NOT IN (..)`, `none` when the statement throws. -/
  bind : List Json → Option (List (Option String))

/-! ## The policies of a device -/

/-- The ids of the group and of all above it. -/
def ancestorIds (db : PolicyDb) (groupId : ℕ) : List ℕ :=
  (db.groups.closure.filter fun c => c.descendantId = groupId).map ClosureRow.ancestorId

def applies (db : PolicyDb) (tenantId : ℕ) (device : DeviceRow) (p : PolicyRow) : Bool :=
  decide (p.tenantId = tenantId) && p.enabled &&
    (decide (p.targetType = "all") ||
      (decide (p.targetType = "device") && decide (p.targetId = some device.id)) ||
      (device.groupId.filter (· ≠ 0)).any fun groupId =>
        decide (p.targetType = "group") && p.targetId.any fun id => (ancestorIds db groupId).contains id)

def PolicyRow.severities (p : PolicyRow) : List String :=
  (if p.autoApproveCritical then ["critical"] else []) ++ (if p.autoApproveSecurity then ["important"] else []) ++
    if p.autoApproveOptional then ["moderate", "optional"] else []

/-! ## Exclusions -/

/-- A `whereNotIn` with its values, or none; in SQL a comparison with NULL is not true. -/
abbrev Exclusion := Option (List (Option String))

def passes (e : Exclusion) (column : Option String) : Bool :=
  e.all fun values => column.any fun c => values.all fun v => v.any fun v => v ≠ c

/-- `if (list.length > 0) q = q.whereNotIn(column, list)`, for a parsed value. -/
def exclusionOfJson (host : Host) : Json → Option Exclusion
  | .null => none
  | .arr [] => some none
  | .arr items => (host.bind items).map some
  | .str [] => some none
  | .str _ => none
  | .obj fields => if host.lengthy fields then none else some none
  | _ => some none

/-- `column ? JSON.parse(column) : []`, on a column that the driver has parsed. -/
def exclusionOf (host : Host) : Option (List Json) → Option Exclusion
  | none => some none
  | some list => (host.parse list).bind (exclusionOfJson host)

/-! ## The loop -/

/-- A policy with its exclusions. -/
structure ReadPolicy where
  policy : PolicyRow
  uids : Exclusion
  cats : Exclusion

def ReadPolicy.takes (p : ReadPolicy) (deviceId tenantId : ℕ) (r : FleetRow) : Bool :=
  decide (r.deviceId = deviceId ∧ r.tenantId = tenantId ∧ r.status = .available) &&
    p.policy.severities.contains r.severity && passes p.uids (some r.updateUid) && passes p.cats r.category

/-- The policies whose statement runs: one without severities is skipped, one that throws ends the loop. -/
def reached (host : Host) : List PolicyRow → List ReadPolicy
  | [] => []
  | p :: ps =>
      if p.severities = [] then reached host ps
      else match exclusionOf host p.excludedUpdateIds, exclusionOf host p.excludedCategories with
        | some uids, some cats => ⟨p, uids, cats⟩ :: reached host ps
        | _, _ => []

def approve (approvedBy : Option ℕ) (now : ℤ) (r : FleetRow) : FleetRow :=
  { r with toUpdateRow := r.toUpdateRow.approve approvedBy now }

def approveTaken (deviceId tenantId : ℕ) (now : ℤ) (p : ReadPolicy) (r : FleetRow) : FleetRow :=
  if p.takes deviceId tenantId r then approve p.policy.createdBy now r else r

def applyAutoApprove (host : Host) (db : PolicyDb) (deviceId tenantId : ℕ) (now : ℤ) : List FleetRow :=
  match get DeviceRow.id db.devices deviceId with
  | none => db.updates
  | some device =>
      let policies := db.policies.filter (applies db tenantId device)
      (reached host policies).foldl (fun rows p => rows.map (approveTaken deviceId tenantId now p)) db.updates

/-! ## What is to be approved -/

/-- The list holds the text. -/
def Lists (list : Option (List Json)) (s : String) : Prop := ∃ items ∈ list, Json.str s.toList ∈ items

/-- The policy is for all devices, for this one, or for its group or one above it. -/
def AppliesTo (db : PolicyDb) (tenantId : ℕ) (device : DeviceRow) (p : PolicyRow) : Prop :=
  p.tenantId = tenantId ∧ p.enabled = true ∧
    (p.targetType = "all" ∨ (p.targetType = "device" ∧ p.targetId = some device.id) ∨
      p.targetType = "group" ∧ ∃ g ∈ device.groupId, ∃ a ∈ p.targetId, Under db.groups.parent a g)

/-- The policy approves the severity, and its stored lists name neither the uid nor the category. -/
structure PolicyRow.Wants (p : PolicyRow) (r : FleetRow) : Prop where
  severity : r.severity ∈ p.severities
  uid : ¬ Lists p.excludedUpdateIds r.updateUid
  category : ∀ c ∈ r.category, ¬ Lists p.excludedCategories c

def Wanted (db : PolicyDb) (deviceId tenantId : ℕ) (r : FleetRow) : Prop :=
  ∃ device ∈ get DeviceRow.id db.devices deviceId, ∃ p ∈ db.policies, AppliesTo db tenantId device p ∧ p.Wants r

/-- An available update of the device. -/
def Available (deviceId tenantId : ℕ) (r : FleetRow) : Prop :=
  r.deviceId = deviceId ∧ r.tenantId = tenantId ∧ r.status = .available

/-- The available updates of the device that are wanted are approved, and no other row changes. -/
def ApprovesExactly (host : Host) (db : PolicyDb) (deviceId tenantId : ℕ) (now : ℤ) : Prop :=
  List.Forall₂ (fun r r' => (Available deviceId tenantId r ∧ Wanted db deviceId tenantId r →
      ∃ approvedBy, r' = approve approvedBy now r) ∧
      (¬ (Available deviceId tenantId r ∧ Wanted db deviceId tenantId r) → r' = r))
    db.updates (applyAutoApprove host db deviceId tenantId now)

/-! ## What the stored lists do to it -/

/-- Each list is NULL, or its text can be parsed into something the statement accepts. -/
def Readable (host : Host) (p : PolicyRow) : Prop :=
  (exclusionOf host p.excludedUpdateIds).isSome ∧ (exclusionOf host p.excludedCategories).isSome

/-- The policy applies to the device, and no policy up to it that applies and enables a severity is unreadable. -/
def Open (host : Host) (db : PolicyDb) (tenantId : ℕ) (device : DeviceRow) (p : PolicyRow) : Prop :=
  ∃ before behind, db.policies = before ++ p :: behind ∧ AppliesTo db tenantId device p ∧ Readable host p ∧
    ∀ q ∈ before, AppliesTo db tenantId device q → q.severities ≠ [] → Readable host q

/-- The values bound for a column name the text, or hold a NULL. -/
def Named (values : List (Option String)) (s : String) : Prop := none ∈ values ∨ some s ∈ values

/-- The uids that the list decodes to name the update, or there are decoded categories and it has none, or they name
its category. -/
def KeptOut (host : Host) (p : PolicyRow) (r : FleetRow) : Prop :=
  (∃ values, exclusionOf host p.excludedUpdateIds = some (some values) ∧ Named values r.updateUid) ∨
    ∃ values, exclusionOf host p.excludedCategories = some (some values) ∧
      (r.category = none ∨ ∃ c ∈ r.category, Named values c)

/-- What the lists of the policies do to an available update. -/
structure Served (host : Host) (db : PolicyDb) (deviceId tenantId : ℕ) (r : FleetRow) : Prop where
  /-- A wanted update is not lost behind an unreadable list, nor to a list of categories when it has none. -/
  delivered : Wanted db deviceId tenantId r → ∃ device ∈ get DeviceRow.id db.devices deviceId,
    ∃ p, Open host db tenantId device p ∧ r.severity ∈ p.severities ∧ ¬ KeptOut host p r
  /-- An open policy whose stored lists name the update keeps it out, unless another policy wants it. -/
  remembered : ∀ device ∈ get DeviceRow.id db.devices deviceId, ∀ p, Open host db tenantId device p →
    r.severity ∈ p.severities →
    (Lists p.excludedUpdateIds r.updateUid ∨ ∃ c ∈ r.category, Lists p.excludedCategories c) →
      KeptOut host p r ∨ Wanted db deviceId tenantId r

/-- A policy that the loop reaches takes the row. -/
def Taken (host : Host) (db : PolicyDb) (deviceId tenantId : ℕ) (r : FleetRow) : Prop :=
  ∃ device ∈ get DeviceRow.id db.devices deviceId,
    ∃ p ∈ reached host (db.policies.filter (applies db tenantId device)), p.takes deviceId tenantId r = true

section
variable {host : Host} {db : PolicyDb} {deviceId tenantId : ℕ} {now : ℤ} {r : FleetRow}

/-! ## The query of the policies -/

theorem mem_ancestorIds {g a : ℕ} (hg : db.groups.Mem g) :
    a ∈ ancestorIds db g ↔ Under db.groups.parent a g := by
  rw [db.sound.exact.under_iff hg]
  simp only [ancestorIds, List.mem_map, List.mem_filter, decide_eq_true_eq, GroupDb.InClosure]
  constructor
  · rintro ⟨⟨a', d, k⟩, ⟨hc, rfl⟩, rfl⟩
    exact ⟨k, hc⟩
  · rintro ⟨k, hc⟩
    exact ⟨⟨a, g, k⟩, ⟨hc, rfl⟩, rfl⟩

/-- **The query finds the policies that apply to the device.** -/
theorem applies_iff {device : DeviceRow} (hd : device ∈ db.devices) {p : PolicyRow} :
    applies db tenantId device p = true ↔ AppliesTo db tenantId device p := by
  have hgroup : ((device.groupId.filter (· ≠ 0)).any fun groupId =>
      decide (p.targetType = "group") && p.targetId.any fun id => (ancestorIds db groupId).contains id) = true ↔
        p.targetType = "group" ∧ ∃ g ∈ device.groupId, ∃ a ∈ p.targetId, Under db.groups.parent a g := by
    rw [Option.any_eq_true]
    constructor
    · rintro ⟨g, hg, hp⟩
      obtain ⟨hdg, -⟩ := Option.filter_eq_some_iff.1 hg
      obtain ⟨htype, hid⟩ := Bool.and_eq_true_iff.1 hp
      obtain ⟨a, ha, hmem⟩ := (Option.any_eq_true ..).1 hid
      exact ⟨of_decide_eq_true htype, g, hdg, a, ha,
        (mem_ancestorIds (db.device_group device hd g hdg)).1 (List.contains_iff_mem.1 hmem)⟩
    · rintro ⟨htype, g, hg, a, ha, hunder⟩
      have hmem : db.groups.Mem g := db.device_group device hd g hg
      have hpos : g ≠ 0 := (db.sound.schema.lt_nextId hmem).1.ne'
      refine ⟨g, Option.filter_eq_some_iff.2 ⟨hg, by simpa using hpos⟩, ?_⟩
      rw [htype, ha, Option.any_some, List.contains_iff_mem.2 ((mem_ancestorIds hmem).2 hunder)]
      rfl
  simp only [applies, AppliesTo, Bool.and_eq_true, Bool.or_eq_true, decide_eq_true_eq, hgroup, and_assoc, or_assoc]

/-! ## What the loop reaches and takes -/

/-- A policy with a list that cannot be decoded is not reached, and none behind it. -/
theorem reached_of_unreadable {ps : List PolicyRow} {p : PolicyRow} (hsev : p.severities ≠ [])
    (hp : ¬ Readable host p) : reached host (p :: ps) = [] := by
  rw [reached, if_neg hsev]
  split
  · next huids hcats => exact absurd ⟨by rw [huids]; rfl, by rw [hcats]; rfl⟩ hp
  · rfl

theorem reached_of_readable {ps : List PolicyRow} {p : PolicyRow} (hsev : p.severities ≠ [])
    (hp : Readable host p) : ∃ uids cats, exclusionOf host p.excludedUpdateIds = some uids ∧
      exclusionOf host p.excludedCategories = some cats ∧
        reached host (p :: ps) = ⟨p, uids, cats⟩ :: reached host ps := by
  obtain ⟨uids, huids⟩ := Option.isSome_iff_exists.1 hp.1
  obtain ⟨cats, hcats⟩ := Option.isSome_iff_exists.1 hp.2
  exact ⟨uids, cats, huids, hcats, by rw [reached, if_neg hsev, huids, hcats]⟩

/-- The policy and its decoded lists. -/
def Decodes (host : Host) (p : ReadPolicy) : Prop :=
  exclusionOf host p.policy.excludedUpdateIds = some p.uids ∧ exclusionOf host p.policy.excludedCategories = some p.cats

/-- **The loop reaches the policies with a severity up to the first unreadable one.** -/
theorem mem_reached_iff {p : ReadPolicy} {ps : List PolicyRow} : p ∈ reached host ps ↔
    Decodes host p ∧ p.policy.severities ≠ [] ∧
      ∃ before behind, ps = before ++ p.policy :: behind ∧ ∀ q ∈ before, q.severities ≠ [] → Readable host q := by
  induction ps with
  | nil => simp [reached]
  | cons q ps ih =>
      by_cases hsev : q.severities = []
      · rw [reached, if_pos hsev, ih]
        refine and_congr_right fun _ => and_congr_right fun hp => ⟨?_, ?_⟩
        · rintro ⟨before, behind, rfl, hbefore⟩
          refine ⟨q :: before, behind, rfl, fun q' hq' hne => ?_⟩
          exact hbefore q' ((List.mem_cons.1 hq').resolve_left (by rintro rfl; exact hne hsev)) hne
        · rintro ⟨before, behind, heq, hbefore⟩
          cases before with
          | nil =>
              obtain ⟨rfl, -⟩ := List.cons.inj heq
              exact absurd hsev hp
          | cons q' before =>
              obtain ⟨rfl, rfl⟩ := List.cons.inj heq
              exact ⟨before, behind, rfl, fun q hq => hbefore q (List.mem_cons_of_mem _ hq)⟩
      · by_cases hread : Readable host q
        · obtain ⟨uids, cats, huids, hcats, heq⟩ := @reached_of_readable host ps q hsev hread
          rw [heq, List.mem_cons, ih]
          constructor
          · rintro (rfl | ⟨hdecodes, hp, before, behind, rfl, hbefore⟩)
            · exact ⟨⟨huids, hcats⟩, hsev, [], ps, rfl, fun _ h => absurd h List.not_mem_nil⟩
            · refine ⟨hdecodes, hp, q :: before, behind, rfl, fun q' hq' hne => ?_⟩
              rcases List.mem_cons.1 hq' with rfl | hq'
              · exact hread
              · exact hbefore q' hq' hne
          · rintro ⟨hdecodes, hp, before, behind, heq', hbefore⟩
            cases before with
            | nil =>
                obtain ⟨rfl, rfl⟩ := List.cons.inj heq'
                obtain rfl := Option.some.inj (huids.symm.trans hdecodes.1)
                obtain rfl := Option.some.inj (hcats.symm.trans hdecodes.2)
                exact .inl rfl
            | cons q' before =>
                obtain ⟨rfl, rfl⟩ := List.cons.inj heq'
                exact .inr ⟨hdecodes, hp, before, behind, rfl, fun q hq => hbefore q (List.mem_cons_of_mem _ hq)⟩
        · rw [reached_of_unreadable hsev hread]
          refine iff_of_false List.not_mem_nil ?_
          rintro ⟨hdecodes, hp, before, behind, heq, hbefore⟩
          cases before with
          | nil =>
              obtain ⟨rfl, rfl⟩ := List.cons.inj heq
              exact hread ⟨by rw [hdecodes.1]; rfl, by rw [hdecodes.2]; rfl⟩
          | cons q' before =>
              obtain ⟨rfl, rfl⟩ := List.cons.inj heq
              exact hread (hbefore q List.mem_cons_self hsev)

theorem passes_some_iff {e : Exclusion} {s : String} : passes e (some s) = true ↔ ∀ values ∈ e, ¬ Named values s := by
  cases e with
  | none => simp [passes]
  | some values =>
      rw [passes, Option.all_some, Option.any_some, List.all_eq_true]
      simp only [Option.mem_some_iff, forall_eq', Named, not_or]
      constructor
      · intro h
        refine ⟨fun hnull => ?_, fun hs => ?_⟩
        · exact absurd (h none hnull) Bool.false_ne_true
        · simpa using h (some s) hs
      · rintro ⟨hnull, hs⟩ v hv
        cases v with
        | none => exact absurd hv hnull
        | some w =>
            rw [Option.any_some, decide_eq_true_eq]
            rintro rfl
            exact hs hv

/-- A list of categories keeps out what has no category. -/
theorem passes_none_iff {e : Exclusion} : passes e none = true ↔ e = none := by
  cases e with
  | none => exact iff_of_true rfl rfl
  | some values => exact iff_of_false Bool.false_ne_true (Option.some_ne_none _)

/-- **A reached policy takes the available updates of its severities that are not kept out.** -/
theorem takes_iff {p : ReadPolicy} (hp : Decodes host p) (hr : Available deviceId tenantId r) :
    p.takes deviceId tenantId r = true ↔ r.severity ∈ p.policy.severities ∧ ¬ KeptOut host p.policy r := by
  have hcats : passes p.cats r.category = true ↔ ¬ ∃ values, p.cats = some values ∧
      (r.category = none ∨ ∃ c ∈ r.category, Named values c) := by
    cases hc : r.category with
    | none =>
        rw [passes_none_iff]
        constructor
        · rintro hnone ⟨values, hvalues, -⟩
          rw [hnone] at hvalues
          cases hvalues
        · intro h
          by_contra hne
          obtain ⟨values, hvalues⟩ := Option.ne_none_iff_exists'.1 hne
          exact h ⟨values, hvalues, .inl rfl⟩
    | some c =>
        rw [passes_some_iff]
        simp only [Option.mem_def, reduceCtorEq, Option.some.injEq, exists_eq_left', false_or, not_exists, not_and]
  have huids : passes p.uids (some r.updateUid) = true ↔
      ¬ ∃ values, p.uids = some values ∧ Named values r.updateUid := by
    rw [passes_some_iff]
    simp only [Option.mem_def, not_exists, not_and]
  have havail : decide (r.deviceId = deviceId ∧ r.tenantId = tenantId ∧ r.status = .available) = true :=
    decide_eq_true hr
  rw [ReadPolicy.takes, havail, Bool.true_and, Bool.and_eq_true, Bool.and_eq_true, List.contains_iff_mem, huids, hcats,
    and_assoc, KeptOut, not_or, hp.1, hp.2]
  simp only [Option.some.injEq]

/-! ## The loop, row by row -/

theorem approveTaken_of_not {p : ReadPolicy} (h : ¬ p.takes deviceId tenantId r = true) :
    approveTaken deviceId tenantId now p r = r := if_neg h

theorem available_of_takes {p : ReadPolicy} (h : p.takes deviceId tenantId r = true) :
    Available deviceId tenantId r := by
  simp only [ReadPolicy.takes, Bool.and_eq_true, decide_eq_true_eq] at h
  exact h.1.1.1

/-- An approved row is not taken again. -/
theorem not_takes_approve {p : ReadPolicy} {approvedBy : Option ℕ} :
    ¬ p.takes deviceId tenantId (approve approvedBy now r) = true := fun h =>
  nomatch (available_of_takes h).2.2

theorem foldl_map_row (ps : List ReadPolicy) : ∀ rows : List FleetRow,
    ps.foldl (fun rows p => rows.map (approveTaken deviceId tenantId now p)) rows =
      rows.map fun r => ps.foldl (fun r p => approveTaken deviceId tenantId now p r) r := by
  induction ps with
  | nil => exact fun rows => (List.map_id rows).symm
  | cons p ps ih =>
      intro rows
      rw [List.foldl_cons, ih, List.map_map]
      rfl

/-- What the reached policies do to a row. -/
theorem foldl_row (ps : List ReadPolicy) : ∀ r : FleetRow,
    ((∃ p ∈ ps, p.takes deviceId tenantId r = true) →
      ∃ approvedBy, ps.foldl (fun r p => approveTaken deviceId tenantId now p r) r = approve approvedBy now r) ∧
    ((¬ ∃ p ∈ ps, p.takes deviceId tenantId r = true) →
      ps.foldl (fun r p => approveTaken deviceId tenantId now p r) r = r) := by
  induction ps with
  | nil => exact fun r => ⟨fun ⟨_, hp, _⟩ => absurd hp List.not_mem_nil, fun _ => rfl⟩
  | cons p ps ih =>
      intro r
      rw [List.foldl_cons]
      by_cases hp : p.takes deviceId tenantId r = true
      · -- the policies behind find the row approved
        have hrest := (ih (approve p.policy.createdBy now r)).2 fun ⟨_, _, h⟩ => not_takes_approve h
        rw [approveTaken, if_pos hp, hrest]
        exact ⟨fun _ => ⟨_, rfl⟩, fun hnone => absurd ⟨p, List.mem_cons_self, hp⟩ hnone⟩
      · rw [approveTaken_of_not hp]
        refine ⟨fun ⟨q, hq, h⟩ => (ih r).1 ⟨q, ?_, h⟩, fun hnone => (ih r).2 fun ⟨q, hq, h⟩ =>
          hnone ⟨q, List.mem_cons_of_mem _ hq, h⟩⟩
        exact (List.mem_cons.1 hq).resolve_left (by rintro rfl; exact hp h)

/-- **The loop approves the rows that a policy before the first unreadable one takes.** -/
theorem autoApprove_eq : ∃ f : FleetRow → FleetRow,
    applyAutoApprove host db deviceId tenantId now = db.updates.map f ∧
      ∀ r, (Taken host db deviceId tenantId r → ∃ approvedBy, f r = approve approvedBy now r) ∧
        (¬ Taken host db deviceId tenantId r → f r = r) := by
  unfold applyAutoApprove Taken
  cases get DeviceRow.id db.devices deviceId with
  | none => exact ⟨id, (List.map_id _).symm, fun r => ⟨fun ⟨_, hd, _⟩ => (nomatch hd), fun _ => rfl⟩⟩
  | some device =>
      refine ⟨_, foldl_map_row _ _, fun r => ?_⟩
      simp only [Option.mem_some_iff, exists_eq_left']
      exact foldl_row _ r

theorem Taken.available (h : Taken host db deviceId tenantId r) : Available deviceId tenantId r := by
  obtain ⟨_, _, p, _, htakes⟩ := h
  exact available_of_takes htakes

/-- What is taken of the available updates, in terms of the stored lists. -/
theorem taken_iff (hr : Available deviceId tenantId r) : Taken host db deviceId tenantId r ↔
    ∃ device ∈ get DeviceRow.id db.devices deviceId,
      ∃ p, Open host db tenantId device p ∧ r.severity ∈ p.severities ∧ ¬ KeptOut host p r := by
  refine exists_congr fun device => and_congr_right fun hdevice => ?_
  have hmem : device ∈ db.devices := mem_of_get hdevice
  constructor
  · rintro ⟨p, hp, htakes⟩
    obtain ⟨hdecodes, -, before, behind, heq, hbefore⟩ := mem_reached_iff.1 hp
    obtain ⟨hsev, hkept⟩ := (takes_iff hdecodes hr).1 htakes
    obtain ⟨before', rest, hpolicies, rfl, hrest⟩ := List.filter_eq_append_iff.1 heq
    obtain ⟨skipped, behind', rfl, hskipped, happlies, -⟩ := List.filter_eq_cons_iff.1 hrest
    refine ⟨p.policy, ⟨before' ++ skipped, behind', by rw [hpolicies, List.append_assoc], (applies_iff hmem).1 happlies,
      ⟨by rw [hdecodes.1]; rfl, by rw [hdecodes.2]; rfl⟩, fun q hq hto hne => ?_⟩, hsev, hkept⟩
    have hq' := (applies_iff hmem).2 hto
    rcases List.mem_append.1 hq with hq | hq
    · exact hbefore q (List.mem_filter.2 ⟨hq, hq'⟩) hne
    · exact absurd hq' (hskipped q hq)
  · rintro ⟨p, ⟨before, behind, hpolicies, hto, hread, hbefore⟩, hsev, hkept⟩
    obtain ⟨uids, huids⟩ := Option.isSome_iff_exists.1 hread.1
    obtain ⟨cats, hcats⟩ := Option.isSome_iff_exists.1 hread.2
    have hdecodes : Decodes host ⟨p, uids, cats⟩ := ⟨huids, hcats⟩
    refine ⟨⟨p, uids, cats⟩, mem_reached_iff.2 ⟨hdecodes, List.ne_nil_of_mem hsev,
      before.filter (applies db tenantId device), behind.filter (applies db tenantId device), ?_, fun q hq hne => ?_⟩,
      (takes_iff hdecodes hr).2 ⟨hsev, hkept⟩⟩
    · rw [hpolicies, List.filter_append, List.filter_cons_of_pos ((applies_iff hmem).2 hto)]
    · obtain ⟨hq, happlies⟩ := List.mem_filter.1 hq
      exact hbefore q hq ((applies_iff hmem).1 happlies) hne

/-- The lists serve an update exactly when what is taken is what is wanted. -/
theorem served_iff (hr : Available deviceId tenantId r) :
    Served host db deviceId tenantId r ↔ (Taken host db deviceId tenantId r ↔ Wanted db deviceId tenantId r) := by
  rw [taken_iff hr]
  constructor
  · refine fun h => ⟨?_, h.delivered⟩
    rintro ⟨device, hdevice, p, hopen, hsev, hkept⟩
    by_cases hnamed : Lists p.excludedUpdateIds r.updateUid ∨ ∃ c ∈ r.category, Lists p.excludedCategories c
    · exact (h.remembered device hdevice p hopen hsev hnamed).resolve_left hkept
    · obtain ⟨huid, hcat⟩ := not_or.1 hnamed
      obtain ⟨before, behind, hpolicies, hto, -⟩ := hopen
      have hp : p ∈ db.policies := hpolicies ▸ List.mem_append_right _ List.mem_cons_self
      refine ⟨device, hdevice, p, hp, hto, hsev, huid, ?_⟩
      exact fun c hc hlists => hcat ⟨c, hc, hlists⟩
  · refine fun h => ⟨h.2, fun device hdevice p hopen hsev _ => ?_⟩
    by_cases hkept : KeptOut host p r
    · exact .inl hkept
    · exact .inr (h.1 ⟨device, hdevice, p, hopen, hsev, hkept⟩)

theorem approve_ne {approvedBy : Option ℕ} (h : Available deviceId tenantId r) :
    approve approvedBy now r ≠ r := fun heq => by
  have hstatus : (approve approvedBy now r).status = .approved := rfl
  rw [heq, h.2.2] at hstatus
  cases hstatus

end

/-- **Auto-approval is exact if and only if the lists of the policies serve every available update of the device.** -/
theorem auto_approve_exact_iff (host : Host) (db : PolicyDb) (deviceId tenantId : ℕ) (now : ℤ) :
    ApprovesExactly host db deviceId tenantId now ↔
      ∀ r ∈ db.updates, Available deviceId tenantId r → Served host db deviceId tenantId r := by
  obtain ⟨f, heq, hf⟩ := @autoApprove_eq host db deviceId tenantId now
  rw [ApprovesExactly, heq, List.forall₂_map_right_iff, List.forall₂_same]
  refine forall₂_congr fun r _ =>
    ⟨fun hexact havail => (served_iff havail).2 ?_, fun hserved => ⟨fun ⟨havail, hwanted⟩ => ?_, fun hnot => ?_⟩⟩
  · by_cases htaken : Taken host db deviceId tenantId r
    · refine iff_of_true htaken (not_not.1 fun hnot => ?_)
      obtain ⟨approvedBy, happroved⟩ := (hf r).1 htaken
      exact approve_ne havail (happroved.symm.trans (hexact.2 fun h => hnot h.2))
    · refine iff_of_false htaken fun hwanted => ?_
      obtain ⟨approvedBy, happroved⟩ := hexact.1 ⟨havail, hwanted⟩
      exact approve_ne havail (happroved.symm.trans ((hf r).2 htaken))
  · exact (hf r).1 (((served_iff havail).1 (hserved havail)).2 hwanted)
  · refine (hf r).2 fun htaken => hnot ⟨htaken.available, ?_⟩
    exact ((served_iff htaken.available).1 (hserved htaken.available)).1 htaken

/-! ## A policy with its default lists -/

/-- An empty array becomes the empty text, for which `JSON.parse` throws. -/
def throwingHost : Host := ⟨fun _ => none, fun _ => false, fun _ => none⟩

/-- Device 5 with a critical update, and a policy for all devices that approves it; its lists are empty. -/
def criticalUpdate : PolicyDb where
  devices := [⟨5, none⟩]
  groups := emptyGroups
  sound := @sound_of_init lenientPg _ ⟨rfl, rfl, Nat.one_pos⟩
  device_group := by
    intro d hd g hg
    obtain rfl := List.mem_singleton.1 hd
    cases hg
  policies := [⟨2, true, "all", none, true, false, false, some [], some [], none⟩]
  updates := [⟨⟨7, 2, "KB1", none, none, "critical", none, "windows_update", none, false, .available, none, none,
    none, none, 0, 0⟩, 5, 0⟩]

/-- The update is wanted and stays available. -/
theorem defaultLists_stop : ¬ ∀ (host : Host) (db : PolicyDb) (deviceId tenantId : ℕ) (now : ℤ),
    ApprovesExactly host db deviceId tenantId now := by
  intro h
  have hexact := h throwingHost criticalUpdate 5 2 0
  cases hexact with
  | cons hrow _ =>
    have hpolicy := List.mem_singleton_self (criticalUpdate.policies.head (by decide))
    refine absurd (hrow.1 ⟨⟨rfl, rfl, rfl⟩, ⟨5, none⟩, rfl, _, hpolicy, ?_, ⟨by decide, ?_, ?_⟩⟩) ?_
    · exact ⟨rfl, rfl, .inl rfl⟩
    · rintro ⟨items, hitems, hmem⟩
      cases hitems
      cases hmem
    · exact fun _ hc => nomatch hc
    · rintro ⟨approvedBy, happroved⟩
      have hstatus : UpdateStatus.available = .approved := congrArg (fun r : FleetRow => r.status) happroved
      cases hstatus

end Obliance.Updates.AutoApproval
