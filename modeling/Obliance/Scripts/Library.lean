import Obliance.Lib.JsSet
import Obliance.Lib.ParentForest
import Obliance.Remote.Session
import Obliance.Schedules.Targets

/-!
# The script library (`services/script.service.ts`, `db/migrations/073_script_parent.ts`)

`parent_script_id` is a key of the table itself, ON DELETE SET NULL.

* `createScript`, `updateScript`, `updateSystemScript`, `deleteScript` : the writers of the table;
* `ascend`, `isDescendant` : the walk up the parents, as far as the tenant sees them;
* `isDescendant_isSome` : the walk ends in every table;
* `isDescendant_spec` : what it finds in a table without cycles.
-/

namespace Obliance.Scripts
open Obliance.Js Obliance.Db KeyedTable ParentForest
open Obliance.Remote (isMasterTenant)
open Obliance.Schedules (bindInt4)

/-- The columns that only travel through. -/
structure ScriptColumns where
  name : JsVal
  description : JsVal
  categoryId : JsVal
  platform : JsVal
  runtime : JsVal
  content : JsVal
  timeoutSeconds : JsVal
  expectedExitCode : JsVal
  runAs : JsVal
  tags : JsVal
  availableInReach : JsVal
  purpose : JsVal
  createdBy : JsVal
  updatedBy : JsVal
  deriving DecidableEq, Repr

/-- A row of `scripts`; a built-in script has no tenant. -/
structure ScriptRow where
  id : ℤ
  tenantId : Option ℕ
  parentScriptId : Option ℤ
  isBuiltin : Bool
  targetTenantIds : List ℕ
  columns : ScriptColumns
  deriving DecidableEq, Repr

structure ScriptDb where
  scripts : List ScriptRow
  /-- The next value of the `id` sequence. -/
  nextId : ℤ
  deriving DecidableEq, Repr

def noScripts : ScriptDb := ⟨[], 1⟩

/-- Whether a row passes the types, lengths and other keys of the table, and the parameters theirs. -/
structure Pg where
  acceptsRow : ScriptRow → Bool
  acceptsParameters : JsVal → Bool

inductive ScriptError where
  | database
  | ownParent
  | underDescendant
  deriving DecidableEq, Repr

/-- `error.message` of the errors the service raises itself. -/
def ScriptError.message : ScriptError → Option String
  | database => none
  | ownParent => some "A script cannot be its own parent"
  | underDescendant => some "Cannot parent a script under one of its descendants"

namespace ScriptDb
variable (db : ScriptDb)

def script (id : ℤ) : Option ScriptRow := get ScriptRow.id db.scripts id

/-- `parent_script_id` -/
def parent (d : ℤ) : Option ℤ := (db.script d).bind ScriptRow.parentScriptId

/-- What the keys of the table and its sequence enforce. -/
structure Schema : Prop where
  ids : Keyed ScriptRow.id db.scripts
  idsUsed : ∀ r ∈ db.scripts, 0 < r.id ∧ r.id < db.nextId
  nextId_le : db.nextId ≤ int4Max + 1
  nextPos : 0 < db.nextId
  parents : ∀ r ∈ db.scripts, ∀ p, r.parentScriptId = some p → (db.script p).isSome

end ScriptDb

/-- The row belongs to the tenant or to nobody. -/
def ScriptRow.isNear (tenantId : ℕ) (r : ScriptRow) : Bool :=
  decide (r.tenantId = some tenantId) || r.tenantId.isNone

/-- The parent, where the tenant sees the script. -/
def ScriptDb.visibleParent (db : ScriptDb) (tenantId : ℕ) (d : ℤ) : Option ℤ :=
  ((db.script d).filter (ScriptRow.isNear tenantId)).bind ScriptRow.parentScriptId

def getScriptById (db : ScriptDb) (id : ℤ) (tenantId : ℕ) : Option ScriptRow :=
  (db.script id).filter fun r =>
    isMasterTenant tenantId || r.isNear tenantId || decide (tenantId ∈ r.targetTenantIds)

/-! ## The writers -/

section Writers
variable (pg : Pg)

structure CreateScript where
  columns : ScriptColumns
  parentScriptId : JsVal
  /-- Empty when it is no array. -/
  targetTenantIds : List ℕ
  parameters : JsVal
  deriving DecidableEq, Repr

/-- The defaults of `createScript`. -/
def ScriptColumns.inserted (data : ScriptColumns) : ScriptColumns where
  name := data.name
  description := data.description
  categoryId := data.categoryId
  platform := data.platform.or (.str "all")
  runtime := data.runtime.or (.str "bash")
  content := data.content
  timeoutSeconds := data.timeoutSeconds.or (.num 300)
  expectedExitCode := data.expectedExitCode.orElse (.num 0)
  runAs := data.runAs.or (.str "system")
  tags := data.tags.or (.obj "[]")
  availableInReach := data.availableInReach.orElse (.bool false)
  purpose := data.purpose.or (.str "execute")
  createdBy := data.createdBy
  updatedBy := data.createdBy

def newRow (db : ScriptDb) (tenantId : ℕ) (data : CreateScript) (parent : Option ℤ) : ScriptRow where
  id := db.nextId
  tenantId := some tenantId
  parentScriptId := parent
  isBuiltin := false
  targetTenantIds := if isMasterTenant tenantId then data.targetTenantIds else []
  columns := data.columns.inserted

/-- `INSERT INTO scripts … RETURNING *`. The key is checked when the row is there, so the row can be its
own parent; a refused row consumes its id. -/
def insertScript (db : ScriptDb) (row : ScriptRow) : Option ScriptRow × ScriptDb :=
  if db.nextId ≤ int4Max then
    if pg.acceptsRow row && row.parentScriptId.all fun p => decide (p = row.id) || (db.script p).isSome then
      (some row, { db with scripts := db.scripts ++ [row], nextId := db.nextId + 1 })
    else (none, { db with nextId := db.nextId + 1 })
  else (none, db)

/-- The parameters are inserted by a statement of their own. -/
def createScript (db : ScriptDb) (tenantId : ℕ) (data : CreateScript) : Except ScriptError ScriptRow × ScriptDb :=
  match bindInt4 (data.parentScriptId.orElse .null) with
  | none => (.error .database, db)
  | some parent =>
      match insertScript pg db (newRow db tenantId data parent) with
      | (none, db) => (.error .database, db)
      | (some row, db) =>
          if pg.acceptsParameters data.parameters then (.ok row, db) else (.error .database, db)

/-- A field that is absent is undefined. -/
structure UpdateScript where
  columns : ScriptColumns
  parentScriptId : JsVal
  /-- Empty for null. -/
  targetTenantIds : Option (List ℕ)
  deriving DecidableEq, Repr

/-- `if (data.x !== undefined) updates.x = data.x` -/
def assigned (old new : JsVal) : JsVal := if new = .undefined then old else new

def ScriptColumns.updated (old data : ScriptColumns) : ScriptColumns where
  name := assigned old.name data.name
  description := assigned old.description data.description
  categoryId := assigned old.categoryId data.categoryId
  platform := assigned old.platform data.platform
  runtime := assigned old.runtime data.runtime
  content := assigned old.content data.content
  timeoutSeconds := assigned old.timeoutSeconds data.timeoutSeconds
  expectedExitCode := assigned old.expectedExitCode data.expectedExitCode
  runAs := assigned old.runAs data.runAs
  tags := assigned old.tags data.tags
  availableInReach := assigned old.availableInReach data.availableInReach
  purpose := assigned old.purpose data.purpose
  createdBy := old.createdBy
  updatedBy := assigned old.updatedBy data.updatedBy

/-- The row as an update leaves it, with the parent and the tenants it sets. -/
def updatedRow (data : UpdateScript) (parent : Option (Option ℤ)) (targets : Option (List ℕ)) (r : ScriptRow) :
    ScriptRow :=
  { r with
    parentScriptId := parent.getD r.parentScriptId
    targetTenantIds := targets.getD r.targetTenantIds
    columns := r.columns.updated data.columns }

/-- The value bound for the parent: `some none` leaves the column, `none` is an error. -/
def boundParent (parentScriptId : JsVal) : Option (Option (Option ℤ)) :=
  if parentScriptId = .undefined then some none else (bindInt4 parentScriptId).map some

/-- `UPDATE scripts SET … WHERE id = ? AND …`, `none` when it is refused. -/
def updateWhere (db : ScriptDb) (id : ℤ) (own : ScriptRow → Bool) (data : UpdateScript)
    (targets : Option (List ℕ)) : Option ScriptDb :=
  (boundParent data.parentScriptId).bind fun parent =>
    match (db.script id).filter own with
    | none => some db
    | some r =>
        let row := updatedRow data parent targets r
        if pg.acceptsRow row && row.parentScriptId.all fun p => (db.script p).isSome then
          some { db with scripts := modify ScriptRow.id db.scripts id (updatedRow data parent targets) }
        else none

/-- A reference as it is read from a row. -/
def reference : Option ℤ → JsVal
  | none => .null
  | some p => .num p

/-- The loop of `_isDescendant`. -/
def ascend (db : ScriptDb) (id : ℤ) (tenantId : ℕ) : ℕ → List JsVal → JsVal → Option (Except ScriptError Bool)
  | 0, _, _ => none
  | fuel + 1, seen, cursor =>
      if cursor = .null ∨ cursor = .undefined then some (.ok false)
      else if cursor = .num id then some (.ok true)
      else if cursor ∈ seen then some (.ok false)
      else match bindInt4 cursor with
        | some (some v) => ascend db id tenantId fuel (JsSet.add seen cursor) (reference (db.visibleParent tenantId v))
        | some none | none => some (.error .database)

/-- `_isDescendant`; it always ends (`isDescendant_isSome`). -/
def isDescendant (db : ScriptDb) (id : ℤ) (candidateId : JsVal) (tenantId : ℕ) : Option (Except ScriptError Bool) :=
  ascend db id tenantId (db.scripts.length + 3) [] candidateId

/-- The checks of `updateScript` before it writes a parent. -/
def checkParent (db : ScriptDb) (id : ℤ) (tenantId : ℕ) (parentScriptId : JsVal) : Option ScriptError :=
  if parentScriptId = .undefined ∨ parentScriptId = .null then none
  else if parentScriptId = .num id then some .ownParent
  else match isDescendant db id parentScriptId tenantId with
    | some (.ok false) => none
    | some (.ok true) => some .underDescendant
    | some (.error e) => some e
    | none => some .database

def ownedBy (tenantId : ℕ) (r : ScriptRow) : Bool := decide (r.tenantId = some tenantId)

def updateScript (db : ScriptDb) (id : ℤ) (tenantId : ℕ) (data : UpdateScript) :
    Except ScriptError (Option ScriptRow) × ScriptDb :=
  match checkParent db id tenantId data.parentScriptId with
  | some e => (.error e, db)
  | none =>
      -- only the master tenant fans a script out
      let targets := if isMasterTenant tenantId then data.targetTenantIds else none
      match updateWhere pg db id (ownedBy tenantId) data targets with
      | none => (.error .database, db)
      | some db => (.ok (getScriptById db id tenantId), db)

/-- There is no check of the parent here. -/
def updateSystemScript (db : ScriptDb) (id : ℤ) (data : UpdateScript) :
    Except ScriptError (Option ScriptRow) × ScriptDb :=
  match updateWhere pg db id ScriptRow.isBuiltin data none with
  | none => (.error .database, db)
  | some db => (.ok (db.script id), db)

/-- `DELETE FROM scripts WHERE …`, with the key's action on the children. -/
def deleteScript (db : ScriptDb) (id : ℤ) (tenantId : ℕ) : ScriptDb :=
  if (db.script id).any fun r => ownedBy tenantId r && !r.isBuiltin then
    { db with scripts := (remove ScriptRow.id db.scripts id).map fun r =>
        if r.parentScriptId = some id then { r with parentScriptId := none } else r }
  else db

end Writers

/-! ## The walk -/

section Walk
variable {db : ScriptDb} {id c v : ℤ} {tenantId : ℕ} {seen : List JsVal} {candidateId : JsVal}

theorem visibleParent_eq_some {d q : ℤ} (h : db.visibleParent tenantId d = some q) : db.parent d = some q := by
  obtain ⟨r, hr, hq⟩ := Option.bind_eq_some_iff.1 h
  rw [ScriptDb.parent, (Option.filter_eq_some_iff.1 hr).1, Option.bind_some, hq]

theorem bindInt4_num_eq (h : bindInt4 (.num c) = some (some v)) : v = c := by
  rw [bindInt4] at h
  split_ifs at h
  exact (Option.some.inj (Option.some.inj h)).symm

theorem bindInt4_num (h0 : 0 < c) (hc : c ≤ int4Max) : bindInt4 (.num c) = some (some c) := by
  have hrange : (c : ℚ).den = 1 ∧ -int4Max - 1 ≤ (c : ℚ).num ∧ (c : ℚ).num ≤ int4Max := by
    refine ⟨Rat.den_intCast c, ?_, ?_⟩
    · rw [Rat.num_intCast, int4Max]
      omega
    · rw [Rat.num_intCast]
      exact hc
  rw [bindInt4, if_pos hrange, Rat.num_intCast]

theorem not_null_of_bound (h : bindInt4 candidateId = some (some v)) :
    ¬ (candidateId = .null ∨ candidateId = .undefined) := by
  rintro (rfl | rfl) <;> cases h

/-- The scripts the walk has not passed. -/
def unseen (db : ScriptDb) (seen : List JsVal) : List ScriptRow :=
  db.scripts.filter fun r => JsVal.num r.id ∉ seen

theorem unseen_add (seen : List JsVal) (cursor : JsVal) :
    unseen db (JsSet.add seen cursor) = (unseen db seen).filter fun r => JsVal.num r.id ≠ cursor := by
  rw [unseen, unseen, List.filter_filter]
  apply List.filter_congr
  intro r _
  simp [not_or, and_comm]

theorem unseen_lt {r : ScriptRow} (hr : r ∈ db.scripts) (hnew : JsVal.num r.id ∉ seen) :
    (unseen db (JsSet.add seen (.num r.id))).length < (unseen db seen).length := by
  rw [unseen_add, List.length_filter_lt_length_iff_exists]
  exact ⟨r, List.mem_filter.2 ⟨hr, by simpa using hnew⟩, by simp⟩

theorem ascend_null {fuel : ℕ} (hfuel : 0 < fuel) : ascend db id tenantId fuel seen .null = some (.ok false) := by
  obtain ⟨fuel, rfl⟩ := Nat.exists_eq_add_of_lt hfuel
  rw [Nat.zero_add, ascend, if_pos (.inl rfl)]

/-- Each turn but the last passes another script. -/
theorem ascend_isSome {fuel : ℕ} (hfuel : (unseen db seen).length + 1 < fuel) :
    (ascend db id tenantId fuel seen (.num c)).isSome := by
  induction fuel generalizing seen c with
  | zero => exact absurd hfuel (Nat.not_lt_zero _)
  | succ fuel ih =>
      rw [ascend]
      have hnull : ¬ (JsVal.num (c : ℚ) = .null ∨ JsVal.num (c : ℚ) = .undefined) := by simp
      rw [if_neg hnull]
      split_ifs with hid hseen
      · rfl
      · rfl
      · split
        · rename_i v hv
          obtain rfl := bindInt4_num_eq hv
          cases hp : db.visibleParent tenantId v with
          | none =>
              rw [reference, ascend_null (by omega)]
              rfl
          | some p =>
              obtain ⟨r, hr, -⟩ := Option.bind_eq_some_iff.1 (visibleParent_eq_some hp)
              obtain rfl := key_of_get hr
              have hless := unseen_lt (mem_of_get hr) hseen
              exact ih (by omega)
        · rfl
        · rfl

variable (db id tenantId candidateId) in
/-- **The walk ends**, whatever the parents are. -/
theorem isDescendant_isSome : (isDescendant db id candidateId tenantId).isSome := by
  rw [isDescendant, ascend]
  split_ifs with hnull hid hseen
  · rfl
  · rfl
  · rfl
  · split
    · rename_i v hv
      cases hp : db.visibleParent tenantId v with
      | none =>
          rw [reference, ascend_null (by omega)]
          rfl
      | some p =>
          have hle : (unseen db (JsSet.add [] candidateId)).length ≤ db.scripts.length :=
            List.length_filter_le _ _
          exact ascend_isSome (by omega)
    · rfl
    · rfl

theorem ScriptDb.Schema.parent_bound (hs : db.Schema) {d p : ℤ} (hp : db.parent d = some p) :
    bindInt4 (.num p) = some (some p) := by
  obtain ⟨r, hr, hpr⟩ := Option.bind_eq_some_iff.1 hp
  obtain ⟨r', hr', rfl⟩ := get_isSome_iff.1 (hs.parents r (mem_of_get hr) p hpr)
  have hused := hs.idsUsed r' hr'
  have hle := hs.nextId_le
  exact bindInt4_num hused.1 (by omega)

/-- Where no cycle is, the walk finds the script exactly when it is above the start, all below it being
visible. -/
theorem ascend_num (hs : db.Schema) (ha : Acyclic db.parent) {fuel : ℕ} {r : Except ScriptError Bool}
    (hc : bindInt4 (.num c) = some (some c))
    (hseen : ∀ x : ℤ, JsVal.num x ∈ seen → ∃ k, up (db.visibleParent tenantId) (k + 1) x = some c)
    (h : ascend db id tenantId fuel seen (.num c) = some r) :
    ∃ b, r = .ok b ∧ (b = true ↔ Under (db.visibleParent tenantId) id c) := by
  have hvis : Acyclic (db.visibleParent tenantId) := ha.mono fun _ _ => visibleParent_eq_some
  induction fuel generalizing seen c with
  | zero => cases h
  | succ fuel ih =>
      have hnew : JsVal.num c ∉ seen := fun hmem => by
        obtain ⟨k, hk⟩ := hseen c hmem
        exact hvis c k hk
      rw [ascend, if_neg (not_null_of_bound hc)] at h
      by_cases hid : JsVal.num (c : ℚ) = .num id
      · rw [if_pos hid] at h
        have hcid : c = id := by simpa using hid
        exact ⟨true, (Option.some.inj h).symm, iff_of_true rfl ⟨0, congrArg some hcid⟩⟩
      · rw [if_neg hid, if_neg hnew, hc] at h
        dsimp only at h
        have hne : c ≠ id := fun e => hid (by rw [e])
        cases hp : db.visibleParent tenantId c with
        | none =>
            have hfuel : 0 < fuel := by
              cases fuel with
              | zero => cases h
              | succ fuel => exact Nat.succ_pos fuel
            rw [hp, reference, ascend_null hfuel] at h
            refine ⟨false, (Option.some.inj h).symm, iff_of_false Bool.false_ne_true ?_⟩
            rintro ⟨k, hk⟩
            cases k with
            | zero => exact hne (Option.some.inj hk)
            | succ k =>
                rw [up_succ_of_root hp] at hk
                cases hk
        | some p =>
            rw [hp, reference] at h
            obtain ⟨b, hr, hb⟩ := ih (hs.parent_bound (visibleParent_eq_some hp)) (fun x hx => by
              rcases JsSet.mem_add.1 hx with hx | hx
              · obtain ⟨k, hk⟩ := hseen x hx
                exact ⟨k + 1, by rw [up_add_of hk, up_succ_of_parent hp, up_zero]⟩
              · obtain rfl : x = c := by simpa using hx
                exact ⟨0, by rw [up_succ_of_parent hp, up_zero]⟩) h
            refine ⟨b, hr, hb.trans ⟨?_, ?_⟩⟩
            · rintro ⟨k, hk⟩
              exact ⟨k + 1, by rw [up_succ_of_parent hp, hk]⟩
            · rintro ⟨k, hk⟩
              cases k with
              | zero => exact absurd (Option.some.inj hk) hne
              | succ k => exact ⟨k, by rw [← up_succ_of_parent hp, hk]⟩

variable (tenantId) in
/-- **`_isDescendant`** in a table without cycles, for a candidate that is read as `v`. -/
theorem isDescendant_spec (hs : db.Schema) (ha : Acyclic db.parent) (hv : bindInt4 candidateId = some (some v))
    (hid : candidateId ≠ .num id) :
    ∃ b, isDescendant db id candidateId tenantId = some (.ok b) ∧
      (b = true ↔ ∃ k, up (db.visibleParent tenantId) (k + 1) v = some id) := by
  obtain ⟨r, hr⟩ := Option.isSome_iff_exists.1 (isDescendant_isSome db id tenantId candidateId)
  have hwalk := hr
  rw [isDescendant, ascend, if_neg (not_null_of_bound hv), if_neg hid, if_neg List.not_mem_nil, hv] at hwalk
  dsimp only at hwalk
  cases hp : db.visibleParent tenantId v with
  | none =>
      rw [hp, reference, ascend_null (by omega)] at hwalk
      refine ⟨false, hr.trans hwalk.symm, iff_of_false Bool.false_ne_true ?_⟩
      rintro ⟨k, hk⟩
      rw [up_succ_of_root hp] at hk
      cases hk
  | some p =>
      rw [hp, reference] at hwalk
      obtain ⟨b, rfl, hb⟩ := ascend_num hs ha (hs.parent_bound (visibleParent_eq_some hp)) (fun x hx => by
        rcases JsSet.mem_add.1 hx with hx | hx
        · exact absurd hx List.not_mem_nil
        · rw [← hx] at hv
          obtain rfl := bindInt4_num_eq hv
          exact ⟨0, by rw [up_succ_of_parent hp, up_zero]⟩) hwalk
      refine ⟨b, hr, hb.trans (exists_congr fun k => ?_)⟩
      rw [up_succ_of_parent hp]

end Walk

end Obliance.Scripts
