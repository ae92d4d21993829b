import Obliance.Lib.GuardedRun
import Obliance.Scripts.Library

/-!
# The tree of the script library

* `acyclic_create_iff`, `acyclic_update_iff`, `acyclic_updateScript_iff`, `acyclic_delete` : when a writer leaves
  the parents without a cycle;
* `KeepsTree` : the calls that do so;
* `stays_acyclic_iff` : a sequence of calls passes through trees exactly when all of its calls keep one.
-/

namespace Obliance.Scripts
open Obliance.Js Obliance.Db KeyedTable ParentForest GuardedRun
open Obliance.Schedules (bindInt4)

variable (pg : Pg)

/-! ## The calls -/

inductive ScriptOp where
  | createScript (tenantId : ℕ) (data : CreateScript)
  | updateScript (id : ℤ) (tenantId : ℕ) (data : UpdateScript)
  | updateSystemScript (id : ℤ) (data : UpdateScript)
  | deleteScript (id : ℤ) (tenantId : ℕ)
  deriving DecidableEq, Repr

def applyOp (db : ScriptDb) : ScriptOp → ScriptDb
  | .createScript tenantId data => (createScript pg db tenantId data).2
  | .updateScript id tenantId data => (updateScript pg db id tenantId data).2
  | .updateSystemScript id data => (updateSystemScript pg db id data).2
  | .deleteScript id tenantId => deleteScript db id tenantId

def scriptMachine : Machine ScriptDb ScriptOp := ⟨(· = noScripts), fun db op => some (applyOp pg db op)⟩

/-- The update finds its row, and the database takes what it makes of it. -/
def Writes (db : ScriptDb) (id : ℤ) (own : ScriptRow → Bool) (data : UpdateScript) (targets : Option (List ℕ))
    (parent : Option ℤ) : Prop :=
  ∃ r, (db.script id).filter own = some r ∧ pg.acceptsRow (updatedRow data (some parent) targets r) = true

/-- The check of `updateScript` sees that `v` is the script or below it: it is given as the number, or the
tenant sees every script on the way up to it. -/
def CheckSees (db : ScriptDb) (id : ℤ) (tenantId : ℕ) (parentScriptId : JsVal) (v : ℤ) : Prop :=
  parentScriptId = .num id ∨ ∃ k, up (db.visibleParent tenantId) (k + 1) v = some id

/-- **The calls that keep a tree a tree.** -/
def KeepsTree (db : ScriptDb) : ScriptOp → Prop
  | .createScript tenantId data =>
      bindInt4 (data.parentScriptId.orElse .null) = some (some db.nextId) → db.nextId ≤ int4Max →
        pg.acceptsRow (newRow db tenantId data (some db.nextId)) = false
  | .updateScript id tenantId data => ∀ v, bindInt4 data.parentScriptId = some (some v) →
      Writes pg db id (ownedBy tenantId) data
        (if Remote.isMasterTenant tenantId then data.targetTenantIds else none) (some v) →
      Under db.parent id v → CheckSees db id tenantId data.parentScriptId v
  | .updateSystemScript id data => ∀ v, bindInt4 data.parentScriptId = some (some v) →
      Writes pg db id ScriptRow.isBuiltin data none (some v) → ¬ Under db.parent id v
  | .deleteScript _ _ => True

variable {pg} {db : ScriptDb}

namespace ScriptDb

theorem Schema.closed (hs : db.Schema) : Closed (fun d => (db.script d).isSome = true) db.parent where
  parent_mem hp := by
    obtain ⟨r, hr, hpr⟩ := Option.bind_eq_some_iff.1 hp
    exact hs.parents r (mem_of_get hr) _ hpr
  of_parent hp := by
    obtain ⟨r, hr, -⟩ := Option.bind_eq_some_iff.1 hp
    rw [hr]
    rfl

theorem Schema.script_nextId (hs : db.Schema) : db.script db.nextId = none :=
  get_eq_none_iff.2 fun r hr => (hs.idsUsed r hr).2.ne

/-- What has a script above it is a script. -/
theorem Schema.mem_of_under (hs : db.Schema) {x v : ℤ} (hx : (db.script x).isSome) (h : Under db.parent x v) :
    (db.script v).isSome := by
  obtain ⟨k, hk⟩ := h
  cases k with
  | zero =>
      obtain rfl := Option.some.inj hk
      exact hx
  | succ k =>
      cases hp : db.parent v with
      | none =>
          rw [up_succ_of_root hp] at hk
          cases hk
      | some p => exact hs.closed.of_parent hp

end ScriptDb

/-! ## New scripts -/

section Create
variable {row row' : ScriptRow} {db' : ScriptDb} {tenantId : ℕ} {data : CreateScript}

theorem insertScript_cases (h : insertScript pg db row = (none, db')) :
    db'.scripts = db.scripts ∧ db.nextId ≤ db'.nextId ∧ (db.nextId ≤ int4Max + 1 → db'.nextId ≤ int4Max + 1) := by
  unfold insertScript at h
  split_ifs at h with hmax hok
  · cases h
  · obtain rfl := (Prod.mk.inj h).2
    exact ⟨rfl, by simp, fun _ => by simpa using hmax⟩
  · obtain rfl := (Prod.mk.inj h).2
    exact ⟨rfl, le_rfl, id⟩

theorem insertScript_some (h : insertScript pg db row = (some row', db')) :
    db.nextId ≤ int4Max ∧ pg.acceptsRow row = true ∧
      (∀ p, row.parentScriptId = some p → p = row.id ∨ (db.script p).isSome) ∧
      db' = { db with scripts := db.scripts ++ [row], nextId := db.nextId + 1 } := by
  unfold insertScript at h
  split_ifs at h with hmax hok
  · obtain rfl := (Prod.mk.inj h).2
    rw [Bool.and_eq_true] at hok
    refine ⟨hmax, hok.1, fun p hp => ?_, rfl⟩
    have hparent := hok.2
    rw [hp] at hparent
    simpa using hparent
  · cases h
  · cases h

theorem parent_append (hs : db.Schema) (hrow : row.id = db.nextId) (d n : ℤ) :
    (⟨db.scripts ++ [row], n⟩ : ScriptDb).parent d = if d = db.nextId then row.parentScriptId else db.parent d := by
  have hfresh : get ScriptRow.id db.scripts row.id = none := by
    rw [hrow]
    exact hs.script_nextId
  rw [ScriptDb.parent, ScriptDb.script, get_append_fresh hfresh, hrow]
  split_ifs
  · rfl
  · rfl

theorem schema_append (hs : db.Schema) (hrow : row.id = db.nextId) (hmax : db.nextId ≤ int4Max)
    (hparent : ∀ p, row.parentScriptId = some p → p = row.id ∨ (db.script p).isSome) :
    (⟨db.scripts ++ [row], db.nextId + 1⟩ : ScriptDb).Schema := by
  have hfresh : get ScriptRow.id db.scripts row.id = none := by
    rw [hrow]
    exact hs.script_nextId
  have hkept : ∀ p, (db.script p).isSome → ((⟨db.scripts ++ [row], db.nextId + 1⟩ : ScriptDb).script p).isSome := by
    intro p hp
    rw [ScriptDb.script, get_append_fresh hfresh]
    split_ifs
    · rfl
    · exact hp
  refine ⟨nodup_append hs.ids hfresh, ?_, by simpa using hmax, by have := hs.nextPos; simp only; omega, ?_⟩
  · intro r hr
    rcases List.mem_append.1 hr with hr | hr
    · exact ⟨(hs.idsUsed r hr).1, (hs.idsUsed r hr).2.trans (lt_add_one _)⟩
    · obtain rfl := List.mem_singleton.1 hr
      rw [hrow]
      exact ⟨hs.nextPos, lt_add_one _⟩
  · intro r hr p hp
    rcases List.mem_append.1 hr with hr | hr
    · exact hkept p (hs.parents r hr p hp)
    · obtain rfl := List.mem_singleton.1 hr
      rcases hparent p hp with rfl | hmem
      · rw [ScriptDb.script, get_append_fresh hfresh, if_pos rfl]
        rfl
      · exact hkept p hmem

/-- Other sequence values do not matter to the parents. -/
theorem schema_of_scripts (hs : db.Schema) (hscripts : db'.scripts = db.scripts) (hle : db.nextId ≤ db'.nextId)
    (hmax : db'.nextId ≤ int4Max + 1) : db'.Schema := by
  obtain ⟨scripts, nextId⟩ := db'
  dsimp only at hscripts hle hmax
  subst hscripts
  exact ⟨hs.ids, fun r hr => ⟨(hs.idsUsed r hr).1, (hs.idsUsed r hr).2.trans_le hle⟩, hmax, hs.nextPos.trans_le hle,
    hs.parents⟩

variable (pg tenantId data) in
/-- What a call of `createScript` leaves: the same scripts, or one more. -/
theorem createScript_cases (hs : db.Schema) :
    ((createScript pg db tenantId data).2.scripts = db.scripts ∧ (createScript pg db tenantId data).2.Schema ∧
        ∀ parent, bindInt4 (data.parentScriptId.orElse .null) = some parent →
          (insertScript pg db (newRow db tenantId data parent)).1 = none) ∨
      ∃ parent, bindInt4 (data.parentScriptId.orElse .null) = some parent ∧ db.nextId ≤ int4Max ∧
        pg.acceptsRow (newRow db tenantId data parent) = true ∧
        (∀ p, parent = some p → p = db.nextId ∨ (db.script p).isSome) ∧
        (createScript pg db tenantId data).2 =
          ⟨db.scripts ++ [newRow db tenantId data parent], db.nextId + 1⟩ := by
  unfold createScript
  cases hbind : bindInt4 (data.parentScriptId.orElse .null) with
  | none => exact .inl ⟨rfl, hs, fun parent h => by cases h⟩
  | some parent =>
      dsimp only
      cases hinsert : insertScript pg db (newRow db tenantId data parent) with
      | mk inserted db' =>
          cases inserted with
          | none =>
              obtain ⟨hscripts, hle, hmax⟩ := insertScript_cases hinsert
              refine .inl ⟨hscripts, schema_of_scripts hs hscripts hle (hmax hs.nextId_le), ?_⟩
              rintro parent ⟨⟩
              rw [hinsert]
          | some row =>
              obtain ⟨hmax, haccepts, hparent, rfl⟩ := insertScript_some hinsert
              refine .inr ⟨parent, rfl, hmax, haccepts, hparent, ?_⟩
              dsimp only
              split_ifs <;> rfl

theorem schema_createScript (hs : db.Schema) : (createScript pg db tenantId data).2.Schema := by
  rcases createScript_cases pg tenantId data hs with
    ⟨-, h, -⟩ | ⟨parent, -, hmax, -, hparent, h⟩
  · exact h
  · rw [h]
    exact schema_append hs rfl hmax hparent

/-- A new script closes a cycle exactly when it is its own parent. -/
theorem acyclic_create_iff (hs : db.Schema) (ha : Acyclic db.parent) :
    Acyclic (createScript pg db tenantId data).2.parent ↔ KeepsTree pg db (.createScript tenantId data) := by
  rcases createScript_cases pg tenantId data hs with
    ⟨hscripts, -, hnone⟩ | ⟨parent, hbind, hmax, haccepts, hparent, h⟩
  · have hsame : (createScript pg db tenantId data).2.parent = db.parent := by
      funext d
      rw [ScriptDb.parent, ScriptDb.script, hscripts]
      rfl
    rw [hsame]
    refine iff_of_true ha fun hself hle => ?_
    have hrefused := hnone _ hself
    unfold insertScript at hrefused
    rw [if_pos hle] at hrefused
    by_contra hok
    rw [Bool.not_eq_false] at hok
    have hfits : (pg.acceptsRow (newRow db tenantId data (some db.nextId)) &&
        (newRow db tenantId data (some db.nextId)).parentScriptId.all fun p =>
          decide (p = (newRow db tenantId data (some db.nextId)).id) || (db.script p).isSome) = true := by
      rw [hok]
      simp [newRow]
    rw [if_pos hfits] at hrefused
    cases hrefused
  · rw [h, ha.move_iff (x := db.nextId) (p := parent)
      (fun d hd => by rw [parent_append hs rfl, if_neg hd]) (by rw [parent_append hs rfl, if_pos rfl]; rfl)]
    have hunder : ∀ q, Under db.parent db.nextId q ↔ q = db.nextId := by
      intro q
      constructor
      · rintro ⟨k, hk⟩
        by_contra hne
        have hq : (db.script q).isSome := by
          cases k with
          | zero => exact absurd (Option.some.inj hk) hne
          | succ k =>
              cases hp : db.parent q with
              | none =>
                  rw [up_succ_of_root hp] at hk
                  cases hk
              | some p => exact hs.closed.of_parent hp
        have hnext := hs.closed.mem_of_up hq hk
        rw [hs.script_nextId] at hnext
        cases hnext
      · rintro rfl
        exact ⟨0, rfl⟩
    simp only [hunder]
    constructor
    · intro hne hself _
      rw [hbind] at hself
      exact absurd rfl (hne _ (Option.some.inj hself))
    · rintro hkeeps q rfl rfl
      rw [hkeeps hbind hmax] at haccepts
      cases haccepts

end Create

/-! ## Updates -/

section Update
variable {id v : ℤ} {own : ScriptRow → Bool} {data : UpdateScript} {targets : Option (List ℕ)} {tenantId : ℕ}

/-- What an update leaves in the table. -/
def afterUpdate (pg : Pg) (db : ScriptDb) (id : ℤ) (own : ScriptRow → Bool) (data : UpdateScript)
    (targets : Option (List ℕ)) : ScriptDb :=
  (updateWhere pg db id own data targets).getD db

variable (pg db id own data targets) in
/-- The table is left alone, or the row of the script is written. -/
theorem afterUpdate_cases :
    (afterUpdate pg db id own data targets = db ∧ ∀ v, bindInt4 data.parentScriptId = some (some v) →
        (db.script v).isSome → ¬ Writes pg db id own data targets (some v)) ∨
      ∃ parent r, boundParent data.parentScriptId = some parent ∧ (db.script id).filter own = some r ∧
        pg.acceptsRow (updatedRow data parent targets r) = true ∧
        (∀ p, (updatedRow data parent targets r).parentScriptId = some p → (db.script p).isSome) ∧
        afterUpdate pg db id own data targets =
          { db with scripts := modify ScriptRow.id db.scripts id (updatedRow data parent targets) } := by
  have hbound : ∀ v, bindInt4 data.parentScriptId = some (some v) →
      boundParent data.parentScriptId = some (some (some v)) := by
    intro v hv
    rw [boundParent, if_neg fun h => not_null_of_bound hv (.inr h), hv]
    rfl
  unfold afterUpdate updateWhere
  cases hparent : boundParent data.parentScriptId with
  | none =>
      refine .inl ⟨rfl, fun v hv => ?_⟩
      rw [hbound v hv] at hparent
      cases hparent
  | some parent =>
      rw [Option.bind_some]
      cases hrow : (db.script id).filter own with
      | none =>
          refine .inl ⟨rfl, fun v _ _ => ?_⟩
          rintro ⟨r, hr, -⟩
          rw [hrow] at hr
          cases hr
      | some r =>
          dsimp only
          split_ifs with hok
          · rw [Bool.and_eq_true] at hok
            refine .inr ⟨parent, r, rfl, rfl, hok.1, fun p hp => ?_, rfl⟩
            simpa [hp] using hok.2
          · refine .inl ⟨rfl, fun v hv hmem => ?_⟩
            obtain rfl := Option.some.inj ((hbound v hv).symm.trans hparent)
            rintro ⟨r', hr', haccepts⟩
            obtain rfl := Option.some.inj (hrow.symm.trans hr')
            exact hok (by rw [haccepts]; simpa [updatedRow] using hmem)

theorem schema_afterUpdate (hs : db.Schema) : (afterUpdate pg db id own data targets).Schema := by
  rcases afterUpdate_cases pg db id own data targets with
    ⟨h, -⟩ | ⟨parent, r, -, hr, -, hparent, h⟩
  · rw [h]
    exact hs
  · rw [h]
    have hid : ∀ r, (updatedRow data parent targets r).id = r.id := fun _ => rfl
    have hkept : ∀ p, (db.script p).isSome →
        ((⟨modify ScriptRow.id db.scripts id (updatedRow data parent targets), db.nextId⟩ : ScriptDb).script p).isSome := by
      intro p hp
      rw [ScriptDb.script, get_modify hid, Option.isSome_map]
      exact hp
    refine ⟨nodup_modify hid hs.ids, fun r' hr' => ?_, hs.nextId_le, hs.nextPos, fun r' hr' p hp => ?_⟩
    · obtain ⟨r₀, hr₀, rfl⟩ := mem_modify.1 hr'
      rw [key_ite hid]
      exact hs.idsUsed r₀ hr₀
    · obtain ⟨r₀, hr₀, rfl⟩ := mem_modify.1 hr'
      refine hkept p ?_
      split_ifs at hp with hkey
      · have hsame : r₀ = r := by
          have hget := (Option.filter_eq_some_iff.1 hr).1
          exact hs.ids.eq_of_key hr₀ (mem_of_get hget) (hkey.trans (key_of_get hget).symm)
        exact hparent p (hsame ▸ hp)
      · exact hs.parents r₀ hr₀ p hp

/-- An update closes a cycle exactly when it writes a parent that is the script or below it. -/
theorem acyclic_update_iff (hs : db.Schema) (ha : Acyclic db.parent) :
    Acyclic (afterUpdate pg db id own data targets).parent ↔ ∀ v, bindInt4 data.parentScriptId = some (some v) →
      Writes pg db id own data targets (some v) → ¬ Under db.parent id v := by
  rcases afterUpdate_cases pg db id own data targets with
    ⟨h, hnot⟩ | ⟨parent, r, hbound, hr, haccepts, -, h⟩
  · rw [h]
    refine iff_of_true ha fun v hv hw hunder => ?_
    have hid : (db.script id).isSome := by
      obtain ⟨r, hr, -⟩ := hw
      rw [(Option.filter_eq_some_iff.1 hr).1]
      rfl
    exact hnot v hv (hs.mem_of_under hid hunder) hw
  · have hget := (Option.filter_eq_some_iff.1 hr).1
    have hid : ∀ r, (updatedRow data parent targets r).id = r.id := fun _ => rfl
    have hother : ∀ d, d ≠ id → (afterUpdate pg db id own data targets).parent d = db.parent d := by
      intro d hd
      rw [h, ScriptDb.parent, ScriptDb.script, get_modify_ne hid hd]
      rfl
    have hself : (afterUpdate pg db id own data targets).parent id = parent.getD r.parentScriptId := by
      rw [h, ScriptDb.parent, ScriptDb.script, get_modify_self hid, show get ScriptRow.id db.scripts id = some r from hget]
      rfl
    rw [ha.move_iff hother hself]
    unfold boundParent at hbound
    split_ifs at hbound with hundef
    · -- the column is not written
      obtain rfl := Option.some.inj hbound
      refine iff_of_true (fun q hq => ?_) fun v hv => absurd (.inr hundef) (not_null_of_bound hv)
      rintro ⟨k, hk⟩
      have hq : db.parent id = some q := by rw [ScriptDb.parent, hget, Option.bind_some, ← hq]; rfl
      exact ha id k (by rw [up_succ_of_parent hq, hk])
    · obtain ⟨p, hp, rfl⟩ := Option.map_eq_some_iff.1 hbound
      constructor
      · intro hnot v hv _
        exact hnot v (Option.some.inj (hp.symm.trans hv))
      · rintro hnot q rfl
        exact hnot q hp ⟨r, hr, haccepts⟩

theorem updateSystemScript_snd :
    (updateSystemScript pg db id data).2 = afterUpdate pg db id ScriptRow.isBuiltin data none := by
  unfold updateSystemScript afterUpdate
  cases updateWhere pg db id ScriptRow.isBuiltin data none with
  | none => rfl
  | some db' => rfl

theorem updateScript_snd : (updateScript pg db id tenantId data).2 =
    if (checkParent db id tenantId data.parentScriptId).isSome then db
    else afterUpdate pg db id (ownedBy tenantId) data
      (if Remote.isMasterTenant tenantId then data.targetTenantIds else none) := by
  unfold updateScript afterUpdate
  cases checkParent db id tenantId data.parentScriptId with
  | some e => rfl
  | none =>
      dsimp only
      cases updateWhere pg db id (ownedBy tenantId) data
        (if Remote.isMasterTenant tenantId then data.targetTenantIds else none) with
      | none => rfl
      | some db' => rfl

/-- The check refuses a parent exactly when it sees that it is the script or below it. -/
theorem checkParent_isSome_iff (hs : db.Schema) (ha : Acyclic db.parent) {parentScriptId : JsVal}
    (hv : bindInt4 parentScriptId = some (some v)) :
    (checkParent db id tenantId parentScriptId).isSome ↔ CheckSees db id tenantId parentScriptId v := by
  have hgiven : ¬ (parentScriptId = .undefined ∨ parentScriptId = .null) := fun h => not_null_of_bound hv h.symm
  unfold checkParent CheckSees
  rw [if_neg hgiven]
  by_cases hid : parentScriptId = .num id
  · rw [if_pos hid]
    exact iff_of_true rfl (.inl hid)
  · rw [if_neg hid]
    obtain ⟨b, hwalk, hb⟩ := isDescendant_spec tenantId hs ha hv hid
    rw [hwalk, or_iff_right hid, ← hb]
    cases b with
    | false => exact iff_of_false Bool.false_ne_true Bool.false_ne_true
    | true => exact iff_of_true rfl rfl

theorem acyclic_updateScript_iff (hs : db.Schema) (ha : Acyclic db.parent) :
    Acyclic (updateScript pg db id tenantId data).2.parent ↔ KeepsTree pg db (.updateScript id tenantId data) := by
  rw [updateScript_snd]
  by_cases hcheck : (checkParent db id tenantId data.parentScriptId).isSome
  · rw [if_pos hcheck]
    exact iff_of_true ha fun v hv _ _ => (checkParent_isSome_iff hs ha hv).1 hcheck
  · rw [if_neg hcheck, acyclic_update_iff hs ha]
    refine forall_congr' fun v => forall_congr' fun hv => forall_congr' fun _ => ?_
    have hblind : ¬ CheckSees db id tenantId data.parentScriptId v :=
      fun hsees => hcheck ((checkParent_isSome_iff hs ha hv).2 hsees)
    exact ⟨fun hnot hunder => absurd hunder hnot, fun h hunder => hblind (h hunder)⟩

end Update

/-! ## Deletions -/

section Delete
variable {id : ℤ} {tenantId : ℕ}

/-- The children of a deleted script become roots. -/
def orphan (id : ℤ) (r : ScriptRow) : ScriptRow :=
  if r.parentScriptId = some id then { r with parentScriptId := none } else r

theorem orphan_id (r : ScriptRow) : (orphan id r).id = r.id := by
  unfold orphan
  split_ifs <;> rfl

theorem orphan_parent {r : ScriptRow} {p : ℤ} (h : (orphan id r).parentScriptId = some p) :
    r.parentScriptId = some p ∧ p ≠ id := by
  unfold orphan at h
  split_ifs at h with hr
  · refine ⟨h, ?_⟩
    rintro rfl
    exact hr h

variable (db id tenantId) in
theorem deleteScript_cases : deleteScript db id tenantId = db ∨
    deleteScript db id tenantId = { db with scripts := (remove ScriptRow.id db.scripts id).map (orphan id) } := by
  unfold deleteScript
  split_ifs
  · exact .inr rfl
  · exact .inl rfl

theorem script_map_orphan (d : ℤ) :
    get ScriptRow.id ((remove ScriptRow.id db.scripts id).map (orphan id)) d =
      if d = id then none else (db.script d).map (orphan id) := by
  rw [get_map orphan_id]
  split_ifs with hd
  · rw [hd, get_remove_self]
    rfl
  · rw [get_remove_ne hd]
    rfl

theorem schema_deleteScript (hs : db.Schema) : (deleteScript db id tenantId).Schema := by
  rcases deleteScript_cases db id tenantId with h | h
  · rw [h]
    exact hs
  · rw [h]
    refine ⟨nodup_map orphan_id (nodup_remove hs.ids), fun r hr => ?_, hs.nextId_le, hs.nextPos, fun r hr p hp => ?_⟩
    · obtain ⟨r₀, hr₀, rfl⟩ := List.mem_map.1 hr
      rw [orphan_id]
      exact hs.idsUsed r₀ (mem_remove.1 hr₀).1
    · obtain ⟨r₀, hr₀, rfl⟩ := List.mem_map.1 hr
      obtain ⟨hp, hne⟩ := orphan_parent hp
      rw [ScriptDb.script, script_map_orphan, if_neg hne, Option.isSome_map]
      exact hs.parents r₀ (mem_remove.1 hr₀).1 p hp

theorem acyclic_delete (ha : Acyclic db.parent) : Acyclic (deleteScript db id tenantId).parent := by
  rcases deleteScript_cases db id tenantId with h | h
  · rw [h]
    exact ha
  · refine ha.mono fun d q hq => ?_
    rw [h, ScriptDb.parent, ScriptDb.script, script_map_orphan] at hq
    split_ifs at hq
    · cases hq
    · obtain ⟨r', hr', hq⟩ := Option.bind_eq_some_iff.1 hq
      obtain ⟨r, hr, rfl⟩ := Option.map_eq_some_iff.1 hr'
      rw [ScriptDb.parent, hr, Option.bind_some, (orphan_parent hq).1]

end Delete

/-! ## Sequences of calls -/

theorem schema_applyOp (hs : db.Schema) : ∀ op, (applyOp pg db op).Schema
  | .createScript _ _ => schema_createScript hs
  | .updateScript id tenantId data => by
      rw [applyOp, updateScript_snd]
      split_ifs
      · exact hs
      · exact schema_afterUpdate hs
      · exact schema_afterUpdate hs
  | .updateSystemScript _ _ => by
      rw [applyOp, updateSystemScript_snd]
      exact schema_afterUpdate hs
  | .deleteScript _ _ => schema_deleteScript hs

theorem acyclic_applyOp_iff (hs : db.Schema) (ha : Acyclic db.parent) :
    ∀ op, Acyclic (applyOp pg db op).parent ↔ KeepsTree pg db op
  | .createScript _ _ => acyclic_create_iff hs ha
  | .updateScript _ _ _ => acyclic_updateScript_iff hs ha
  | .updateSystemScript _ _ => by
      rw [applyOp, updateSystemScript_snd]
      exact acyclic_update_iff hs ha
  | .deleteScript _ _ => iff_of_true (acyclic_delete ha) trivial

/-- **The tree stays a tree** along a sequence of calls exactly when each call keeps it one. -/
theorem stays_acyclic_iff (hs : db.Schema) (ha : Acyclic db.parent) (ops : List ScriptOp) :
    (scriptMachine pg).Along (fun _ after => Acyclic after.parent) db ops ↔
      (scriptMachine pg).Admits (KeepsTree pg) db ops := by
  refine Machine.along_iff_admits_of (I := fun db => db.Schema ∧ Acyclic db.parent) ?_ ?_ ?_ ops db ⟨hs, ha⟩
  · intro s op h
    cases h
  · rintro s op t ⟨hs, ha⟩ h
    obtain rfl := Option.some.inj h
    exact acyclic_applyOp_iff hs ha op
  · rintro s op t ⟨hs, ha⟩ hok h
    obtain rfl := Option.some.inj h
    exact ⟨schema_applyOp hs op, (acyclic_applyOp_iff hs ha op).2 hok⟩

/-! ## Two tenants -/

theorem noScripts_schema : noScripts.Schema :=
  ⟨List.nodup_nil, fun _ h => absurd h List.not_mem_nil, by decide, by decide, fun _ h => absurd h List.not_mem_nil⟩

theorem noScripts_acyclic : Acyclic noScripts.parent := fun _ _ h => by cases h

def plainPg : Pg := ⟨fun _ => true, fun _ => true⟩

def plainColumns : ScriptColumns :=
  ⟨.undefined, .undefined, .undefined, .undefined, .undefined, .undefined, .undefined, .undefined, .undefined,
    .undefined, .undefined, .undefined, .undefined, .undefined⟩

def newScript : CreateScript := ⟨plainColumns, .undefined, [], .undefined⟩

def putUnder (parentScriptId : JsVal) : UpdateScript := ⟨plainColumns, parentScriptId, none⟩

/-- Two scripts of a tenant, the second put under the first. -/
theorem stays_acyclic_putUnder : (scriptMachine plainPg).Along (fun _ after => Acyclic after.parent) noScripts
    [.createScript 2 newScript, .createScript 2 newScript, .updateScript 2 2 (putUnder (.num 1))] := by
  refine (stays_acyclic_iff noScripts_schema noScripts_acyclic _).2
    ⟨fun hself => absurd hself (by decide), fun one hone => ?_⟩
  obtain rfl := Option.some.inj hone
  refine ⟨fun hself => absurd hself (by decide), fun two htwo => ?_⟩
  obtain rfl := Option.some.inj htwo
  refine ⟨fun v hv _ hunder => ?_, fun _ _ => trivial⟩
  obtain rfl : (1 : ℤ) = v := Option.some.inj (Option.some.inj (hv.symm.trans (by decide +kernel))).symm
  obtain ⟨k, hk⟩ := hunder
  cases k with
  | zero => exact absurd hk (by decide)
  | succ k =>
      rw [up_succ_of_root (by decide)] at hk
      cases hk

/-- Each tenant puts its script under the other's, which it does not see. -/
theorem two_tenants_close_cycle : ¬ ∀ ops after, (scriptMachine plainPg).exec noScripts ops = some after →
    Acyclic after.parent := by
  intro h
  have hrun : ∃ after, (scriptMachine plainPg).exec noScripts
      [.createScript 2 newScript, .createScript 3 newScript, .updateScript 1 2 (putUnder (.num 2)),
        .updateScript 2 3 (putUnder (.num 1))] = some after ∧ up after.parent 2 1 = some 1 :=
    ⟨_, rfl, by decide +kernel⟩
  obtain ⟨after, hexec, hcycle⟩ := hrun
  exact h _ after hexec 1 1 hcycle

end Obliance.Scripts
