import Mathlib.Data.List.Nodup
import Obliance.Js.Value
import Obliance.Lib.KeyedTable
import Obliance.Lib.ParentForest

/-!
# `device_groups` and `device_group_closure` (`db/migrations/001_initial_schema.ts`)

The two tables with their keys: `parent_id` is ON DELETE SET NULL, closure rows are ON DELETE
CASCADE and have the primary key (ancestor, descendant). A statement that violates a key fails.

* `insertGroup`, `insertClosure`, `setParent`, `deleteGroup` : the statements;
* `Schema` : what the keys enforce; every statement keeps it;
* `Exact` : the closure table is the transitive closure of `parent_id`.
-/

namespace Obliance.Groups
open Obliance.Js KeyedTable ParentForest

/-- The columns no other table depends on, as they are bound to a statement. -/
structure GroupColumns where
  name : JsVal
  description : JsVal
  sortOrder : JsVal
  groupNotifications : JsVal
  groupConfig : JsVal
  deriving DecidableEq, Repr

structure GroupRow where
  id : ℕ
  tenantId : ℕ
  parentId : Option ℕ
  slug : String
  uuid : String
  columns : GroupColumns
  deriving DecidableEq, Repr

/-- The values of an `INSERT INTO device_groups`. -/
structure GroupDraft where
  tenantId : ℕ
  parentId : Option ℕ
  slug : String
  uuid : String
  columns : GroupColumns
  deriving DecidableEq, Repr

structure ClosureRow where
  ancestorId : ℕ
  descendantId : ℕ
  depth : ℕ
  deriving DecidableEq, Repr

def ClosureRow.pair (r : ClosureRow) : ℕ × ℕ := (r.ancestorId, r.descendantId)

structure GroupDb where
  groups : List GroupRow
  closure : List ClosureRow
  /-- The next value of the `id` sequence. -/
  nextId : ℕ
  deriving DecidableEq, Repr

/-- PostgreSQL's part: the text of a value bound to a `uuid` column, and whether the other columns,
the tenant key and the slug of a row pass the types, lengths and keys of the table. -/
structure Pg where
  uuidIn : JsVal → Option String
  acceptsColumns : GroupColumns → Bool
  acceptsOwner : ℕ → String → Bool

variable (pg : Pg)

def GroupDb.group (db : GroupDb) (id : ℕ) : Option GroupRow := get GroupRow.id db.groups id

/-- `INSERT INTO device_groups … RETURNING *`. A refused row may still consume an id. -/
def insertGroup (db : GroupDb) (d : GroupDraft) : Option GroupRow × GroupDb :=
  if !(pg.acceptsColumns d.columns && pg.acceptsOwner d.tenantId d.slug) then (none, db)
  else
    let row : GroupRow := ⟨db.nextId, d.tenantId, d.parentId, d.slug, d.uuid, d.columns⟩
    let parentOk := d.parentId.all fun p => decide (p = db.nextId) || (db.group p).isSome
    let uuidOk := db.groups.all fun g => decide (g.uuid ≠ d.uuid)
    let slugOk := db.groups.all fun g => !(decide (g.slug = d.slug) && decide (g.tenantId = d.tenantId))
    if parentOk && uuidOk && slugOk then
      (some row, { db with groups := db.groups ++ [row], nextId := db.nextId + 1 })
    else (none, { db with nextId := db.nextId + 1 })

/-- `INSERT INTO device_group_closure`, refused as a whole when a key is violated. -/
def insertClosure (db : GroupDb) (rows : List ClosureRow) : Option GroupDb :=
  if ((db.closure ++ rows).map ClosureRow.pair).Nodup ∧
      ∀ r ∈ rows, (db.group r.ancestorId).isSome ∧ (db.group r.descendantId).isSome then
    some { db with closure := db.closure ++ rows }
  else none

/-- `UPDATE device_groups SET parent_id = ? WHERE id = ?` -/
def setParent (db : GroupDb) (id : ℕ) (parentId : Option ℕ) : Option GroupDb :=
  if parentId.all fun p => (db.group p).isSome then
    some { db with groups := modify GroupRow.id db.groups id fun g => { g with parentId := parentId } }
  else none

/-- `DELETE FROM device_groups WHERE id = ?` with the two foreign key actions. -/
def deleteGroup (db : GroupDb) (id : ℕ) : GroupDb :=
  { db with
    groups := (remove GroupRow.id db.groups id).map fun g =>
      if g.parentId = some id then { g with parentId := none } else g
    closure := db.closure.filter fun r => r.ancestorId ≠ id ∧ r.descendantId ≠ id }

/-! ## The parent relation and the closure relation of the tables -/

namespace GroupDb
variable (db : GroupDb)

def Mem (d : ℕ) : Prop := (db.group d).isSome = true

/-- `parent_id` -/
def parent (d : ℕ) : Option ℕ := (db.group d).bind GroupRow.parentId

def InClosure (a d k : ℕ) : Prop := (⟨a, d, k⟩ : ClosureRow) ∈ db.closure

/-- What the keys of the two tables enforce. -/
structure Schema : Prop where
  nextPos : 0 < db.nextId
  ids : Keyed GroupRow.id db.groups
  idsUsed : ∀ g ∈ db.groups, 0 < g.id ∧ g.id < db.nextId
  parents : ∀ g ∈ db.groups, ∀ p, g.parentId = some p → db.Mem p
  pairs : Keyed ClosureRow.pair db.closure

/-- The closure table holds `(a, d, k)` exactly when `a` is `k` parents above the group `d`. -/
def Exact : Prop := IsClosure db.Mem db.parent db.InClosure

variable {db}

theorem mem_iff {d : ℕ} : db.Mem d ↔ ∃ g ∈ db.groups, g.id = d := get_isSome_iff

theorem Schema.closed (h : db.Schema) : Closed db.Mem db.parent := by
  constructor
  · intro d p hp
    obtain ⟨g, hg, hgp⟩ := Option.bind_eq_some_iff.1 hp
    exact h.parents g (mem_of_get hg) p hgp
  · intro d p hp
    obtain ⟨g, hg, -⟩ := Option.bind_eq_some_iff.1 hp
    rw [Mem, hg]
    rfl

theorem Schema.lt_nextId (h : db.Schema) {d : ℕ} (hd : db.Mem d) : 0 < d ∧ d < db.nextId := by
  obtain ⟨g, hg, rfl⟩ := mem_iff.1 hd
  exact h.idsUsed g hg

theorem Schema.group_nextId (h : db.Schema) : db.group db.nextId = none :=
  get_eq_none_iff.2 fun g hg => (h.idsUsed g hg).2.ne

theorem Schema.depth_unique (h : db.Schema) {a d j k : ℕ} (hj : db.InClosure a d j)
    (hk : db.InClosure a d k) : j = k := by
  have := h.pairs.eq_of_key hj hk rfl
  simpa using this

/-- The primary key of the closure table makes an exact closure acyclic. -/
theorem Schema.acyclic (h : db.Schema) (he : db.Exact) : Acyclic db.parent :=
  he.acyclic h.closed fun _ _ _ _ => h.depth_unique

theorem Exact.mem_descendant (he : db.Exact) {a d k : ℕ} (h : db.InClosure a d k) : db.Mem d :=
  ((he a d k).1 h).1

theorem Exact.mem_ancestor (he : db.Exact) (h : db.Schema) {a d k : ℕ} (hC : db.InClosure a d k) :
    db.Mem a :=
  h.closed.mem_of_up ((he a d k).1 hC).1 ((he a d k).1 hC).2

/-- A closure row exists for `(x, d)` exactly when `d` is in the subtree of `x`. -/
theorem Exact.under_iff (he : db.Exact) {x d : ℕ} (hd : db.Mem d) :
    Under db.parent x d ↔ ∃ k, db.InClosure x d k :=
  exists_congr fun k => by rw [he x d k]; exact ⟨fun h => ⟨hd, h⟩, And.right⟩

end GroupDb

end Obliance.Groups
