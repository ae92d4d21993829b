import Obliance.Groups.Slug
import Obliance.Groups.Tables

/-!
# `groupService.create`, `move` and `delete` (`services/group.service.ts`)

The statements are not in a transaction: what a failing call wrote before it failed stays. Each
function returns its result or its error, with the tables afterwards.
-/

namespace Obliance.Groups
open Obliance.Js KeyedTable

inductive GroupError where
  | database
  | intoOwnDescendant
  | notText
  deriving DecidableEq, Repr

/-- `error.message` of the errors the services raise themselves. -/
def GroupError.message : GroupError → Option String
  | database => none
  | intoOwnDescendant => some "Cannot move group into its own descendant"
  | notText => none

structure CreateGroup where
  name : String
  description : JsVal
  parentId : Option ℕ
  sortOrder : JsVal
  groupNotifications : JsVal
  groupConfig : JsVal
  deriving DecidableEq, Repr

def CreateGroup.columns (data : CreateGroup) : GroupColumns where
  name := .str data.name
  description := data.description.orElse .null
  sortOrder := data.sortOrder.orElse (.num 0)
  groupNotifications := data.groupNotifications.orElse (.bool false)
  groupConfig := data.groupConfig.orElse (.obj "{}")

/-- The values `create` inserts; `uuid` is the column's default. -/
def createDraft (db : GroupDb) (data : CreateGroup) (tenantId : ℕ) (uuid : String) : GroupDraft where
  tenantId := tenantId
  parentId := data.parentId
  slug := ensureUniqueSlug (db.groups.map GroupRow.slug) (slugify data.name)
  uuid := uuid
  columns := data.columns

/-- The rows of the ancestors of `parentId`, for its new child `id`. -/
def ancestorRows (db : GroupDb) (id parentId : ℕ) : List ClosureRow :=
  (db.closure.filter fun gc => gc.descendantId = parentId).map fun gc =>
    ⟨gc.ancestorId, id, gc.depth + 1⟩

variable (pg : Pg)

def create (db : GroupDb) (data : CreateGroup) (tenantId : ℕ) (uuid : String) :
    Except GroupError GroupRow × GroupDb :=
  match insertGroup pg db (createDraft db data tenantId uuid) with
  | (none, db) => (.error .database, db)
  | (some row, db) =>
      match insertClosure db [⟨row.id, row.id, 0⟩] with
      | none => (.error .database, db)
      | some db =>
          match data.parentId.filter (· ≠ 0) with
          | none => (.ok row, db)
          | some parentId =>
              match insertClosure db (ancestorRows db row.id parentId) with
              | none => (.error .database, db)
              | some db => (.ok row, db)

/-- The ids of the subtree of `id`, by the closure table. -/
def descendantIds (db : GroupDb) (id : ℕ) : List ℕ :=
  (db.closure.filter fun r => r.ancestorId = id).map ClosureRow.descendantId

/-- The rows from outside the subtree into it are removed. -/
def cutOutside (db : GroupDb) (descIds : List ℕ) : GroupDb :=
  { db with closure := db.closure.filter fun r =>
      !(decide (r.descendantId ∈ descIds) && decide (r.ancestorId ∉ descIds)) }

/-- The cross product of the rows up from the new parent and the rows down from `id`. -/
def reconnectRows (db : GroupDb) (id newParentId : ℕ) : List ClosureRow :=
  (db.closure.filter fun p => p.descendantId = newParentId).flatMap fun p =>
    (db.closure.filter fun s => s.ancestorId = id).map fun s =>
      ⟨p.ancestorId, s.descendantId, p.depth + s.depth + 1⟩

def move (db : GroupDb) (id : ℕ) (newParentId : Option ℕ) :
    Except GroupError (Option GroupRow) × GroupDb :=
  if (db.group id).isNone then (.ok none, db)
  else if newParentId.any fun p => decide (p ∈ descendantIds db id) then
    (.error .intoOwnDescendant, db)
  else
    let cut := cutOutside db (descendantIds db id)
    let reconnected := match newParentId with
      | none => some cut
      | some p => insertClosure cut (reconnectRows cut id p)
    match reconnected with
    | none => (.error .database, cut)
    | some linked =>
        match setParent linked id newParentId with
        | none => (.error .database, linked)
        | some db => (.ok (db.group id), db)

def delete (db : GroupDb) (id : ℕ) : Bool × GroupDb :=
  ((db.group id).isSome, deleteGroup db id)

end Obliance.Groups
