import Obliance.Groups.Service

/-!
# The `deviceGroups` section of `importData` (`controllers/importExport.controller.ts`)

An import runs in one transaction: whatever it wrote is rolled back when any statement of it fails,
except for the ids it took from the sequence.

* `topoSort` : parents before children, each uuid once;
* `resolveConflict`, `resolveGroup` : what happens to an item, and its parent;
* `importGroup`, `importLoop`, `importData` : one item, the items in order, the request.
-/

namespace Obliance.Groups
open Obliance.Js KeyedTable

inductive ConflictStrategy where
  | update
  | generateNew
  | ignore
  deriving DecidableEq, Repr

/-- An element of `data.deviceGroups`. -/
structure ImportItem where
  uuid : JsVal
  parentUuid : JsVal
  name : JsVal
  description : JsVal
  sortOrder : JsVal
  groupNotifications : JsVal
  groupConfig : JsVal
  deriving DecidableEq, Repr

def ImportItem.columns (g : ImportItem) : GroupColumns where
  name := g.name
  description := g.description.orElse .null
  sortOrder := g.sortOrder.orElse (.num 0)
  groupNotifications := g.groupNotifications.orElse (.bool false)
  groupConfig := if g.groupConfig.truthy then g.groupConfig else .obj "{}"

/-- `data.deviceGroups`: missing, something `.map(g => g.uuid)` throws on, or a list. -/
inductive GroupPayload where
  | absent
  | malformed
  | items (items : List ImportItem)
  deriving DecidableEq, Repr

/-! ## Parents before children -/

/-- The inner `visit`. Every nested call has one more visited uuid, so the depth is at most the
number of items. -/
def visit (byUuid : JsMap JsVal ImportItem) :
    ℕ → ImportItem → List JsVal × List ImportItem → List JsVal × List ImportItem
  | 0, _, st => st
  | fuel + 1, item, (visited, sorted) =>
      if item.uuid ∈ visited then (visited, sorted)
      else
        let parent := if item.parentUuid.truthy then byUuid.get item.parentUuid else none
        let st := match parent with
          | some parent => visit byUuid fuel parent (item.uuid :: visited, sorted)
          | none => (item.uuid :: visited, sorted)
        (st.1, st.2 ++ [item])

def topoSort (items : List ImportItem) : List ImportItem :=
  let byUuid : JsMap JsVal ImportItem :=
    (items.filter fun i => i.uuid.truthy).foldl (fun m i => m.set i.uuid i) []
  (items.foldl (fun st item => visit byUuid (items.length + 1) item st) ([], [])).2

/-! ## One item -/

inductive Decision where
  | create (uuid : JsVal)
  | update (uuid : JsVal) (existingId : ℕ)
  | skip
  deriving DecidableEq, Repr

structure ImportState where
  db : GroupDb
  groupIdByUuid : JsMap JsVal ℕ
  batchGroupByOrigUuid : JsMap JsVal ℕ
  created : ℕ
  updated : ℕ
  skipped : ℕ

/-- What the loop over the items does not change. -/
structure ImportRequest where
  tenantId : ℕ
  conflictStrategy : ConflictStrategy
  foreignGroupUuids : List String
  /-- `randomUUID()`, for the item. -/
  randomUuid : ImportItem → String

variable (pg : Pg) (req : ImportRequest)

def resolveConflict (st : ImportState) (g : ImportItem) : Decision :=
  if !g.uuid.truthy then .create (.str (req.randomUuid g))
  else if req.foreignGroupUuids.any fun u => g.uuid = .str u then .create (.str (req.randomUuid g))
  else match st.groupIdByUuid.get g.uuid with
    | none => .create g.uuid
    | some existingId =>
        match req.conflictStrategy with
        | .update => .update g.uuid existingId
        | .generateNew => .create (.str (req.randomUuid g))
        | .ignore => .skip

/-- Batch result first, then existing rows. -/
def resolveGroup (st : ImportState) (uuid : JsVal) : Option ℕ :=
  if !uuid.truthy then none
  else (st.batchGroupByOrigUuid.get uuid).or (st.groupIdByUuid.get uuid)

/-- `UPDATE device_groups SET …, parent_id = ? WHERE uuid = ? AND tenant_id = ?` -/
def updateImported (db : GroupDb) (uuid : JsVal) (columns : GroupColumns) (parentId : Option ℕ) :
    Option GroupDb :=
  match pg.uuidIn uuid with
  | none => none
  | some text =>
      if pg.acceptsColumns columns && parentId.all fun p => (db.group p).isSome then
        some { db with groups := db.groups.map fun r =>
          if r.uuid = text ∧ r.tenantId = req.tenantId then
            { r with columns := columns, parentId := parentId }
          else r }
      else none

def insertGroupClosure (db : GroupDb) (groupId : ℕ) (parentId : Option ℕ) : Option GroupDb :=
  match insertClosure db [⟨groupId, groupId, 0⟩] with
  | none => none
  | some db =>
      match parentId with
      | none => some db
      | some parentId => insertClosure db (ancestorRows db groupId parentId)

/-- The values of a created group: its slug is unique in the tenant only. -/
def importDraft (st : ImportState) (g : ImportItem) (name uuid : String) : GroupDraft where
  tenantId := req.tenantId
  parentId := resolveGroup st g.parentUuid
  slug := ensureUniqueSlug ((st.db.groups.filter fun r => r.tenantId = req.tenantId).map GroupRow.slug)
    (slugify name)
  uuid := uuid
  columns := g.columns

/-- The maps after the group `id` was created for the item under the uuid `uuid`. -/
def ImportState.recordCreated (st : ImportState) (db : GroupDb) (g : ImportItem) (uuid : JsVal)
    (id : ℕ) : ImportState :=
  let batch := if g.uuid.truthy then st.batchGroupByOrigUuid.set g.uuid id else st.batchGroupByOrigUuid
  { st with
    db := db
    groupIdByUuid := st.groupIdByUuid.set uuid id
    batchGroupByOrigUuid := batch.set uuid id
    created := st.created + 1 }

/-- The maps after the item `g` was kept as it is. -/
def ImportState.recordSkipped (st : ImportState) (g : ImportItem) : ImportState :=
  match st.groupIdByUuid.get g.uuid with
  | some id =>
      { st with batchGroupByOrigUuid := st.batchGroupByOrigUuid.set g.uuid id
                skipped := st.skipped + 1 }
  | none => { st with skipped := st.skipped + 1 }

def importGroup (st : ImportState) (g : ImportItem) : Except GroupError Unit × ImportState :=
  if !g.name.truthy then (.ok (), { st with skipped := st.skipped + 1 })
  else match resolveConflict req st g with
    | .skip => (.ok (), st.recordSkipped g)
    | .update uuid existingId =>
        match updateImported pg req st.db uuid g.columns (resolveGroup st g.parentUuid) with
        | none => (.error .database, st)
        | some db =>
            (.ok (), { st with db := db
                               batchGroupByOrigUuid := st.batchGroupByOrigUuid.set uuid existingId
                               updated := st.updated + 1 })
    | .create uuid =>
        match g.name, pg.uuidIn uuid with
        | .str name, some text =>
            match insertGroup pg st.db (importDraft req st g name text) with
            | (none, db) => (.error .database, { st with db := db })
            | (some row, db) =>
                match insertGroupClosure db row.id (resolveGroup st g.parentUuid) with
                | none => (.error .database, { st with db := db })
                | some db => (.ok (), st.recordCreated db g uuid row.id)
        | .str _, none => (.error .database, st)
        | _, _ => (.error .notText, st)

def importLoop : List ImportItem → ImportState → Except GroupError Unit × ImportState
  | [], st => (.ok (), st)
  | g :: gs, st =>
      match importGroup pg req st g with
      | (.ok _, st) => importLoop gs st
      | (.error e, st) => (.error e, st)

/-! ## The request -/

/-- The uuids of the payload that belong to another tenant's group; a uuid PostgreSQL cannot read
fails the query. -/
def foreignGroupUuids (db : GroupDb) (tenantId : ℕ) (items : List ImportItem) : Option (List String) :=
  (((items.map ImportItem.uuid).filter JsVal.truthy).mapM pg.uuidIn).map fun texts =>
    (db.groups.filter fun r => decide (r.uuid ∈ texts) && decide (r.tenantId ≠ tenantId)).map
      GroupRow.uuid

/-- The maps at the start: the groups of the tenant by uuid. -/
def startImport (db : GroupDb) (tenantId : ℕ) : ImportState where
  db := db
  groupIdByUuid := (db.groups.filter fun r => r.tenantId = tenantId).foldl
    (fun m r => m.set (.str r.uuid) r.id) []
  batchGroupByOrigUuid := []
  created := 0
  updated := 0
  skipped := 0

/-- A request, as far as groups are concerned. -/
structure ImportCall where
  tenantId : ℕ
  conflictStrategy : ConflictStrategy
  wantsGroups : Bool
  payload : GroupPayload
  randomUuid : ImportItem → String
  /-- The checks and the sections of the other tables succeed. -/
  othersOk : Bool

def ImportCall.request (c : ImportCall) (foreign : List String) : ImportRequest where
  tenantId := c.tenantId
  conflictStrategy := c.conflictStrategy
  foreignGroupUuids := foreign
  randomUuid := c.randomUuid

/-- A rolled back transaction only keeps the ids it consumed. -/
def rollback (db after : GroupDb) : GroupDb := { db with nextId := after.nextId }

def importData (db : GroupDb) (c : ImportCall) : Bool × GroupDb :=
  match c.payload with
  | .absent => (c.othersOk, db)
  | .malformed => (false, db)
  | .items items =>
      match foreignGroupUuids pg db c.tenantId items with
      | none => (false, db)
      | some foreign =>
          if !c.wantsGroups then (c.othersOk, db)
          else
            let r := importLoop pg (c.request foreign) (topoSort items) (startImport db c.tenantId)
            match r.1 with
            | .ok _ => if c.othersOk then (true, r.2.db) else (false, rollback db r.2.db)
            | .error _ => (false, rollback db r.2.db)

end Obliance.Groups
