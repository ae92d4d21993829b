import Obliance.Groups.Import
import Obliance.Notify.Bindings
import Obliance.Users.DeviceRights

/-!
# Export and import of a tenant (`controllers/importExport.controller.ts`)

The export answers with a payload of sections; rows are named in it by uuid, never by id. The import
is one transaction: when a statement fails, nothing of it stays.

* `exportData` : the payload, each section from its table;
* `importSettings`, `importChannel`, `importTeam` : the sections after the groups;
* `importData` : the request.
-/

namespace Obliance.Backup
open Obliance.Js Obliance.Groups Obliance.Notify Obliance.Users KeyedTable

inductive ExportSection where
  | deviceGroups
  | settings
  | notificationChannels
  | teams
  | remediationActions
  | remediationBindings
  deriving DecidableEq, Repr

/-! ## Tables -/

/-- A row of `settings`; the value `none` is SQL's NULL. -/
structure SettingRow where
  tenantId : ℕ
  scope : String
  scopeId : Option ℕ
  key : String
  value : Option JsVal
  deriving DecidableEq, Repr

/-- The columns of the two unique indexes. -/
def SettingRow.slot (r : SettingRow) : ℕ × String × Option ℕ × String :=
  (r.tenantId, r.scope, r.scopeId, r.key)

inductive ChannelType where
  | telegram
  | discord
  | slack
  | teams
  | smtp
  | webhook
  | gotify
  | ntfy
  | pushover
  | freemobile
  deriving DecidableEq, Repr

/-- What a `config` column reads as: an object by its entries (an array by its indices), a string, or
something without entries. -/
inductive Config where
  | entries (es : List (String × JsVal))
  | text (s : String)
  | scalar
  deriving DecidableEq, Repr

structure ChannelRow where
  id : ℕ
  tenantId : ℕ
  uuid : String
  name : String
  type : ChannelType
  config : Config
  isEnabled : Bool
  deriving DecidableEq, Repr

structure TeamRow where
  id : ℕ
  tenantId : ℕ
  uuid : String
  name : String
  description : Option String
  canCreate : Bool
  deriving DecidableEq, Repr

/-- A row of `team_permissions`, its id aside. -/
structure PermissionRow where
  tenantId : ℕ
  teamId : ℕ
  scope : TeamScope
  scopeId : ℕ
  level : PermissionLevel
  capabilities : List String
  deriving DecidableEq, Repr

structure BackupDb where
  groups : GroupDb
  settings : List SettingRow
  channels : List ChannelRow
  bindings : List BindingRow
  teams : List TeamRow
  permissions : List PermissionRow
  deriving DecidableEq, Repr

/-- The rows in the order of an ORDER BY, which may leave open how ties are broken. -/
structure Arrangement (ρ : Type) where
  order : List ρ → List ρ
  perm : ∀ rows, (order rows).Perm rows

/-- What runs beside the two requests. -/
structure Host where
  pg : Pg
  /-- The text of a `jsonb` value, as the column then reads: no text is the JSON of itself. -/
  jsonIn : String → Option JsVal
  jsonIn_ne : ∀ s, jsonIn s ≠ some (.str s)
  /-- `JSON.parse` of a text, by entries. -/
  jsonEntries : String → Option (List (String × JsVal))
  groupOrder : Arrangement GroupRow
  settingOrder : Arrangement SettingRow
  channelOrder : Arrangement ChannelRow
  bindingOrder : Arrangement BindingRow
  teamOrder : Arrangement TeamRow
  permissionOrder : Arrangement PermissionRow
  /-- `randomUUID()`, by what it is for. -/
  groupUuid : ImportItem → String
  channelUuid : JsVal → String
  teamUuid : JsVal → String
  /-- The next ids of the sequences. -/
  nextChannelId : List ChannelRow → ℕ
  nextTeamId : List TeamRow → ℕ
  /-- The statements of an export, and of an import, on `remediation_actions` and
  `remediation_bindings` succeed. No migration creates these tables. -/
  remediationExport : Bool
  remediationImport : Bool

/-! ## The payload -/

/-- An element of `data.settings`. -/
structure SettingItem where
  scope : String
  scopeUuid : JsVal
  key : String
  value : JsVal
  deriving DecidableEq, Repr

structure BindingItem where
  scope : Scope
  scopeUuid : JsVal
  overrideMode : Option OverrideMode
  deriving DecidableEq, Repr

structure ChannelItem where
  uuid : JsVal
  name : String
  type : Option ChannelType
  config : Option (List (String × JsVal))
  isEnabled : Option Bool
  bindings : Option (List BindingItem)
  deriving DecidableEq, Repr

structure PermissionItem where
  scope : TeamScope
  scopeUuid : JsVal
  level : Option PermissionLevel
  deriving DecidableEq, Repr

structure TeamItem where
  uuid : JsVal
  name : String
  description : Option String
  canCreate : Option Bool
  permissions : Option (List PermissionItem)
  deriving DecidableEq, Repr

/-- The body of the answer; what the remediation sections hold is left out. -/
structure Payload where
  sections : List ExportSection
  deviceGroups : Option (List ImportItem)
  settings : Option (List SettingItem)
  notificationChannels : Option (List ChannelItem)
  teams : Option (List TeamItem)
  deriving DecidableEq, Repr

/-! ## The export -/

/-- `?sections=`: nothing or `all`, or the sections by name. -/
inductive Requested where
  | all
  | only (sections : List ExportSection)
  deriving DecidableEq, Repr

def ALL_SECTIONS : List ExportSection :=
  [.deviceGroups, .settings, .notificationChannels, .teams, .remediationActions, .remediationBindings]

def Requested.sections : Requested → List ExportSection
  | .all => ALL_SECTIONS
  | .only [] => ALL_SECTIONS
  | .only sections => sections

def Requested.want (r : Requested) (s : ExportSection) : Bool := decide (s ∈ r.sections)

variable (host : Host) (tenantId : ℕ)

def tenantGroups (db : GroupDb) : List GroupRow := db.groups.filter fun g => g.tenantId = tenantId

/-- `new Map(rows.map(r => [r.id, r.uuid]))` -/
def groupUuidMap (rows : List GroupRow) : JsMap ℕ String := rows.foldl (fun m r => m.set r.id r.uuid) []

/-- `map.get(id) ?? null` -/
def uuidOf (guMap : JsMap ℕ String) (id : Option ℕ) : JsVal :=
  match id.bind guMap.get with
  | some uuid => .str uuid
  | none => .null

def exportGroup (selfMap : JsMap ℕ String) (g : GroupRow) : ImportItem where
  uuid := .str g.uuid
  name := g.columns.name
  description := g.columns.description
  parentUuid := uuidOf selfMap g.parentId
  sortOrder := g.columns.sortOrder
  groupNotifications := g.columns.groupNotifications
  groupConfig := g.columns.groupConfig

def exportGroups (db : BackupDb) : List ImportItem :=
  let groups := host.groupOrder.order (tenantGroups tenantId db.groups)
  groups.map (exportGroup (groupUuidMap groups))

def exportSetting (guMap : JsMap ℕ String) (s : SettingRow) : SettingItem where
  scope := s.scope
  scopeUuid := if s.scope = "group" then uuidOf guMap s.scopeId else .null
  key := s.key
  value := s.value.getD .null

def exportSettings (db : BackupDb) : List SettingItem :=
  let settings := host.settingOrder.order (db.settings.filter fun s => s.tenantId = tenantId)
  let guMap := groupUuidMap (tenantGroups tenantId db.groups)
  (settings.map (exportSetting guMap)).filter
    fun s => decide (s.scope = "global") || decide (s.scopeUuid ≠ .null)

def SECRET_KEYS : List String :=
  ["webhook_url", "webhookUrl", "url", "api_key", "apiKey", "token", "access_token", "bot_token", "password",
    "secret", "auth_token", "authorization", "slack_webhook", "discord_webhook", "teams_webhook"]

def isSensitive (k : String) : Bool :=
  let lower := k.toList.flatMap lowerChars
  let includes := fun part : String => lower.tails.any fun rest => part.toList.isPrefixOf rest
  decide (k ∈ SECRET_KEYS) || includes "secret" || includes "token" || includes "password" ||
    "key".toList.isSuffixOf lower || includes "webhook"

def redactConfig (raw : Config) : List (String × JsVal) :=
  let cfg := match raw with
    | .entries es => es
    | .text s => (host.jsonEntries s).getD []
    | .scalar => []
  cfg.map fun e => (e.1, if isSensitive e.1 then .str "__REDACTED__" else e.2)

def exportBinding (guMap : JsMap ℕ String) (b : BindingRow) : BindingItem where
  scope := b.scope
  scopeUuid := if b.scope = .group then uuidOf guMap b.scopeId else .null
  overrideMode := some b.overrideMode

def exportBindings (guMap : JsMap ℕ String) (rows : List BindingRow) : List BindingItem :=
  (rows.map (exportBinding guMap)).filter fun b => decide (b.scope = .global) || decide (b.scopeUuid ≠ .null)

def exportChannel (guMap : JsMap ℕ String) (bindings : List BindingRow) (c : ChannelRow) : ChannelItem where
  uuid := .str c.uuid
  name := c.name
  type := some c.type
  config := some (redactConfig host c.config)
  isEnabled := some c.isEnabled
  bindings := some (exportBindings guMap (bindings.filter fun b => b.channelId = c.id))

def exportChannels (db : BackupDb) : List ChannelItem :=
  let channels := host.channelOrder.order (db.channels.filter fun c => c.tenantId = tenantId)
  let bindings := host.bindingOrder.order db.bindings
  let guMap := groupUuidMap (tenantGroups tenantId db.groups)
  channels.map (exportChannel host guMap bindings)

/-- A permission goes without its capabilities. -/
def exportPermission (guMap : JsMap ℕ String) (p : PermissionRow) : PermissionItem where
  scope := p.scope
  scopeUuid := if p.scope = .group then uuidOf guMap (some p.scopeId) else .null
  level := some p.level

/-- Only permissions on groups of the tenant have a uuid. -/
def exportPermissions (guMap : JsMap ℕ String) (rows : List PermissionRow) : List PermissionItem :=
  (rows.map (exportPermission guMap)).filter fun p => p.scopeUuid ≠ .null

/-- No memberships: users are never exported. -/
def exportTeam (guMap : JsMap ℕ String) (permissions : List PermissionRow) (t : TeamRow) : TeamItem where
  uuid := .str t.uuid
  name := t.name
  description := t.description
  canCreate := some t.canCreate
  permissions := some (exportPermissions guMap (permissions.filter fun p => p.teamId = t.id))

def exportTeams (db : BackupDb) : List TeamItem :=
  let teams := host.teamOrder.order (db.teams.filter fun t => t.tenantId = tenantId)
  let permissions := host.permissionOrder.order db.permissions
  let guMap := groupUuidMap (tenantGroups tenantId db.groups)
  teams.map (exportTeam guMap permissions)

def wantsRemediation (sections : List ExportSection) : Bool :=
  decide (.remediationActions ∈ sections) || decide (.remediationBindings ∈ sections)

def exportData (r : Requested) (db : BackupDb) : Option Payload :=
  if wantsRemediation r.sections && !host.remediationExport then none
  else some
    { sections := r.sections
      deviceGroups := if r.want .deviceGroups then some (exportGroups host tenantId db) else none
      settings := if r.want .settings then some (exportSettings host tenantId db) else none
      notificationChannels :=
        if r.want .notificationChannels then some (exportChannels host tenantId db) else none
      teams := if r.want .teams then some (exportTeams host tenantId db) else none }

/-! ## The import -/

/-- `resolveConflict`, for the uuids of every table. -/
def resolveConflict (conflictStrategy : ConflictStrategy) (randomUuid : String) (inputUuid : JsVal)
    (idMap : JsMap JsVal ℕ) (foreignUuids : List String) : Decision :=
  if !inputUuid.truthy then .create (.str randomUuid)
  else if foreignUuids.any fun u => inputUuid = .str u then .create (.str randomUuid)
  else match idMap.get inputUuid with
    | none => .create inputUuid
    | some existingId =>
        match conflictStrategy with
        | .update => .update inputUuid existingId
        | .generateNew => .create (.str randomUuid)
        | .ignore => .skip

theorem resolveConflict_group (req : ImportRequest) (st : ImportState) (g : ImportItem) :
    Groups.resolveConflict req st g =
      resolveConflict req.conflictStrategy (req.randomUuid g) g.uuid st.groupIdByUuid req.foreignGroupUuids :=
  rfl

/-- The uuids of the payload that a row of another tenant has; the query fails on a text that is no uuid. -/
def foreignUuids {ρ : Type} (uuid : ρ → String) (owner : ρ → ℕ) (rows : List ρ) (uuids : List JsVal) :
    Option (List String) :=
  ((uuids.filter JsVal.truthy).mapM host.pg.uuidIn).map fun texts =>
    (rows.filter fun r => decide (uuid r ∈ texts) && decide (owner r ≠ tenantId)).map uuid

/-- `varchar(n)` -/
def varchar (n : ℕ) (s : String) : Bool := decide (s.length ≤ n)

/-- The value of a setting as the column then holds it: a string is taken for JSON text. -/
def storeValue (v : JsVal) : Option (Option JsVal) :=
  match v with
  | .undefined => some none
  | .str s => (host.jsonIn s).map some
  | v => some (some v)

/-- A refused `INSERT INTO settings` fails the import. -/
def insertSetting (db : BackupDb) (row : SettingRow) : Option BackupDb :=
  if varchar 20 row.scope && varchar 100 row.key && db.settings.all fun s => decide (s.slot ≠ row.slot) then
    some { db with settings := db.settings ++ [row] }
  else none

/-- The id of a scope: only the uuid of a group is resolved. -/
def scopeIdOf (st : ImportState) (isGroup : Bool) (uuid : JsVal) : Option ℕ :=
  if isGroup then resolveGroup st uuid else none

def importSetting (st : ImportState) (db : BackupDb) (s : SettingItem) : Option BackupDb :=
  if s.scope = "" ∨ s.key = "" then some db
  else
    let scopeId := scopeIdOf st (s.scope = "group") s.scopeUuid
    if s.scope ≠ "global" ∧ scopeId = none then some db
    else
      match storeValue host s.value with
      | none => none
      | some value =>
          let row : SettingRow := ⟨tenantId, s.scope, scopeId, s.key, value⟩
          insertSetting { db with settings := db.settings.filter fun r => r.slot ≠ row.slot } row

def importSettings (st : ImportState) (items : List SettingItem) (db : BackupDb) : Option BackupDb :=
  items.foldlM (importSetting host tenantId st) db

/-- The values of an `INSERT INTO notification_bindings`. -/
structure BindingDraft where
  tenantId : Option ℕ
  channelId : ℕ
  scope : Scope
  scopeId : Option ℕ
  overrideMode : OverrideMode

/-- `tenant_id` is NOT NULL and has no default. -/
def insertBinding (db : BackupDb) (d : BindingDraft) : Option BackupDb :=
  match d.tenantId with
  | none => none
  | some tenantId =>
      let id := (db.bindings.map BindingRow.id).foldl max 0 + 1
      some { db with bindings := db.bindings ++ [⟨id, tenantId, d.channelId, d.scope, d.scopeId, d.overrideMode⟩] }

def importBinding (st : ImportState) (channelId : ℕ) (db : BackupDb) (b : BindingItem) : Option BackupDb :=
  let bScopeId := scopeIdOf st (b.scope = .group) b.scopeUuid
  if b.scope ≠ .global ∧ bScopeId = none then some db
  else insertBinding db ⟨none, channelId, b.scope, bScopeId, b.overrideMode.getD .merge⟩

/-- A channel of the payload as a row. -/
def ChannelItem.row (c : ChannelItem) (id : ℕ) (uuid : String) (type : ChannelType) : ChannelRow where
  id := id
  tenantId := tenantId
  uuid := uuid
  name := c.name
  type := type
  config := .entries (c.config.getD [])
  isEnabled := c.isEnabled.getD true

/-- The row of the channel is written, if it is not skipped; its id. -/
def writeChannel (type : ChannelType) (db : BackupDb) (c : ChannelItem) :
    Decision → Option (Option (ℕ × BackupDb))
  | .skip => some none
  | .update uuid existingId => do
      let text ← host.pg.uuidIn uuid
      if varchar 200 c.name then
        some (some (existingId, { db with channels := db.channels.map fun r =>
          if r.uuid = text ∧ r.tenantId = tenantId then c.row tenantId r.id r.uuid type else r }))
      else none
  | .create uuid => do
      let text ← host.pg.uuidIn uuid
      let id := host.nextChannelId db.channels
      if varchar 200 c.name && db.channels.all fun r => decide (r.uuid ≠ text) then
        some (some (id, { db with channels := db.channels ++ [c.row tenantId id text type] }))
      else none

/-- The map of known uuids after the decision was carried out. -/
def recordCreated (idMap : JsMap JsVal ℕ) (inputUuid : JsVal) (id : ℕ) : Decision → JsMap JsVal ℕ
  | .create uuid => (if inputUuid.truthy then idMap.set inputUuid id else idMap).set uuid id
  | _ => idMap

/-- The part of the transaction a loop over a section goes through. -/
abbrev Section := JsMap JsVal ℕ × BackupDb

def importChannel (conflictStrategy : ConflictStrategy) (foreign : List String) (st : ImportState) :
    Section → ChannelItem → Option Section
  | (channelIdByUuid, db), c =>
      match c.type with
      | none => some (channelIdByUuid, db)
      | some type =>
          if c.name = "" then some (channelIdByUuid, db)
          else
            let decision := resolveConflict conflictStrategy (host.channelUuid c.uuid) c.uuid channelIdByUuid foreign
            match writeChannel host tenantId type db c decision with
            | none => none
            | some none => some (channelIdByUuid, db)
            | some (some (channelId, db)) =>
                let channelIdByUuid := recordCreated channelIdByUuid c.uuid channelId decision
                match c.bindings with
                | none => some (channelIdByUuid, db)
                | some bindings => do
                    let db := { db with bindings := db.bindings.filter fun b => b.channelId ≠ channelId }
                    let db ← bindings.foldlM (importBinding st channelId) db
                    some (channelIdByUuid, db)

/-- The values of an `INSERT INTO team_permissions … ON CONFLICT (…) DO NOTHING`. -/
structure PermissionDraft where
  tenantId : Option ℕ
  teamId : ℕ
  scope : TeamScope
  scopeId : ℕ
  level : PermissionLevel

/-- The unique keys of `team_permissions`. -/
def permissionKeys : List (List String) := [["id"]]

/-- PostgreSQL refuses a conflict target that no unique key matches, and a row without its tenant. -/
def insertPermission (db : BackupDb) (conflictColumns : List String) (d : PermissionDraft) : Option BackupDb :=
  if permissionKeys.all fun key => decide (key ≠ conflictColumns) then none
  else match d.tenantId with
    | none => none
    | some tenantId =>
        let row : PermissionRow := ⟨tenantId, d.teamId, d.scope, d.scopeId, d.level, ["monitor"]⟩
        some { db with permissions := db.permissions ++ [row] }

def importPermission (st : ImportState) (teamId : ℕ) (db : BackupDb) (p : PermissionItem) : Option BackupDb :=
  if !p.scopeUuid.truthy then some db
  else match scopeIdOf st (p.scope = .group) p.scopeUuid with
    | none => some db
    | some scopeId =>
        insertPermission db ["team_id", "scope", "scope_id"] ⟨none, teamId, p.scope, scopeId, p.level.getD .ro⟩

def TeamItem.row (t : TeamItem) (id : ℕ) (uuid : String) : TeamRow where
  id := id
  tenantId := tenantId
  uuid := uuid
  name := t.name
  description := t.description
  canCreate := t.canCreate.getD false

/-- The row of the team is written, if it is not skipped (a new one also when its name is taken); its id.
An update that is refused is caught, but it has aborted the transaction. -/
def writeTeam (db : BackupDb) (t : TeamItem) : Decision → Option (Option (ℕ × BackupDb))
  | .skip => some none
  | .update uuid existingId => do
      let text ← host.pg.uuidIn uuid
      if varchar 200 t.name then
        some (some (existingId, { db with teams := db.teams.map fun r =>
          if r.uuid = text ∧ r.tenantId = tenantId then t.row tenantId r.id r.uuid else r }))
      else none
  | .create uuid => do
      if db.teams.any fun r => decide (r.name = t.name) && decide (r.tenantId = tenantId) then some none
      else
        let text ← host.pg.uuidIn uuid
        let id := host.nextTeamId db.teams
        if varchar 200 t.name && db.teams.all fun r => decide (r.uuid ≠ text) then
          some (some (id, { db with teams := db.teams ++ [t.row tenantId id text] }))
        else none

def importTeam (conflictStrategy : ConflictStrategy) (foreign : List String) (st : ImportState) :
    Section → TeamItem → Option Section
  | (teamIdByUuid, db), t =>
      if t.name = "" then some (teamIdByUuid, db)
      else
        let decision := resolveConflict conflictStrategy (host.teamUuid t.uuid) t.uuid teamIdByUuid foreign
        match writeTeam host tenantId db t decision with
        | none => none
        | some none => some (teamIdByUuid, db)
        | some (some (teamId, db)) =>
            let teamIdByUuid := recordCreated teamIdByUuid t.uuid teamId decision
            match t.permissions with
            | none => some (teamIdByUuid, db)
            | some permissions => do
                let db := { db with permissions := db.permissions.filter fun p => p.teamId ≠ teamId }
                let db ← permissions.foldlM (importPermission st teamId) db
                some (teamIdByUuid, db)

/-- `new Map` of the rows of the tenant, their ids by uuid. -/
def idByUuid {ρ : Type} (uuid : ρ → String) (owner id : ρ → ℕ) (rows : List ρ) : JsMap JsVal ℕ :=
  (rows.filter fun r => owner r = tenantId).foldl (fun m r => m.set (.str (uuid r)) (id r)) []

/-- The sections that are asked for and that the payload holds. -/
def chosen {ι : Type} (sections : List ExportSection) (s : ExportSection) (items : Option (List ι)) : List ι :=
  if s ∈ sections then items.getD [] else []

/-- The body of the transaction; `none` when a statement of it fails. -/
def importSections (conflictStrategy : ConflictStrategy) (sections : List ExportSection) (data : Payload)
    (db : BackupDb) : Option BackupDb := do
  let channelIdByUuid := idByUuid tenantId ChannelRow.uuid ChannelRow.tenantId ChannelRow.id db.channels
  let teamIdByUuid := idByUuid tenantId TeamRow.uuid TeamRow.tenantId TeamRow.id db.teams
  let foreignGroups ← foreignGroupUuids host.pg db.groups tenantId (data.deviceGroups.getD [])
  let foreignChannels ← foreignUuids host tenantId ChannelRow.uuid ChannelRow.tenantId db.channels
    ((data.notificationChannels.getD []).map ChannelItem.uuid)
  let foreignTeams ← foreignUuids host tenantId TeamRow.uuid TeamRow.tenantId db.teams
    ((data.teams.getD []).map TeamItem.uuid)
  let req : ImportRequest := ⟨tenantId, conflictStrategy, foreignGroups, host.groupUuid⟩
  match importLoop host.pg req (topoSort (chosen sections .deviceGroups data.deviceGroups))
      (startImport db.groups tenantId) with
  | (.error _, _) => none
  | (.ok _, st) =>
      let db ← importSettings host tenantId st (chosen sections .settings data.settings)
        { db with groups := st.db }
      let (_, db) ← (chosen sections .notificationChannels data.notificationChannels).foldlM
        (importChannel host tenantId conflictStrategy foreignChannels st) (channelIdByUuid, db)
      let (_, db) ← (chosen sections .teams data.teams).foldlM
        (importTeam host tenantId conflictStrategy foreignTeams st) (teamIdByUuid, db)
      if wantsRemediation sections && !host.remediationImport then none else some db

/-- The tables after the request: as they were when the transaction is rolled back. -/
def importData (conflictStrategy : ConflictStrategy) (sections : List ExportSection) (data : Payload)
    (db : BackupDb) : BackupDb :=
  if sections = [] then db
  else (importSections host tenantId conflictStrategy sections data db).getD db

/-- An export, and the import of its payload, all of it, into the same tenant. -/
def backupAndRestore (r : Requested) (db : BackupDb) : BackupDb :=
  match exportData host tenantId r db with
  | none => db
  | some payload => importData host tenantId .update payload.sections payload db

end Obliance.Backup
