import Obliance.Portability.Export

/-!
# `importScenario` (`services/scenario.service.ts`)

* `issues` : the structural validation of a document of format version 2;
* `importScript`, `importNode`, `importEdge`, `importSchedule` : one turn of each loop of the transaction;
* `importScenario` : the conflicts, or the scenario created.
-/

namespace Obliance.Portability
open Obliance.Js Obliance.Db KeyedTable
open Obliance.Remote (isMasterTenant)
open Obliance.Scenario (NodeType TriggerType)

/-! ## Validation -/

def VALID_NODE_TYPES : List NodeType :=
  [.trigger .manual, .trigger .sessionLogin, .trigger .machineBoot, .trigger .agentApproved,
    .trigger .groupJoin, .trigger .scheduleFailure, .trigger .scheduleCron, .trigger .agentBackOnline,
    .trigger .metricWarning, .trigger .metricCritical, .trigger .metricCustom, .runScript, .runCommand,
    .sendNotification, .wait, .tagDevice, .moveDeviceToGroup, .branchExitCode, .branchOnDevice, .cooldown,
    .endSuccess, .endFailure]

def isTrigger (t : NodeType) : Bool := typeStartsWith "trigger_" t

def isNumber : Option JsVal → Bool
  | some (.num _) => true
  | _ => false

def isText : Option JsVal → Bool
  | some (.str s) => s ≠ ""
  | _ => false

/-- Element `i` of a list by its name, or by its position. -/
def whereOf (kind name : String) (i : ℕ) : String :=
  if name = "" then s!"{kind} #{i}" else s!"{kind} \"{name}\""

structure NodeCheck where
  issues : List String
  seenClientIds : List String
  triggerCount : ℕ
  deriving DecidableEq, Repr

def unknownType (loc : String) (t : NodeType) : String :=
  s!"{loc}: unknown node type \"{typeName t}\". Valid types: " ++ ", ".intercalate (VALID_NODE_TYPES.map typeName)

/-- The turn of node `i`. -/
def checkNode (st : NodeCheck) (i : ℕ) (n : NodeEntry) : NodeCheck :=
  let loc := whereOf "node" n.clientId i
  if n.clientId = "" then
    { st with issues := st.issues ++ [s!"{loc}: clientId is required and must be a string"] }
  else if n.clientId ∈ st.seenClientIds then
    { st with issues := st.issues ++ [s!"{loc}: duplicate clientId — each node must have a unique id"] }
  else
    let st := { st with seenClientIds := st.seenClientIds ++ [n.clientId] }
    if n.type ∉ VALID_NODE_TYPES then { st with issues := st.issues ++ [unknownType loc n.type] }
    else
      let st := if isTrigger n.type then { st with triggerCount := st.triggerCount + 1 } else st
      if isRunScript n.type ∧ ¬ isNumber (n.config "scriptId") ∧ ¬ isText (n.config "scriptUuid") then
        { st with issues := st.issues ++ [s!"{loc}: run_script needs config.scriptId or config.scriptUuid"] }
      else st

def checkNodes : List NodeEntry → ℕ → NodeCheck → NodeCheck
  | [], _, st => st
  | n :: nodes, i, st => checkNodes nodes (i + 1) (checkNode st i n)

/-- `undefined` in a message. -/
def shown (clientId : Option String) : String := clientId.getD "undefined"

def edgeIssues (validClientIds : List String) (i : ℕ) (e : EdgeEntry) : List String :=
  let valid (c : Option String) : Bool := c.any fun c => decide (c ≠ "" ∧ c ∈ validClientIds)
  (if valid e.sourceNodeClientId then []
    else [s!"edge #{i}: sourceNodeClientId \"{shown e.sourceNodeClientId}\" doesn't match any node"]) ++
  (if valid e.targetNodeClientId then []
    else [s!"edge #{i}: targetNodeClientId \"{shown e.targetNodeClientId}\" doesn't match any node"])

def scriptIssues (i : ℕ) (s : ScriptEntry) : List String :=
  let loc := whereOf "script" s.name i
  (if s.uuid = "" then [s!"{loc}: uuid is required"] else []) ++
  (if s.name = "" then [s!"{loc}: name is required"] else []) ++
  (if s.content = "" then [s!"{loc}: content is required"] else [])

def issues (payload : Payload) : List String :=
  let st := checkNodes payload.nodes 0 ⟨[], [], 0⟩
  st.issues ++
  (if st.triggerCount = 0 then ["scenario must contain at least one trigger node (trigger_*)"] else []) ++
  (payload.edges.zipIdx.flatMap fun p => edgeIssues st.seenClientIds p.2 p.1) ++
  ((payload.scripts.getD []).zipIdx.flatMap fun p => scriptIssues p.2 p.1)

def validate (payload : Payload) : Except PortError Unit :=
  if payload.scenario.name = "" then .error (.error "scenario.name is required")
  else if payload.nodes = [] then .error (.error "scenario must have at least one node")
  else match issues payload with
    | [] => .ok ()
    | found => .error (.error ("Import validation failed:\n - " ++ "\n - ".intercalate found))

/-! ## Conflicts -/

inductive Resolution where
  | skip
  | overwrite
  | new
  deriving DecidableEq, Repr

/-- The scripts the tenant sees under an imported uuid. -/
def existingByUuid (db : Tables) (tenantId : ℕ) (scripts : List ScriptEntry) : JsMap String ScriptRow :=
  (db.scripts.filter fun r => decide (r.uuid ∈ scripts.map ScriptEntry.uuid) && seesScript tenantId r).foldl
    (fun m r => m.set r.uuid r) []

structure Conflict where
  scriptUuid : String
  existingScriptId : ℕ
  existingName : String
  importedName : String
  deriving DecidableEq, Repr

def conflictsOf (existing : JsMap String ScriptRow) (scripts : List ScriptEntry) : List Conflict :=
  scripts.filterMap fun s => (existing.get s.uuid).map fun r => ⟨s.uuid, r.id, r.name, s.name⟩

/-- The script of another tenant, or of the system, that an importer who is no administrator asks to
overwrite. -/
def overwritesForeign (existing : JsMap String ScriptRow) (resolutions : JsMap String Resolution)
    (importerIsAdmin : Bool) (tenantId : ℕ) (scripts : List ScriptEntry) : Option ScriptRow :=
  scripts.findSome? fun s => (existing.get s.uuid).filter fun r =>
    decide (resolutions.get s.uuid = some .overwrite) && !importerIsAdmin && decide (r.tenantId ≠ some tenantId)

/-! ## The transaction -/

/-- `scheduleIds` has no counterpart in the source: it records which schedule was created from which. -/
structure ImportState where
  db : Tables
  resolvedScriptId : JsMap String ℕ
  nodeIdByClientId : JsMap String ℕ
  scheduleIds : JsMap String ℕ

section
-- the uuid of the row that gets an id, as `gen_random_uuid()` chooses it
variable (genUuid : ℕ → String) (tenantId : ℕ)

def insertedScript (id : ℕ) (name : String) (s : ScriptEntry) : ScriptRow where
  id := id
  uuid := genUuid id
  tenantId := some tenantId
  name := name
  content := s.content
  isBuiltin := false
  columns :=
    { s.columns with
      platform := s.columns.platform.or (.str "all")
      runtime := s.columns.runtime.or (.str "bash")
      timeoutSeconds := s.columns.timeoutSeconds.or (.num 300)
      expectedExitCode := s.columns.expectedExitCode.orElse (.num 0)
      runAs := s.columns.runAs.or (.str "system")
      tags := s.columns.tags.or (.obj "[]")
      purpose := s.columns.purpose.or (.str "execute")
      availableInReach := .bool s.columns.availableInReach.truthy }

def insertedParameter (scriptId i : ℕ) (p : ParameterEntry) : ParameterRow where
  scriptId := scriptId
  sortOrder := i
  columns := { p.columns with options := p.columns.options.or (.obj "[]") }

def overwriteScript (s : ScriptEntry) (r : ScriptRow) : ScriptRow :=
  { r with
    name := s.name
    content := s.content
    columns :=
      { s.columns with
        expectedExitCode := s.columns.expectedExitCode.orElse (.num 0)
        tags := s.columns.tags.or (.obj "[]")
        purpose := s.columns.purpose.orElse (.str "execute")
        availableInReach := .bool s.columns.availableInReach.truthy } }

/-- `INSERT INTO scripts` and its parameters. -/
def insertScript (db : Tables) (name : String) (s : ScriptEntry) : Tables :=
  { db with
    scripts := db.scripts ++ [insertedScript genUuid tenantId db.nextScriptId name s]
    parameters := db.parameters ++ s.parameters.zipIdx.map fun p => insertedParameter db.nextScriptId p.2 p.1
    nextScriptId := db.nextScriptId + 1 }

/-- The turn of an embedded script. -/
def importScript (existing : JsMap String ScriptRow) (resolutions : JsMap String Resolution) (st : ImportState)
    (s : ScriptEntry) : ImportState :=
  if s.uuid = "" then st
  else match existing.get s.uuid with
    | none =>
        { st with
          db := insertScript genUuid tenantId st.db s.name s
          resolvedScriptId := st.resolvedScriptId.set s.uuid st.db.nextScriptId }
    | some conflict => match (resolutions.get s.uuid).getD .skip with
        | .skip => { st with resolvedScriptId := st.resolvedScriptId.set s.uuid conflict.id }
        | .overwrite =>
            { st with
              db := { st.db with scripts := modify ScriptRow.id st.db.scripts conflict.id (overwriteScript s) }
              resolvedScriptId := st.resolvedScriptId.set s.uuid conflict.id }
        | .new =>
            { st with
              db := insertScript genUuid tenantId st.db s!"{s.name} (imported)" s
              resolvedScriptId := st.resolvedScriptId.set s.uuid st.db.nextScriptId }

def insertedScenario (id : ℕ) (s : ScenarioEntry) : ScenarioRow where
  id := id
  uuid := genUuid id
  tenantId := tenantId
  targetTenantIds := []
  name := s.name
  status := .draft
  columns :=
    { description := s.columns.description.orElse .null
      triggerType := s.columns.triggerType.orElse (.str "manual")
      triggerConfig := s.columns.triggerConfig.or (.obj "\x7b\x7d")
      targetType := s.columns.targetType.orElse (.str "all")
      targetIds := s.columns.targetIds.orElse (.obj "[]")
      retryPolicy := s.columns.retryPolicy.or (.obj "\x7b\"maxRetries\":0,\"retryDelaySeconds\":0\x7d")
      timeoutSeconds := s.columns.timeoutSeconds.orElse (.num 3600)
      notifyOnSuccess := s.columns.notifyOnSuccess.orElse (.bool false)
      notifyOnFailure := s.columns.notifyOnFailure.orElse (.bool true)
      bypassPrivacyMode := .bool (decide (s.columns.bypassPrivacyMode = .bool true))
      notificationChannels := s.columns.notificationChannels.orElse (.obj "[]")
      scenarioVariables := s.columns.scenarioVariables.orElse (.obj "\x7b\x7d") }

/-- The script that `cfg.scriptUuid` names in `resolvedScriptId`. -/
def resolvedOf (resolved : JsMap String ℕ) : Option JsVal → Option ℕ
  | some (.str uuid) => if uuid = "" then none else resolved.get uuid
  | _ => none

/-- `run_script` nodes: resolve scriptUuid → scriptId. -/
def resolveScript (resolved : JsMap String ℕ) (type : NodeType) (cfg : Config) : Config :=
  if isRunScript type then
    match resolvedOf resolved (cfg "scriptUuid") with
    | some scriptId =>
        Function.update (Function.update cfg "scriptId" (some (.num scriptId))) "scriptUuid" none
    | none => cfg
  else cfg

/-- The target devices are ids of the source tenant: an import starts in "trigger target" mode. -/
def stripTargets (cfg : Config) : Config :=
  if (cfg "targetDeviceIds").isSome ∨ (cfg "targetMode").isSome then
    Function.update (Function.update cfg "targetMode" (some (.str "target"))) "targetDeviceIds" (some (.obj "[]"))
  else cfg

/-- `_comment` keys are documentation aids. -/
def dropComment (cfg : Config) : Config := Function.update cfg "_comment" none

def importedConfig (resolved : JsMap String ℕ) (n : NodeEntry) : Config :=
  stripTargets (resolveScript resolved n.type (dropComment n.config))

def insertedNode (resolved : JsMap String ℕ) (scenarioId id : ℕ) (n : NodeEntry) : NodeRow where
  id := id
  uuid := genUuid id
  scenarioId := scenarioId
  type := n.type
  label := n.label
  config := importedConfig resolved n
  positionX := n.positionX
  positionY := n.positionY

/-- The turn of a node. -/
def importNode (scenarioId : ℕ) (st : ImportState) (n : NodeEntry) : ImportState :=
  let id := st.db.nextNodeId
  { st with
    db :=
      { st.db with
        nodes := st.db.nodes ++ [insertedNode genUuid st.resolvedScriptId scenarioId id n]
        nextNodeId := id + 1 }
    nodeIdByClientId := st.nodeIdByClientId.set n.clientId id }

/-- The id of a client id; `if (!id) continue` takes 0 as missing. -/
def nodeIdOf (nodeIds : JsMap String ℕ) (clientId : Option String) : Option ℕ :=
  (clientId.bind nodeIds.get).filter (· ≠ 0)

/-- The turn of an edge. -/
def importEdge (scenarioId : ℕ) (st : ImportState) (e : EdgeEntry) : ImportState :=
  match nodeIdOf st.nodeIdByClientId e.sourceNodeClientId, nodeIdOf st.nodeIdByClientId e.targetNodeClientId with
  | some sourceId, some targetId =>
      { st with
        db :=
          { st.db with
            edges := st.db.edges ++
              [⟨st.db.nextEdgeId, scenarioId, sourceId, e.sourceHandle, targetId,
                e.condition.orElse (.obj "\x7b\"kind\":\"always\"\x7d"), e.sortOrder⟩]
            nextEdgeId := st.db.nextEdgeId + 1 } }
  | _, _ => st

def insertedSchedule (id scriptId scenarioId : ℕ) (s : ScheduleEntry) : ScheduleRow where
  id := id
  uuid := genUuid id
  tenantId := tenantId
  scriptId := scriptId
  onFailureScenarioId := if s.onFailureBindsToImportedScenario then some scenarioId else none
  enabled := false
  columns :=
    { name := s.columns.name
      description := s.columns.description.orElse .null
      targetType := s.columns.targetType.orElse (.str "all")
      targetIds := s.columns.targetIds.orElse (.obj "[]")
      cronExpression := s.columns.cronExpression.orElse .null
      fireOnceAt := s.columns.fireOnceAt.orElse .null
      timezone := s.columns.timezone.or (.str "UTC")
      parameterValues := s.columns.parameterValues.orElse (.obj "\x7b\x7d")
      catchupEnabled := .bool (decide (s.columns.catchupEnabled ≠ .bool false))
      catchupMax := s.columns.catchupMax.orElse (.num 3)
      assertPass := s.columns.assertPass.orElse (.bool false)
      notifyOnce := s.columns.notifyOnce.orElse (.bool false)
      notificationChannels := s.columns.notificationChannels.orElse (.obj "[]")
      timeoutSeconds := s.columns.timeoutSeconds.orElse .null
      skipIfInFlight := .bool (decide (s.columns.skipIfInFlight ≠ .bool false)) }

/-- The script of an imported schedule: the embedded one, else the number in the document. -/
def scheduleScript (resolved : JsMap String ℕ) (s : ScheduleEntry) : Option ℕ :=
  (resolvedOf resolved (s.scriptUuid.map JsVal.str)).or s.scriptId

/-- `WHERE scenario_id = ? AND (config->>'scheduleId')::int = ?` -/
def NodeRow.refersTo (n : NodeRow) (scenarioId number : ℕ) : Bool :=
  decide (n.scenarioId = scenarioId ∧ castInt4 (n.config "scheduleId") = some (some (number : ℤ)))

def NodeRow.withScheduleId (n : NodeRow) (v : Option JsVal) : NodeRow :=
  { n with config := Function.update n.config "scheduleId" v }

@[simp] theorem NodeRow.config_withScheduleId (n : NodeRow) (v : Option JsVal) :
    (n.withScheduleId v).config = Function.update n.config "scheduleId" v := rfl

/-- `jsonb_set(config, '{scheduleId}', …)` -/
def NodeRow.setScheduleId (n : NodeRow) (scheduleId : ℕ) : NodeRow := n.withScheduleId (some (.num scheduleId))

/-- The update of the nodes that hold a number as their scheduleId; none when a cast fails. -/
def patchNodes (scenarioId number scheduleId : ℕ) (nodes : List NodeRow) : Option (List NodeRow) :=
  if nodes.all fun n => decide (n.scenarioId = scenarioId → (castInt4 (n.config "scheduleId")).isSome) then
    some (nodes.map fun n => if n.refersTo scenarioId number then n.setScheduleId scheduleId else n)
  else none

/-- The turn of a schedule. -/
def importSchedule (scenarioId : ℕ) (st : ImportState) (s : ScheduleEntry) : Option ImportState :=
  match scheduleScript st.resolvedScriptId s with
  -- can't recreate a schedule without a script
  | none => some st
  | some scriptId =>
      let id := st.db.nextScheduleId
      -- the foreign key of script_id
      if (get ScriptRow.id st.db.scripts scriptId).isNone then none
      else
        (match s.scriptId with
          | some number => patchNodes scenarioId number id st.db.nodes
          | none => some st.db.nodes).map fun nodes =>
        { st with
          db :=
            { st.db with
              nodes := nodes
              schedules := st.db.schedules ++ [insertedSchedule genUuid tenantId id scriptId scenarioId s]
              nextScheduleId := id + 1 }
          scheduleIds := st.scheduleIds.set s.uuid id }

def importSchedules (scenarioId : ℕ) : List ScheduleEntry → ImportState → Option ImportState
  | [], st => some st
  | s :: schedules, st =>
      (importSchedule genUuid tenantId scenarioId st s).bind (importSchedules scenarioId schedules)

/-- `INSERT INTO scenarios`, status forced to draft. -/
def insertScenario (st : ImportState) (s : ScenarioEntry) : ImportState :=
  { st with
    db :=
      { st.db with
        scenarios := st.db.scenarios ++ [insertedScenario genUuid tenantId st.db.nextScenarioId s]
        nextScenarioId := st.db.nextScenarioId + 1 } }

/-- What a committed import leaves: the tables, the scenario created, and the ids given to what it was
created from. -/
structure Imported extends ImportState where
  scenario : ScenarioRow

/-- The transaction; none when a statement fails and everything is rolled back. -/
def commitImport (db : Tables) (payload : Payload) (existing : JsMap String ScriptRow)
    (resolutions : JsMap String Resolution) : Option Imported :=
  let st := (payload.scripts.getD []).foldl (importScript genUuid tenantId existing resolutions) ⟨db, [], [], []⟩
  let scenarioId := st.db.nextScenarioId
  let scenario := insertedScenario genUuid tenantId scenarioId payload.scenario
  let st := insertScenario genUuid tenantId st payload.scenario
  let st := payload.nodes.foldl (importNode genUuid scenarioId) st
  let st := payload.edges.foldl (importEdge scenarioId) st
  (importSchedules genUuid tenantId scenarioId (payload.schedules.getD []) st).map fun st => ⟨st, scenario⟩

inductive ImportResult where
  | preview (conflicts : List Conflict)
  | commit (out : Imported)

structure ImportOptions where
  commit : Bool
  conflictResolutions : Option (JsMap String Resolution)
  userId : ℕ
  deriving DecidableEq, Repr

def importScenario (db : Tables) (payload : Payload) (opts : ImportOptions) : Except PortError ImportResult :=
  match validate payload with
  | .error e => .error e
  | .ok () =>
      let scripts := payload.scripts.getD []
      let existing := existingByUuid db tenantId scripts
      if !opts.commit then .ok (.preview (conflictsOf existing scripts))
      else
        let resolutions := opts.conflictResolutions.getD []
        let importer := if opts.userId = 0 then none else get UserRow.id db.users opts.userId
        let importerIsAdmin := importer.any UserRow.isAdmin
        match overwritesForeign existing resolutions importerIsAdmin tenantId scripts with
        | some conflict =>
            .error (.app 403 s!"Script \"{conflict.name}\" belongs to another tenant or is a system script: only a platform administrator can overwrite it")
        | none => match commitImport genUuid tenantId db payload existing resolutions with
            | none => .error .database
            | some out => .ok (.commit out)
end

end Obliance.Portability
