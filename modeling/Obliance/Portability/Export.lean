import Obliance.Portability.Tables

/-!
# `exportScenario` (`services/scenario.service.ts`)

* `Payload` : the JSON document, of format version 2;
* `exportedScripts`, `exportedSchedules` : the rows that travel with a graph;
* `exportScenario` : the document, or null when the tenant does not see the scenario.
-/

namespace Obliance.Portability
open Obliance.Js Obliance.Db
open Obliance.Remote (isMasterTenant)
open Obliance.Scenario (NodeType)

/-! ## The document -/

structure ParameterEntry where
  sortOrder : ℤ
  columns : ParameterColumns
  deriving DecidableEq, Repr

structure ScriptEntry where
  internalId : ℕ
  uuid : String
  name : String
  content : String
  isBuiltin : Bool
  columns : ScriptColumns
  parameters : List ParameterEntry
  deriving DecidableEq, Repr

/-- `scriptId` is a number, or null. -/
structure ScheduleEntry where
  uuid : String
  scriptUuid : Option String
  scriptId : Option ℕ
  onFailureBindsToImportedScenario : Bool
  enabled : Bool
  columns : ScheduleColumns
  deriving DecidableEq, Repr

structure NodeEntry where
  clientId : String
  type : NodeType
  label : Option String
  config : Config
  positionX : ℤ
  positionY : ℤ

/-- An end that is no node of the scenario is undefined. -/
structure EdgeEntry where
  sourceNodeClientId : Option String
  sourceHandle : Option String
  targetNodeClientId : Option String
  condition : JsVal
  sortOrder : ℤ
  deriving DecidableEq, Repr

structure ScenarioEntry where
  uuid : String
  name : String
  columns : ScenarioColumns
  deriving DecidableEq, Repr

structure Payload where
  scenario : ScenarioEntry
  nodes : List NodeEntry
  edges : List EdgeEntry
  scripts : Option (List ScriptEntry)
  schedules : Option (List ScheduleEntry)

/-- What an export or an import is refused with: a message, a message with a status, or an error of the
database. -/
inductive PortError where
  | error (message : String)
  | app (status : ℕ) (message : String)
  | database
  deriving DecidableEq, Repr

/-! ## The rows that travel along -/

/-- `new Set` of the numbers under a key, over the nodes of some types. -/
def referenced (types : NodeType → Bool) (key : String) (nodes : List NodeRow) : List ℚ :=
  nodes.filterMap fun n =>
    if types n.type then
      match n.config key with
      | some (.num q) => some q
      | _ => none
    else none

def isRunScript (t : NodeType) : Bool := t = .runScript

def isTriggerSchedule (t : NodeType) : Bool := typeStartsWith "trigger_schedule" t

/-- The scripts `run_script` nodes refer to. -/
def scriptIds (nodes : List NodeRow) : List ℚ := referenced isRunScript "scriptId" nodes

/-- The schedules `trigger_schedule…` nodes refer to. -/
def scheduleIdsFromTriggers (nodes : List NodeRow) : List ℚ := referenced isTriggerSchedule "scheduleId" nodes

def exportedScripts (db : Tables) (tenantId : ℕ) (nodes : List NodeRow) : List ScriptRow :=
  db.scripts.filter fun s => decide ((s.id : ℚ) ∈ scriptIds nodes) && seesScript tenantId s

def exportedSchedules (db : Tables) (tenantId id : ℕ) (nodes : List NodeRow) : List ScheduleRow :=
  db.schedules.filter fun s =>
    (decide (s.onFailureScenarioId = some id) || decide ((s.id : ℚ) ∈ scheduleIdsFromTriggers nodes)) &&
      seesSchedule tenantId s

/-- A number bound to an `integer` column. -/
def bindsInt4 (q : ℚ) : Bool := (castInt4 (some (.num q))).isSome

/-! ## Entries -/

def ParameterRow.entry (p : ParameterRow) : ParameterEntry where
  sortOrder := p.sortOrder
  columns := { p.columns with options := p.columns.options.orElse (.obj "[]") }

/-- `paramsByScript.get(r.id) ?? []` -/
def scriptParameters (db : Tables) (scriptId : ℕ) : List ParameterEntry :=
  ((db.parameters.filter fun p => p.scriptId = scriptId).insertionSort fun p q =>
    p.sortOrder ≤ q.sortOrder).map ParameterRow.entry

def ScriptRow.entry (db : Tables) (r : ScriptRow) : ScriptEntry where
  internalId := r.id
  uuid := r.uuid
  name := r.name
  content := r.content
  isBuiltin := r.isBuiltin
  columns :=
    { r.columns with
      expectedExitCode := r.columns.expectedExitCode.orElse (.num 0)
      tags := r.columns.tags.orElse (.obj "[]")
      purpose := r.columns.purpose.orElse (.str "execute")
      availableInReach := .bool r.columns.availableInReach.truthy }
  parameters := scriptParameters db r.id

def ScheduleRow.entry (db : Tables) (scenarioId : ℕ) (r : ScheduleRow) : ScheduleEntry where
  uuid := r.uuid
  scriptUuid := (KeyedTable.get ScriptRow.id db.scripts r.scriptId).map ScriptRow.uuid
  scriptId := some r.scriptId
  onFailureBindsToImportedScenario := r.onFailureScenarioId = some scenarioId
  enabled := r.enabled
  columns :=
    { r.columns with
      targetIds := r.columns.targetIds.orElse (.obj "[]")
      parameterValues := r.columns.parameterValues.orElse (.obj "\x7b\x7d")
      assertPass := r.columns.assertPass.orElse (.bool false)
      notifyOnce := r.columns.notifyOnce.orElse (.bool false)
      notificationChannels := r.columns.notificationChannels.orElse (.obj "[]")
      timeoutSeconds := r.columns.timeoutSeconds.orElse .null
      skipIfInFlight := .bool (decide (r.columns.skipIfInFlight ≠ .bool false)) }

def NodeRow.entry (r : NodeRow) : NodeEntry := ⟨r.uuid, r.type, r.label, r.config, r.positionX, r.positionY⟩

def EdgeRow.entry (nodes : List NodeRow) (r : EdgeRow) : EdgeEntry where
  sourceNodeClientId := (KeyedTable.get NodeRow.id nodes r.sourceNodeId).map NodeRow.uuid
  sourceHandle := r.sourceHandle
  targetNodeClientId := (KeyedTable.get NodeRow.id nodes r.targetNodeId).map NodeRow.uuid
  condition := r.conditionOf
  sortOrder := r.sortOrder

/-- `rowToScenario`, as far as the export takes it. -/
def ScenarioRow.entry (r : ScenarioRow) : ScenarioEntry where
  uuid := r.uuid
  name := r.name
  columns :=
    { r.columns with
      triggerConfig := r.columns.triggerConfig.or (.obj "\x7b\x7d")
      targetIds := r.columns.targetIds.or (.obj "[]")
      retryPolicy := r.columns.retryPolicy.or (.obj "\x7b\"maxRetries\":0,\"retryDelaySeconds\":0\x7d")
      bypassPrivacyMode := r.columns.bypassPrivacyMode.orElse (.bool false)
      notificationChannels := r.columns.notificationChannels.or (.obj "[]")
      scenarioVariables := r.columns.scenarioVariables.or (.obj "\x7b\x7d") }

/-- `… .length > 0 ? … : null` -/
def nonEmpty {α : Type} (l : List α) : Option (List α) := if l = [] then none else some l

/-- The document of a scenario row. -/
def payloadOf (db : Tables) (tenantId : ℕ) (scenario : ScenarioRow) (includeScripts : Bool) : Payload :=
  let nodes := nodeRows db scenario.id
  { scenario := scenario.entry
    nodes := nodes.map NodeRow.entry
    edges := (edgeRows db scenario.id).map (EdgeRow.entry nodes)
    scripts := if includeScripts then some ((exportedScripts db tenantId nodes).map (ScriptRow.entry db)) else none
    schedules := nonEmpty ((exportedSchedules db tenantId scenario.id nodes).map (ScheduleRow.entry db scenario.id)) }

def exportScenario (db : Tables) (id tenantId : ℕ) (includeScripts : Bool) : Except PortError (Option Payload) :=
  match scenarioRow db id tenantId with
  | none => .ok none
  | some scenario =>
      let nodes := nodeRows db scenario.id
      if includeScripts ∧ (scriptIds nodes).all bindsInt4 = false then .error .database
      else if (scheduleIdsFromTriggers nodes).all bindsInt4 = false then .error .database
      else .ok (some (payloadOf db tenantId scenario includeScripts))

end Obliance.Portability
