import Mathlib.Data.List.Sort
import Mathlib.Logic.Function.Basic
import Obliance.Db.Int4
import Obliance.Lib.KeyedTable
import Obliance.Remote.Session
import Obliance.Scenario.Graph

/-!
# The tables a scenario is exported from and imported into

* `Tables` : scripts with their parameters, scenarios with their graphs, script schedules;
* `Schema` : the keys of the tables (`db/migrations/001`, `050`, `052`, `074`);
* `nodeRows`, `edgeRows` : the graph of a scenario, as the editor, the engine and the exporter read it;
* `castInt4` : `(config->>'…')::int`.

A jsonb column arrives parsed, so the branches of the source that parse a text are not reached.
-/

namespace Obliance.Portability
open Obliance.Js Obliance.Db KeyedTable
open Obliance.Remote (isMasterTenant)
open Obliance.Scenario (NodeType TriggerType)

/-! ## Node types -/

/-- The column `type`. -/
def typeName : NodeType → String
  | .trigger .manual => "trigger_manual"
  | .trigger .sessionLogin => "trigger_session_login"
  | .trigger .machineBoot => "trigger_machine_boot"
  | .trigger .agentApproved => "trigger_agent_approved"
  | .trigger .groupJoin => "trigger_group_join"
  | .trigger .scheduleFailure => "trigger_schedule_failure"
  | .trigger .scheduleCron => "trigger_schedule_cron"
  | .trigger .agentBackOnline => "trigger_agent_back_online"
  | .trigger .metricWarning => "trigger_metric_warning"
  | .trigger .metricCritical => "trigger_metric_critical"
  | .trigger .metricCustom => "trigger_metric_custom"
  | .runScript => "run_script"
  | .runCommand => "run_command"
  | .sendNotification => "send_notification"
  | .wait => "wait"
  | .tagDevice => "tag_device"
  | .moveDeviceToGroup => "move_device_to_group"
  | .branchExitCode => "branch_exit_code"
  | .branchOnDevice => "branch_on_device"
  | .cooldown => "cooldown"
  | .endSuccess => "end_success"
  | .endFailure => "end_failure"
  | .other name => name

/-- `type.startsWith(start)` -/
def typeStartsWith (start : String) (t : NodeType) : Bool := start.toList.isPrefixOf (typeName t).toList

/-! ## Rows -/

/-- A JSON object: a key it does not have is `none`. -/
abbrev Config := String → Option JsVal

structure ScriptColumns where
  description : JsVal
  platform : JsVal
  runtime : JsVal
  timeoutSeconds : JsVal
  expectedExitCode : JsVal
  runAs : JsVal
  tags : JsVal
  purpose : JsVal
  availableInReach : JsVal
  deriving DecidableEq, Repr

/-- A script without a tenant is a system script. -/
structure ScriptRow where
  id : ℕ
  uuid : String
  tenantId : Option ℕ
  name : String
  content : String
  isBuiltin : Bool
  columns : ScriptColumns
  deriving DecidableEq, Repr

structure ParameterColumns where
  name : JsVal
  label : JsVal
  description : JsVal
  type : JsVal
  options : JsVal
  defaultValue : JsVal
  required : JsVal
  deriving DecidableEq, Repr

structure ParameterRow where
  scriptId : ℕ
  sortOrder : ℤ
  columns : ParameterColumns
  deriving DecidableEq, Repr

structure ScenarioColumns where
  description : JsVal
  triggerType : JsVal
  triggerConfig : JsVal
  targetType : JsVal
  targetIds : JsVal
  retryPolicy : JsVal
  timeoutSeconds : JsVal
  notifyOnSuccess : JsVal
  notifyOnFailure : JsVal
  bypassPrivacyMode : JsVal
  notificationChannels : JsVal
  scenarioVariables : JsVal
  deriving DecidableEq, Repr

inductive ScenarioStatus where
  | draft
  | active
  | disabled
  deriving DecidableEq, Repr

structure ScenarioRow where
  id : ℕ
  uuid : String
  tenantId : ℕ
  targetTenantIds : List ℕ
  name : String
  status : ScenarioStatus
  columns : ScenarioColumns
  deriving DecidableEq, Repr

structure NodeRow where
  id : ℕ
  uuid : String
  scenarioId : ℕ
  type : NodeType
  label : Option String
  config : Config
  positionX : ℤ
  positionY : ℤ

structure EdgeRow where
  id : ℕ
  scenarioId : ℕ
  sourceNodeId : ℕ
  sourceHandle : Option String
  targetNodeId : ℕ
  condition : JsVal
  sortOrder : ℤ
  deriving DecidableEq, Repr

structure ScheduleColumns where
  name : JsVal
  description : JsVal
  targetType : JsVal
  targetIds : JsVal
  cronExpression : JsVal
  fireOnceAt : JsVal
  timezone : JsVal
  parameterValues : JsVal
  catchupEnabled : JsVal
  catchupMax : JsVal
  assertPass : JsVal
  notifyOnce : JsVal
  notificationChannels : JsVal
  timeoutSeconds : JsVal
  skipIfInFlight : JsVal
  deriving DecidableEq, Repr

structure ScheduleRow where
  id : ℕ
  uuid : String
  tenantId : ℕ
  scriptId : ℕ
  onFailureScenarioId : Option ℕ
  enabled : Bool
  columns : ScheduleColumns
  deriving DecidableEq, Repr

/-- A row of `users`, by whether its role is `admin`. -/
structure UserRow where
  id : ℕ
  isAdmin : Bool
  deriving DecidableEq, Repr

structure Tables where
  users : List UserRow
  scripts : List ScriptRow
  parameters : List ParameterRow
  scenarios : List ScenarioRow
  nodes : List NodeRow
  edges : List EdgeRow
  schedules : List ScheduleRow
  /-- The next values of the `id` sequences. -/
  nextScriptId : ℕ
  nextScenarioId : ℕ
  nextNodeId : ℕ
  nextEdgeId : ℕ
  nextScheduleId : ℕ

/-! ## Reads -/

/-- `WHERE tenant_id = ? OR tenant_id IS NULL`; the master tenant sees every script. -/
def seesScript (tenantId : ℕ) (s : ScriptRow) : Bool :=
  isMasterTenant tenantId || decide (s.tenantId = some tenantId) || s.tenantId.isNone

/-- `WHERE tenant_id = ?`; the master tenant sees every schedule. -/
def seesSchedule (tenantId : ℕ) (s : ScheduleRow) : Bool :=
  isMasterTenant tenantId || decide (s.tenantId = tenantId)

/-- The row `getById` reads: a scenario of the tenant, or one fanned out to it. -/
def scenarioRow (db : Tables) (id tenantId : ℕ) : Option ScenarioRow :=
  (get ScenarioRow.id db.scenarios id).filter fun s =>
    isMasterTenant tenantId || decide (s.tenantId = tenantId) || decide (tenantId ∈ s.targetTenantIds)

/-- `WHERE scenario_id = ? ORDER BY id` -/
def nodeRows (db : Tables) (scenarioId : ℕ) : List NodeRow :=
  (db.nodes.filter fun n => n.scenarioId = scenarioId).insertionSort fun n m => n.id ≤ m.id

/-- `WHERE scenario_id = ? ORDER BY sort_order` -/
def edgeRows (db : Tables) (scenarioId : ℕ) : List EdgeRow :=
  (db.edges.filter fun e => e.scenarioId = scenarioId).insertionSort fun e f => e.sortOrder ≤ f.sortOrder

/-- `condition ?? { kind: 'always' }`, as every reader of the column has it. -/
def EdgeRow.conditionOf (e : EdgeRow) : JsVal := e.condition.orElse (.obj "\x7b\"kind\":\"always\"\x7d")

/-- `(config->>key)::int`: `some none` is NULL, `none` an error. -/
def castInt4 : Option JsVal → Option (Option ℤ)
  | none | some .null | some .undefined => some none
  | some (.num q) => if q.den = 1 ∧ -int4Max - 1 ≤ q.num ∧ q.num ≤ int4Max then some (some q.num) else none
  | some (.str s) => (int4OfText s).map some
  | some (.bool _) | some (.obj _) => none

/-! ## Keys -/

/-- What the keys of the tables and their sequences enforce. Both ends of an edge are nodes of its scenario. -/
structure Tables.Schema (db : Tables) : Prop where
  scripts : Keyed ScriptRow.id db.scripts
  scriptUuids : Keyed ScriptRow.uuid db.scripts
  scriptUuid : ∀ s ∈ db.scripts, s.uuid ≠ ""
  scriptUsed : ∀ s ∈ db.scripts, s.id < db.nextScriptId
  scriptInt4 : ∀ s ∈ db.scripts, (s.id : ℤ) ≤ int4Max
  scenarioUsed : ∀ s ∈ db.scenarios, s.id < db.nextScenarioId
  nodes : Keyed NodeRow.id db.nodes
  nodeUuids : Keyed NodeRow.uuid db.nodes
  nodeUuid : ∀ n ∈ db.nodes, n.uuid ≠ ""
  nodeUsed : ∀ n ∈ db.nodes, n.id < db.nextNodeId
  nodeScenario : ∀ n ∈ db.nodes, ∃ s ∈ db.scenarios, s.id = n.scenarioId
  edgeSource : ∀ e ∈ db.edges, ∃ n ∈ db.nodes, n.id = e.sourceNodeId ∧ n.scenarioId = e.scenarioId
  edgeTarget : ∀ e ∈ db.edges, ∃ n ∈ db.nodes, n.id = e.targetNodeId ∧ n.scenarioId = e.scenarioId
  schedules : Keyed ScheduleRow.id db.schedules
  scheduleUuids : Keyed ScheduleRow.uuid db.schedules
  scheduleUsed : ∀ s ∈ db.schedules, s.id < db.nextScheduleId
  scheduleInt4 : ∀ s ∈ db.schedules, (s.id : ℤ) ≤ int4Max
  scheduleScript : ∀ s ∈ db.schedules, ∃ r ∈ db.scripts, r.id = s.scriptId
  /-- A sequence starts at 1. -/
  nodeSequence : 0 < db.nextNodeId

section
variable {db : Tables} {id : ℕ}

theorem mem_nodeRows {n : NodeRow} : n ∈ nodeRows db id ↔ n ∈ db.nodes ∧ n.scenarioId = id := by
  rw [nodeRows, List.mem_insertionSort, List.mem_filter, decide_eq_true_eq]

theorem mem_edgeRows {e : EdgeRow} : e ∈ edgeRows db id ↔ e ∈ db.edges ∧ e.scenarioId = id := by
  rw [edgeRows, List.mem_insertionSort, List.mem_filter, decide_eq_true_eq]

theorem nodeRows_eq_nil_of_fresh (h : db.Schema) : (db.nodes.filter fun n => n.scenarioId = db.nextScenarioId) = [] := by
  rw [List.filter_eq_nil_iff]
  intro n hn hid
  obtain ⟨s, hs, hsid⟩ := h.nodeScenario n hn
  exact absurd (hsid.trans (of_decide_eq_true hid)) (h.scenarioUsed s hs).ne

theorem edgeRows_eq_nil_of_fresh (h : db.Schema) : (db.edges.filter fun e => e.scenarioId = db.nextScenarioId) = [] := by
  rw [List.filter_eq_nil_iff]
  intro e he hid
  obtain ⟨n, hn, -, hns⟩ := h.edgeSource e he
  obtain ⟨s, hs, hsid⟩ := h.nodeScenario n hn
  exact absurd (hsid.trans (hns.trans (of_decide_eq_true hid))) (h.scenarioUsed s hs).ne

theorem keyed_nodeRows (h : db.Schema) : Keyed NodeRow.id (nodeRows db id) := by
  have hperm := List.perm_insertionSort (fun n m : NodeRow => n.id ≤ m.id)
    (db.nodes.filter fun n => n.scenarioId = id)
  exact (hperm.map NodeRow.id).nodup_iff.2 (h.nodes.sublist (List.filter_sublist.map _))

theorem keyed_nodeRows_uuid (h : db.Schema) : Keyed NodeRow.uuid (nodeRows db id) := by
  have hperm := List.perm_insertionSort (fun n m : NodeRow => n.id ≤ m.id)
    (db.nodes.filter fun n => n.scenarioId = id)
  exact (hperm.map NodeRow.uuid).nodup_iff.2 (h.nodeUuids.sublist (List.filter_sublist.map _))
end

end Obliance.Portability
