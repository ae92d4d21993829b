import Mathlib.Data.Rat.Floor
import Obliance.Js.Number
import Obliance.Lib.JsSet
import Obliance.Scenario.Graph

/-!
# What a node does (`services/scenarioGraph.service.ts`, `EXECUTORS`)

* `GraphDb` : the tables executors read; `RunRow` : a run, as `executeNode` read it;
* `resolveActionTargets`, `validateTargetsInTenant` : the devices of an action node;
* `startExecutor` : what each type of node does up to its first wait: it is done, ends the run, parks,
  has commands to enqueue, or throws.
-/

namespace Obliance.Scenario
open Obliance.Js Obliance.Commands KeyedTable

inductive RunStatus where
  | pending
  | running
  | success
  | failure
  | cancelled
  deriving DecidableEq, Repr

/-- A row of `scenario_runs`. -/
structure RunRow where
  id : ℕ
  tenantId : ℕ
  scenarioId : ℕ
  deviceId : ℕ
  triggerSource : Option String
  status : RunStatus
  currentNodeId : Option ℕ
  visitCounts : ℕ → ℕ
  lastExitCode : Option ℤ
  lastStdout : Option String
  lastStderr : Option String
  errorMessage : Option String

structure ScenarioRow where
  id : ℕ
  tenantId : ℕ
  bypassPrivacyMode : Bool
  deriving DecidableEq, Repr

structure ScriptRow where
  id : ℕ
  /-- NULL for a built-in script. -/
  tenantId : Option ℕ
  timeoutSeconds : Option ℕ
  deriving DecidableEq, Repr

structure EngineDevice where
  id : ℕ
  tenantId : ℕ
  groupId : Option ℕ
  osType : String
  status : String
  tags : List String
  privacyModeEnabled : Bool
  deriving DecidableEq, Repr

structure CooldownRow where
  scenarioId : ℕ
  deviceId : ℕ
  nodeId : ℕ
  lastPassAt : ℤ
  deriving DecidableEq, Repr

structure GraphDb where
  scenarios : List ScenarioRow
  nodes : List NodeRow
  edges : List EdgeRow
  scripts : List ScriptRow
  devices : List EngineDevice
  /-- The groups, each with its tenant. -/
  groups : List (ℕ × ℕ)
  cooldowns : List CooldownRow
  deriving DecidableEq, Repr

def GraphDb.scenario (db : GraphDb) (id : ℕ) : Option ScenarioRow := get ScenarioRow.id db.scenarios id

def GraphDb.node (db : GraphDb) (id : ℕ) : Option NodeRow := get NodeRow.id db.nodes id

def triggerTypeName : TriggerType → String
  | .manual => "trigger_manual"
  | .sessionLogin => "trigger_session_login"
  | .machineBoot => "trigger_machine_boot"
  | .agentApproved => "trigger_agent_approved"
  | .groupJoin => "trigger_group_join"
  | .scheduleFailure => "trigger_schedule_failure"
  | .scheduleCron => "trigger_schedule_cron"
  | .agentBackOnline => "trigger_agent_back_online"
  | .metricWarning => "trigger_metric_warning"
  | .metricCritical => "trigger_metric_critical"
  | .metricCustom => "trigger_metric_custom"

def nodeTypeName : NodeType → String
  | .trigger type => triggerTypeName type
  | .cooldown => "cooldown"
  | .runScript => "run_script"
  | .sendNotification => "send_notification"
  | .wait => "wait"
  | .branchExitCode => "branch_exit_code"
  | .runCommand => "run_command"
  | .tagDevice => "tag_device"
  | .moveDeviceToGroup => "move_device_to_group"
  | .branchOnDevice => "branch_on_device"
  | .endSuccess => "end_success"
  | .endFailure => "end_failure"
  | .other name => name

/-- `typedNode.label || typedNode.type` -/
def nodeName (node : NodeRow) : String :=
  (node.label.filter (· ≠ "")).getD (nodeTypeName node.type)

/-! ## Targets -/

/-- The curated list of an action node, when it has a usable entry, else the device of the run. -/
def resolveActionTargets (run : RunRow) (cfg : NodeConfig) : List ℚ :=
  let ids := match cfg.targetMode, cfg.targetDeviceIds with
    | some "devices", some ids => (ids.filterMap JsVal.toNumber).filter (0 < ·)
    | _, _ => []
  if ids.isEmpty then [(run.deviceId : ℚ)] else ids

/-- The devices of the tenant among the ids, those in privacy mode only for a scenario that bypasses it. -/
def validateTargetsInTenant (db : GraphDb) (tenantId : ℕ) (deviceIds : List ℚ) (scenarioId : ℕ) : List ℕ :=
  let bypass := (db.scenario scenarioId).any ScenarioRow.bypassPrivacyMode
  ((db.devices.filter fun d => decide (d.tenantId = tenantId ∧ (d.id : ℚ) ∈ deviceIds)).filter
    fun d => bypass || !d.privacyModeEnabled).map EngineDevice.id

def targetsOf (db : GraphDb) (run : RunRow) (node : NodeRow) : List ℕ :=
  validateTargetsInTenant db run.tenantId (resolveActionTargets run node.config) run.scenarioId

/-! ## Executors -/

/-- The command an action node sends to each target. -/
structure CommandTemplate where
  type : CommandType
  payload : CommandPayload
  expiresInSeconds : ℕ
  deriving DecidableEq, Repr

/-- What an executor does up to its first wait. -/
inductive ExecStep where
  | done (exitCode : Option ℤ)
  | terminate (success : Bool) (exitCode : Option ℤ) (message : Option String)
  /-- A wait of so many milliseconds. -/
  | sleep (delayMs : ℚ)
  /-- A cooldown that is over: the stamp is written next. -/
  | pass
  | enqueue (command : CommandTemplate) (targets : List ℕ)
  | throws (message : String)
  deriving DecidableEq, Repr

def cooldownToSeconds (cfg : NodeConfig) : ℤ :=
  match cfg.duration with
  | none => 0
  | some n =>
      if n ≤ 0 then 0
      else match cfg.unit.getD "minutes" with
        | "seconds" => n.floor
        | "hours" => (n * 3600).floor
        | "days" => (n * 86400).floor
        | "months" => (n * 86400 * 30).floor
        | _ => (n * 60).floor

def cooldownRow (db : GraphDb) (run : RunRow) (node : NodeRow) : Option CooldownRow :=
  db.cooldowns.find? fun c =>
    decide (c.scenarioId = run.scenarioId ∧ c.deviceId = run.deviceId ∧ c.nodeId = node.id)

def execCooldown (db : GraphDb) (run : RunRow) (node : NodeRow) (now : ℤ) : ExecStep :=
  let seconds := cooldownToSeconds node.config
  if seconds ≤ 0 then .done (some 0)
  else if (cooldownRow db run node).any fun c => decide (now - c.lastPassAt < seconds * 1000) then
    .terminate true (some (-1)) none
  else .pass

/-- `insert … onConflict … merge` -/
def stampCooldown (db : GraphDb) (run : RunRow) (node : NodeRow) (now : ℤ) : GraphDb :=
  { db with
    cooldowns :=
      if (cooldownRow db run node).isSome then
        db.cooldowns.map fun c =>
          if c.scenarioId = run.scenarioId ∧ c.deviceId = run.deviceId ∧ c.nodeId = node.id then
            { c with lastPassAt := now }
          else c
      else db.cooldowns ++ [⟨run.scenarioId, run.deviceId, node.id, now⟩] }

def execRunScript (db : GraphDb) (run : RunRow) (node : NodeRow) : ExecStep :=
  match node.config.scriptId.filter (· ≠ 0) with
  | none => .throws "run_script node missing scriptId"
  | some scriptId =>
      match db.scripts.find? fun s => decide (s.id = scriptId ∧ s.tenantId = some run.tenantId) with
      | none => .throws ("run_script: script " ++ toString scriptId ++ " not found in tenant")
      | some script =>
          let targets := targetsOf db run node
          if targets.isEmpty then .throws "run_script: no valid target device in tenant"
          else
            let timeout := (node.config.timeoutSeconds.or script.timeoutSeconds).getD 300
            .enqueue ⟨.runScript, { CommandPayload.empty with scriptId := some script.id }, timeout + 300⟩
              targets

def execRunCommand (db : GraphDb) (run : RunRow) (node : NodeRow) : ExecStep :=
  match node.config.commandType with
  | none => .throws "run_command node missing commandType"
  | some type =>
      let targets := targetsOf db run node
      if targets.isEmpty then .throws "run_command: no valid target device in tenant"
      else .enqueue ⟨type, .empty, node.config.timeoutSeconds.getD 300⟩ targets

/-- The trimmed, non-empty tags of a field. -/
def tagsOf (spec : Option TagSpec) : List String :=
  let trimmed := fun (tags : List String) => (tags.map fun t => t.trimAscii.toString).filter (· ≠ "")
  match spec with
  | some (.list tags) => trimmed tags
  | some (.text tags) => trimmed (tags.splitToList (· == ','))
  | none => []

/-- The target devices lose the removed tags, then get the added ones. -/
def execTagDevice (db : GraphDb) (run : RunRow) (node : NodeRow) : GraphDb × ExecStep :=
  let targets := targetsOf db run node
  if targets.isEmpty then (db, .throws "tag_device: no valid target device in tenant")
  else
    let retag := fun (tags : List String) =>
      (tagsOf node.config.add).foldl JsSet.add
        ((tagsOf node.config.remove).foldl JsSet.delete (JsSet.ofList tags))
    ({ db with devices := db.devices.map fun d =>
        if d.id ∈ targets ∧ d.tenantId = run.tenantId then { d with tags := retag d.tags } else d },
      .done (some 0))

def execMoveDevice (db : GraphDb) (run : RunRow) (node : NodeRow) : GraphDb × ExecStep :=
  if node.config.groupId.any fun g => decide ((g, run.tenantId) ∉ db.groups) then
    (db, .throws ("move_device_to_group: group " ++ toString (node.config.groupId.getD 0) ++
      " not in tenant"))
  else
    let targets := targetsOf db run node
    if targets.isEmpty then (db, .throws "move_device_to_group: no valid target device in tenant")
    else
      ({ db with devices := db.devices.map fun d =>
          if d.id ∈ targets ∧ d.tenantId = run.tenantId then { d with groupId := node.config.groupId }
          else d },
        .done (some 0))

/-- 0 when the device matches, 1 when it does not. -/
def execBranchOnDevice (db : GraphDb) (run : RunRow) (node : NodeRow) : ExecStep :=
  let value := node.config.value.getD ""
  match get EngineDevice.id db.devices run.deviceId with
  | none => .done (some 1)
  | some dev =>
      let matched := match node.config.field.getD "" with
        | "os_type" => decide (dev.osType = value)
        | "group" => decide ((dev.groupId.map toString).getD "" = value)
        | "status" => decide (dev.status = value)
        | "tag" => decide (value ∈ dev.tags)
        | _ => decide ("" = value)
      .done (some (if matched then 0 else 1))

/-- The executor of the node's type, `none` for a type that has none. -/
def startExecutor (db : GraphDb) (run : RunRow) (node : NodeRow) (now : ℤ) : Option (GraphDb × ExecStep) :=
  match node.type with
  | .trigger _ => some (db, .done none)
  | .cooldown => some (db, execCooldown db run node now)
  | .runScript => some (db, execRunScript db run node)
  | .sendNotification => some (db, .done (some 0))
  | .wait =>
      let delayMs := max 0 (node.config.seconds.getD 0 * 1000)
      some (db, if delayMs = 0 then .done (some 0) else .sleep delayMs)
  | .branchExitCode => some (db, .done run.lastExitCode)
  | .runCommand => some (db, execRunCommand db run node)
  | .tagDevice => some (execTagDevice db run node)
  | .moveDeviceToGroup => some (execMoveDevice db run node)
  | .branchOnDevice => some (db, execBranchOnDevice db run node)
  | .endSuccess => some (db, .terminate true none node.config.message)
  | .endFailure =>
      some (db, .terminate false none (some (node.config.message.getD "Ended via end_failure node")))
  | .other _ => none

end Obliance.Scenario
