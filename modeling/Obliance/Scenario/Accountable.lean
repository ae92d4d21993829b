import Obliance.Scenario.Cron
import Obliance.Users.DeviceRights

/-!
# Who may make a scenario run where (`services/scenarioPermission.service.ts`)

An automatic run is allowed when the user accountable for the scenario, the last who saved or enabled it, may
act on every device its nodes can touch. Roles and verdicts are remembered for a minute.

* `devicesTouched`, `scenarioDenialFor` : the devices of a graph, and the first one the user may not act on;
* `accountableUserDenial` : the gate, with its memory;
* `startAutomatic` : `startRun` behind the gate;
* `gateMachine` : automatic starts, the steps of the engine and whatever is written to the tables, in any order;
* `WithinRights` : what a run does, it does where the user may.
-/

namespace Obliance.Scenario
open GuardedRun KeyedTable Obliance.Js Obliance.Commands Obliance.Users

/-! ## Tables -/

/-- The columns of `scenarios` that say who is accountable. -/
structure SavedBy where
  updatedBy : Option ℤ
  createdBy : Option ℤ
  updatedAt : Option ℤ
  deriving DecidableEq, Repr

structure GateTables where
  users : List UserRow
  rights : TeamRights
  /-- `devices.api_key_id` -/
  apiKeyOf : ℕ → Option ℕ
  /-- By the id of the scenario. -/
  saved : ℕ → SavedBy

def GateTables.devices (tables : GateTables) (db : GraphDb) : List RightsDevice :=
  db.devices.map fun d => ⟨d.id, d.groupId, tables.apiKeyOf d.id⟩

/-- The user holds `execute`, write access, on the device. -/
def GateTables.mayExecute (tables : GateTables) (db : GraphDb) (userId : ℤ) (deviceId : ℕ) : Bool :=
  canUseCapability tables.rights (tables.devices db) userId deviceId false "execute"

def GateTables.mayWrite (tables : GateTables) (db : GraphDb) (userId : ℤ) (deviceId : ℕ) : Bool :=
  canWriteDevice tables.rights (tables.devices db) userId deviceId false

/-! ## The devices of a graph -/

def runsCommands (type : NodeType) : Bool := decide (type = .runScript ∨ type = .runCommand)

/-- `ACTING_TYPES` -/
def isActing (type : NodeType) : Bool :=
  runsCommands type || decide (type = .tagDevice ∨ type = .moveDeviceToGroup)

structure NodeLike where
  type : NodeType
  config : NodeConfig

/-- The usable ids of a node's list. -/
def overrideIds (cfg : NodeConfig) : List ℚ :=
  match cfg.targetMode, cfg.targetDeviceIds with
  | some "devices", some ids => (ids.filterMap JsVal.toNumber).filter fun q => decide (q.den = 1 ∧ 0 < q)
  | _, _ => []

/-- The devices of the tenant among them. -/
def liveTargets (db : GraphDb) (tenantId : ℕ) (cfg : NodeConfig) : List ℕ :=
  (db.devices.filter fun d => decide ((d.id : ℚ) ∈ overrideIds cfg ∧ d.tenantId = tenantId)).map EngineDevice.id

def actingNodes (db : GraphDb) (scenarioId : ℕ) (onlyNodeId : Option ℕ) (pendingNodes : Option (List NodeLike)) :
    List NodeLike :=
  match pendingNodes with
  | some nodes => nodes.filter fun n => isActing n.type
  | none => (db.nodes.filter fun n =>
      decide (n.scenarioId = scenarioId) && isActing n.type && onlyNodeId.all fun id => decide (n.id = id)).map
        fun n => ⟨n.type, n.config⟩

/-- The devices commands go to, and those that are written. -/
def devicesTouched (db : GraphDb) (scenario : ScenarioRow) (runDeviceIds : List ℕ) (onlyNodeId : Option ℕ)
    (pendingNodes : Option (List NodeLike)) : List ℕ × List ℕ :=
  let nodes := actingNodes db scenario.id onlyNodeId pendingNodes
  let live := fun (nodes : List NodeLike) => nodes.flatMap fun n => liveTargets db scenario.tenantId n.config
  ((live (nodes.filter fun n => runsCommands n.type)).foldl JsSet.add (JsSet.ofList runDeviceIds),
    JsSet.ofList (live (nodes.filter fun n => !runsCommands n.type)))

/-! ## The gate -/

inductive DeniedRight where
  | execute
  | write
  deriving DecidableEq, Repr

structure ScenarioDenial where
  capability : DeniedRight
  deviceId : ℕ
  deriving DecidableEq, Repr

/-- The first device the user, no administrator, may not act on. -/
def scenarioDenialFor (tables : GateTables) (db : GraphDb) (userId : ℤ) (scenario : ScenarioRow)
    (runDeviceIds : List ℕ) (onlyNodeId : Option ℕ) (pendingNodes : Option (List NodeLike)) :
    Option ScenarioDenial :=
  match runDeviceIds.find? fun id : ℕ => (toDbId (.num id)).isNone with
  | some id => some ⟨.execute, id⟩
  | none =>
      let (execIds, writeIds) := devicesTouched db scenario runDeviceIds onlyNodeId pendingNodes
      match devicesLackingCapability tables.rights (tables.devices db) userId execIds "execute" with
      | id :: _ => some ⟨.execute, id⟩
      | [] => (writeIds.find? fun id => !tables.mayWrite db userId id).map fun id => ⟨.write, id⟩

/-- An entry of `roles`. -/
structure RoleEntry where
  userId : ℤ
  admin : Bool
  active : Bool
  username : String
  atMs : ℤ
  deriving DecidableEq, Repr

structure VerdictKey where
  scenarioId : ℕ
  stamp : ℤ
  userId : ℤ
  deviceId : ℕ
  deriving DecidableEq, Repr

/-- An entry of `verdicts`. -/
structure VerdictEntry where
  key : VerdictKey
  denial : Option String
  atMs : ℤ
  deriving DecidableEq, Repr

/-- What the gate remembers. -/
structure GateMemory where
  roles : List RoleEntry
  verdicts : List VerdictEntry
  deriving DecidableEq, Repr

def verdictTtlMs : ℤ := 60000
def maxVerdicts : ℕ := 10000

/-- The role of the user's row. -/
def readRole (tables : GateTables) (userId now : ℤ) : RoleEntry :=
  let row := get UserRow.id tables.users userId
  { userId := userId
    admin := row.any fun r => decide (r.role = .admin)
    active := row.any UserRow.isActive
    username := (row.map UserRow.username).getD ("#" ++ toString userId)
    atMs := now }

def roleOf (tables : GateTables) (memory : GateMemory) (userId now : ℤ) : RoleEntry × GateMemory :=
  match (get RoleEntry.userId memory.roles userId).filter fun r => decide (now - r.atMs < verdictTtlMs) with
  | some cached => (cached, memory)
  | none =>
      let role := readRole tables userId now
      (role, { memory with roles := upsert RoleEntry.userId memory.roles role fun _ => role })

def deactivatedText (role : RoleEntry) : String :=
  "Not run: " ++ role.username ++ ", the user accountable for this scenario (last to save or enable it), is " ++
    "deactivated. Someone allowed to run it on this device must enable it again."

def deniedText (role : RoleEntry) (denial : ScenarioDenial) : String :=
  "Not run: " ++ role.username ++ ", the user accountable for this scenario (last to save or enable it), lacks " ++
    (if denial.capability = .execute then "the 'execute' capability" else "write access") ++ " on device #" ++
    toString denial.deviceId ++ ". Grant it to their team, or have someone allowed on this device enable the " ++
    "scenario again."

/-- What the gate computes when it remembers no verdict. -/
def freshDenial (tables : GateTables) (db : GraphDb) (role : RoleEntry) (scenario : ScenarioRow) (deviceId : ℕ) :
    Option String :=
  if !role.active then some (deactivatedText role)
  else (scenarioDenialFor tables db role.userId scenario [deviceId] none none).map (deniedText role)

def rememberVerdict (verdicts : List VerdictEntry) (v : VerdictEntry) : List VerdictEntry :=
  upsert VerdictEntry.key (if maxVerdicts < verdicts.length then [] else verdicts) v fun _ => v

/-- `scenario.updated_by ?? scenario.created_by` -/
def SavedBy.user (saved : SavedBy) : Option ℤ := saved.updatedBy.or saved.createdBy

def SavedBy.stamp (saved : SavedBy) : ℤ := saved.updatedAt.getD 0

/-- Why the accountable user may not make the scenario run on the device. -/
def accountableUserDenial (tables : GateTables) (db : GraphDb) (epochMs : ℤ) (memory : GateMemory)
    (scenario : ScenarioRow) (deviceId : ℕ) (now : ℤ) : Option String × GateMemory :=
  let saved := tables.saved scenario.id
  match saved.user with
  | none => (none, memory)
  | some userId =>
      if saved.stamp < epochMs then (none, memory)
      else
        let (role, memory) := roleOf tables memory userId now
        if role.admin then (none, memory)
        else
          let key : VerdictKey := ⟨scenario.id, saved.stamp, userId, deviceId⟩
          match (get VerdictEntry.key memory.verdicts key).filter fun v => decide (now - v.atMs < verdictTtlMs) with
          | some hit => (hit.denial, memory)
          | none =>
              let reason := freshDenial tables db role scenario deviceId
              (reason, { memory with verdicts := rememberVerdict memory.verdicts ⟨key, reason, now⟩ })

/-! ## Automatic runs -/

structure GateState where
  engine : EngineState
  tables : GateTables
  epochMs : ℤ
  memory : GateMemory

/-- The answer of the gate, and what it remembers then. -/
def GateState.ask (g : GateState) (scenarioId deviceId : ℕ) (now : ℤ) : Option String × GateMemory :=
  match g.engine.db.scenario scenarioId with
  | none => (none, g.memory)
  | some scenario => accountableUserDenial g.tables g.engine.db g.epochMs g.memory scenario deviceId now

/-- A run that is not started because of the privacy of its device does not ask the gate. -/
def GateState.isPrivate (g : GateState) (scenarioId deviceId : ℕ) : Bool :=
  (get EngineDevice.id g.engine.db.devices deviceId).any EngineDevice.privacyModeEnabled &&
    !(g.engine.db.scenario scenarioId).any ScenarioRow.bypassPrivacyMode

/-- `startRun` of a trigger or of the cron. -/
def startAutomatic (g : GateState) (scenarioId deviceId : ℕ) (opts : StartOpts) (record : Bool) (now : ℤ) :
    GateState :=
  if (toDbId (.num deviceId)).isNone then g
  else
    let (denial, memory) :=
      if g.isPrivate scenarioId deviceId then (none, g.memory) else g.ask scenarioId deviceId now
    { g with engine := startRun g.engine scenarioId deviceId opts denial record, memory := memory }

/-- The id of the run an automatic start inserts, when the gate lets it. -/
def automaticRunId (g : GateState) (scenarioId deviceId : ℕ) (opts : StartOpts) (now : ℤ) : Option ℕ :=
  if (toDbId (.num deviceId)).isNone then none
  else startedRunId g.engine scenarioId deviceId opts (g.ask scenarioId deviceId now).1

/-- The tables of graphs with their keys; edges are stored with the nodes of their own scenario. -/
structure GraphDb.Stored (db : GraphDb) : Prop where
  nodes_keyed : Keyed NodeRow.id db.nodes
  devices_keyed : Keyed EngineDevice.id db.devices
  edges_within : ∀ e ∈ db.edges, ∀ n ∈ db.nodes, n.id = e.targetNodeId → n.scenarioId = e.scenarioId

structure StoredGraph where
  db : GraphDb
  stored : db.Stored

inductive GateOp where
  | start (scenarioId deviceId : ℕ) (opts : StartOpts) (record : Bool) (now : ℤ)
  | engine (op : EngineOp)
  | edit (graph : StoredGraph)
  | write (tables : GateTables)

def gateStep (g : GateState) : GateOp → Option GateState
  | .start scenarioId deviceId opts record now => some (startAutomatic g scenarioId deviceId opts record now)
  | .engine (.edit _) => none
  | .engine op => (engineStep g.engine op).map fun engine => { g with engine := engine }
  | .edit graph => some { g with engine := editGraph g.engine graph.db }
  | .write tables => some { g with tables := tables }

/-- Ids are used up to `nextId`. -/
structure RowsUsed (s : EngineState) : Prop where
  runs : ∀ r ∈ s.runs, r.id < s.nextId
  nodeRuns : ∀ nr ∈ s.nodeRuns, nr.id < s.nextId ∧ nr.runId < s.nextId
  commands : ∀ c ∈ s.commands, ∀ id ∈ c.sourceId, id < s.nextId

/-- Any tables with their keys, and a server that just started. -/
def gateMachine : Machine GateState GateOp where
  init g := engineMachine.init g.engine ∧ RowsUsed g.engine ∧ g.engine.db.Stored ∧ g.memory = ⟨[], []⟩
  step := gateStep

/-! ## What a run does -/

/-- The command was sent by a node of the run. -/
def EngineState.OfRun (s : EngineState) (runId : ℕ) (c : CommandRow) : Prop :=
  c.sourceType = some .scenarioNode ∧ ∃ nr ∈ s.nodeRuns, c.sourceId = some nr.id ∧ nr.runId = runId

/-- The `i`-th task is at the executor of a node of the run. -/
def EngineState.ExecutesFor (s : EngineState) (runId i : ℕ) : Prop :=
  ∃ run node nodeRunId, s.threads[i]? = some (.executor run node nodeRunId) ∧ run.id = runId

/-- **What the run does**: its commands are for devices on which the user held `execute` when it started, and
the devices its nodes change are its own or those on which the user held write access. -/
structure WithinRights (g : GateState) (userId : ℤ) (deviceId runId : ℕ) (s : EngineState) : Prop where
  commands : ∀ c ∈ s.commands, s.OfRun runId c → g.tables.mayExecute g.engine.db userId c.deviceId = true
  devices : ∀ i now t, s.ExecutesFor runId i → runThread s i now = some t → ∀ id,
    get EngineDevice.id t.db.devices id ≠ get EngineDevice.id s.db.devices id →
      id = deviceId ∨ g.tables.mayWrite g.engine.db userId id = true

/-- The graphs stay, and no device that a node lists enters a tenant. -/
structure SameGraphs (db db' : GraphDb) : Prop where
  nodes : db'.nodes = db.nodes
  edges : db'.edges = db.edges
  devices : ∀ d' ∈ db'.devices, (∃ d ∈ db.devices, d.id = d'.id ∧ d.tenantId = d'.tenantId) ∨
    ∀ n ∈ db.nodes, (d'.id : ℚ) ∉ overrideIds n.config

def Undisturbed (s : EngineState) : EngineOp → Prop
  | .edit db => SameGraphs s.db db
  | _ => True

/-- The scenario was last saved, since there is the gate, by an active user that is no administrator. -/
def Accountable (g : GateState) (scenarioId : ℕ) (userId : ℤ) : Prop :=
  (g.tables.saved scenarioId).user = some userId ∧ g.epochMs ≤ (g.tables.saved scenarioId).stamp ∧
    ∃ row, get UserRow.id g.tables.users userId = some row ∧ row.role ≠ .admin ∧ row.isActive = true

/-- The answer of the gate is the one it gives without its memory. -/
def Current (g : GateState) (scenarioId deviceId : ℕ) (now : ℤ) : Prop :=
  (g.ask scenarioId deviceId now).1 = (({ g with memory := ⟨[], []⟩ } : GateState).ask scenarioId deviceId now).1

end Obliance.Scenario
