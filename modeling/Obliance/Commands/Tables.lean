import Mathlib.Data.Int.Notation
import Mathlib.Tactic.Common
import Obliance.Lib.KeyedTable

/-!
# The command queue (`services/command.service.ts`)

Rows of `command_queue`, the acks agents send for them and what an ack says: whether it is terminal,
the columns it writes and the exit code it reports.
-/

namespace Obliance.Commands

/-- The command types that processing an ack tells apart. -/
inductive CommandType where
  | runScript
  | installUpdate
  | installUpdates
  | openRemoteTunnel
  | hypervListVms
  | hypervConsoleThumbnail
  | veeamListJobs
  | other (name : String)
  deriving DecidableEq, Repr

inductive CommandStatus where
  | pending
  | sent
  | ackRunning
  | success
  | failure
  | timeout
  | cancelled
  deriving DecidableEq, Repr

/-- `source_type`, with the suffix of `scenario_step_…`. -/
inductive SourceType where
  | scriptExecution
  | diskHealthProbe
  | scenarioStep (suffix : String)
  | scenarioNode
  | other (name : String)
  deriving DecidableEq, Repr

/-- The fields of a payload that the server reads back. -/
structure CommandPayload where
  scriptId : Option ℕ
  sessionToken : Option String
  updateUid : Option String
  updateUids : List String
  deriving DecidableEq, Repr

def CommandPayload.empty : CommandPayload := ⟨none, none, none, []⟩

/-- `ack.result`; as the payload of a synthetic row it may also carry payload fields. -/
structure CommandResult where
  exitCode : Option ℤ
  stdout : Option String
  stderr : Option String
  error : Option String
  fields : CommandPayload
  deriving DecidableEq, Repr

/-- Instants in milliseconds; ids number the UUIDs of the table. -/
structure CommandRow where
  id : ℕ
  deviceId : ℕ
  tenantId : ℕ
  type : CommandType
  payload : CommandPayload
  status : CommandStatus
  ackedAt : Option ℤ
  finishedAt : Option ℤ
  expiresAt : Option ℤ
  result : Option CommandResult
  sourceType : Option SourceType
  sourceId : Option ℕ
  deriving DecidableEq, Repr

inductive AckStatus where
  | ackRunning
  | success
  | failure
  | timeout
  deriving DecidableEq, Repr

/-- `ack.commandId`: a UUID, spelled as the server spells it or not (the database ignores case, a
`Map` does not), or another text. -/
inductive AckId where
  | uuid (id : ℕ) (canonical : Bool)
  | other (text : String)
  deriving DecidableEq, Repr

/-- An ack; a `commandType` outside the column's enum is no type, its insertion fails silently. -/
structure Ack where
  commandId : AckId
  commandType : Option CommandType
  status : AckStatus
  result : Option CommandResult
  deriving DecidableEq, Repr

def AckStatus.toCommandStatus : AckStatus → CommandStatus
  | .ackRunning => .ackRunning
  | .success => .success
  | .failure => .failure
  | .timeout => .timeout

def AckStatus.isTerminal : AckStatus → Bool
  | .ackRunning => false
  | _ => true

/-- `result?.exitCode ?? (ack.status === 'success' ? 0 : -1)` -/
def Ack.exitCode (a : Ack) : ℤ :=
  (a.result.bind CommandResult.exitCode).getD (if a.status = .success then 0 else -1)

/-- `result?.stdout ?? ''` -/
def Ack.stdout (a : Ack) : String := (a.result.bind CommandResult.stdout).getD ""

/-- `result?.stderr ?? result?.error ?? ''` -/
def Ack.stderr (a : Ack) : String :=
  ((a.result.bind CommandResult.stderr).or (a.result.bind CommandResult.error)).getD ""

/-- The columns an ack writes. -/
def CommandRow.acked (r : CommandRow) (a : Ack) (now : ℤ) : CommandRow :=
  { r with
    status := a.status.toCommandStatus
    ackedAt := some now
    result := a.result
    finishedAt := if a.status.isTerminal then some now else r.finishedAt }

/-- `UPDATE command_queue … WHERE id = ? AND device_id = ?` -/
def updateQueue (commands : List CommandRow) (deviceId id : ℕ) (a : Ack) (now : ℤ) : List CommandRow :=
  commands.map fun r => if r.id = id ∧ r.deviceId = deviceId then r.acked a now else r

end Obliance.Commands
