import Mathlib.Data.Rat.Defs
import Mathlib.Tactic.Common
import Obliance.Js.Value
import Obliance.Lib.KeyedTable

/-!
# The two execution paths of the agent (`command_handler.go`, `command_channel.go`, `privacy_gate.go`)

A command that comes with a push or a poll goes through `executeCommand`, one that comes over the socket
through `dispatchHubCommand`, which hands most types on to `ExecuteSync`. Each has its copy of the privacy
gate and its own switch over the types.

* `checkUnlockToken`, `gate` : the unlock sessions, and the gate its three copies instantiate;
* `executeSwitch`, `hubSwitch`, `syncSwitch` : the handler of each case;
* `executeCommand`, `dispatchHubCommand` : what is dispatched and what is reported;
* `Agree`, `InStep` : the two paths treat a command alike, and when they do;
* `paths_agree_iff` : one is the other.
-/

namespace Obliance.Agent.Execution
open Obliance.Js

/-! ## Commands -/

/-- The cases of the switches. -/
inductive CommandCase where
  | hypervListVms | hypervControl | hypervConsoleThumbnail | veeamListJobs | veeamControl | scanInventory
  | scanUpdates | runScript | cancelScript | installUpdate | installUpdates | checkCompliance | remediateRule
  | openRemoteTunnel | closeRemoteTunnel | sshJumpGrant | sshJumpRevoke | reboot | shutdown | sleep
  | startCustomSection | stopCustomSection | resizeCustomSection | setPrivacyPassword | changePrivacyPassword
  | removePrivacyPassword | verifyPrivacyPassword | restartAgent | updateAgent | uninstallAgent
  | installOblireach | installVmConsole | openVmConsole | closeVmConsole | listWtsSessions | listProcesses
  | killProcess | listServices | restartService | startService | stopService | listDirectory | createDirectory
  | renameFile | deleteFile | downloadFile | uploadFile | scanNetwork | checkSoftwareCompliance
  | installSoftware | uninstallSoftware | disablePrivacyMode | enablePrivacyMode | liveMetrics | enableAirgap
  | disableAirgap
  deriving DecidableEq, Repr

def CommandCase.text : CommandCase → String
  | .hypervListVms => "hyperv_list_vms"
  | .hypervControl => "hyperv_control"
  | .hypervConsoleThumbnail => "hyperv_console_thumbnail"
  | .veeamListJobs => "veeam_list_jobs"
  | .veeamControl => "veeam_control"
  | .scanInventory => "scan_inventory"
  | .scanUpdates => "scan_updates"
  | .runScript => "run_script"
  | .cancelScript => "cancel_script"
  | .installUpdate => "install_update"
  | .installUpdates => "install_updates"
  | .checkCompliance => "check_compliance"
  | .remediateRule => "remediate_rule"
  | .openRemoteTunnel => "open_remote_tunnel"
  | .closeRemoteTunnel => "close_remote_tunnel"
  | .sshJumpGrant => "ssh_jump_grant"
  | .sshJumpRevoke => "ssh_jump_revoke"
  | .reboot => "reboot"
  | .shutdown => "shutdown"
  | .sleep => "sleep"
  | .startCustomSection => "start_custom_section"
  | .stopCustomSection => "stop_custom_section"
  | .resizeCustomSection => "resize_custom_section"
  | .setPrivacyPassword => "set_privacy_password"
  | .changePrivacyPassword => "change_privacy_password"
  | .removePrivacyPassword => "remove_privacy_password"
  | .verifyPrivacyPassword => "verify_privacy_password"
  | .restartAgent => "restart_agent"
  | .updateAgent => "update_agent"
  | .uninstallAgent => "uninstall_agent"
  | .installOblireach => "install_oblireach"
  | .installVmConsole => "install_vm_console"
  | .openVmConsole => "open_vm_console"
  | .closeVmConsole => "close_vm_console"
  | .listWtsSessions => "list_wts_sessions"
  | .listProcesses => "list_processes"
  | .killProcess => "kill_process"
  | .listServices => "list_services"
  | .restartService => "restart_service"
  | .startService => "start_service"
  | .stopService => "stop_service"
  | .listDirectory => "list_directory"
  | .createDirectory => "create_directory"
  | .renameFile => "rename_file"
  | .deleteFile => "delete_file"
  | .downloadFile => "download_file"
  | .uploadFile => "upload_file"
  | .scanNetwork => "scan_network"
  | .checkSoftwareCompliance => "check_software_compliance"
  | .installSoftware => "install_software"
  | .uninstallSoftware => "uninstall_software"
  | .disablePrivacyMode => "disable_privacy_mode"
  | .enablePrivacyMode => "enable_privacy_mode"
  | .liveMetrics => "live_metrics"
  | .enableAirgap => "enable_airgap"
  | .disableAirgap => "disable_airgap"

/-- A type is a case of a switch or a text that is none. -/
inductive CommandType where
  | known (c : CommandCase)
  | other (text : String) (h : ∀ c : CommandCase, c.text ≠ text)

def CommandType.text : CommandType → String
  | .known c => c.text
  | .other text _ => text

/-- The payload by its fields. -/
structure AgentCommand where
  id : String
  type : CommandType
  payload : String → JsVal

/-- `v, _ := x.(bool)` -/
def asBool : JsVal → Bool
  | .bool b => b
  | .undefined | .null | .num _ | .str _ | .obj _ => false

/-- `v, _ := x.(string)` -/
def asString : JsVal → String
  | .str s => s
  | .undefined | .null | .num _ | .bool _ | .obj _ => ""

def AgentCommand.bypassPrivacy (cmd : AgentCommand) : Bool := asBool (cmd.payload "bypassPrivacy")

def AgentCommand.unlockToken (cmd : AgentCommand) : String := asString (cmd.payload "unlockToken")

/-- `int(v)` drops the fraction. -/
def AgentCommand.expectedExitCode (cmd : AgentCommand) : ℤ :=
  match cmd.payload "expectedExitCode" with
  | .num q => q.num.tdiv q.den
  | .undefined | .null | .bool _ | .str _ | .obj _ => 0

/-! ## Handlers -/

/-- The methods the switches call, and the code they hold themselves. -/
inductive AgentHandler where
  | handleHyperVListVMs | handleHyperVControl | handleHyperVConsoleThumbnail | handleVeeamListJobs
  | handleVeeamControl | handleScanInventory | handleScanUpdates | handleRunScript | handleCancelScript
  | handleInstallUpdate | handleInstallUpdates | handleCheckCompliance | handleRemediateRule
  | handleOpenRemoteTunnel | handleCloseRemoteTunnel | handleSshJumpGrant | handleSshJumpRevoke | handleReboot
  | handleShutdown | handleSleep | handleStartCustomSection | handleStopCustomSection
  | handleResizeCustomSection | handleSetPrivacyPassword | handleChangePrivacyPassword
  | handleRemovePrivacyPassword | handleVerifyPrivacyPassword | handleRestartAgent | handleUpdateAgent
  | handleUninstallAgent | handleInstallOblireach | handleInstallVmConsole | handleOpenVmConsole
  | handleCloseVmConsole | handleListWtsSessions | handleListProcesses | handleKillProcess | handleListServices
  | handleRestartService | handleStartService | handleStopService | handleListDirectory | handleCreateDirectory
  | handleRenameFile | handleDeleteFile | handleDownloadFile | handleUploadFile | handleScanNetwork
  | handleCheckSoftwareCompliance | handleInstallSoftware | handleUninstallSoftware
  | setPrivacyMode (on : Bool) | liveMetrics | setAirgapMode (on : Bool)
  deriving DecidableEq, Repr

structure ScriptResult where
  exitCode : ℤ
  stdout : String
  stderr : String
  duration : ℤ
  deriving DecidableEq, Repr

/-- The result of a handler by its dynamic type; anything else is its JSON text. -/
inductive HandlerValue where
  | nil
  | strings (fields : List (String × String))
  | script (r : ScriptResult)
  | other (json : String)
  deriving DecidableEq, Repr

/-- No handler returns a value beside an error. -/
inductive HandlerOutcome where
  | returns (value : HandlerValue)
  | fails (error : String)
  | panics (message : String)
  deriving DecidableEq, Repr

/-! ## The privacy gate -/

/-- Instants in nanoseconds. -/
structure UnlockSession where
  token : String
  feature : String
  createdAt : ℤ
  lastUsed : ℤ
  deriving DecidableEq, Repr

/-- 15 minutes -/
def unlockTTL : ℤ := 900000000000

/-- 2 hours -/
def unlockMax : ℤ := 7200000000000

def checkUnlockToken (now : ℤ) (activeUnlocks : List UnlockSession) (token feature : String) :
    Bool × List UnlockSession :=
  if token = "" then (false, activeUnlocks)
  else
    match KeyedTable.get UnlockSession.token activeUnlocks token with
    | none => (false, activeUnlocks)
    | some s =>
        if now - s.createdAt > unlockMax then
          (false, KeyedTable.remove UnlockSession.token activeUnlocks token)
        else if now - s.lastUsed > unlockTTL then
          (false, KeyedTable.remove UnlockSession.token activeUnlocks token)
        else if feature ≠ "" ∧ s.feature ≠ feature ∧ s.feature ≠ "" then (false, activeUnlocks)
        else (true, KeyedTable.modify UnlockSession.token activeUnlocks token fun s =>
          { s with lastUsed := now })

def isBlockedByPrivacy : CommandType → Bool
  | .known .openRemoteTunnel | .known .sshJumpGrant | .known .runScript | .known .listWtsSessions => true
  | .known .listProcesses | .known .killProcess => true
  | .known .listDirectory | .known .createDirectory | .known .renameFile => true
  | .known .deleteFile | .known .downloadFile | .known .uploadFile => true
  | _ => false

def privacyFeatureForCommand : CommandType → String
  | .known .runScript => "scripts"
  | .known .openRemoteTunnel | .known .sshJumpGrant => "remote"
  | .known .listWtsSessions | .known .listProcesses | .known .killProcess => "processes"
  | .known .listDirectory | .known .createDirectory | .known .renameFile => "files"
  | .known .deleteFile | .known .downloadFile | .known .uploadFile => "files"
  | _ => ""

/-- The agent when the command arrives; `run` is what each handler does with a command. -/
structure AgentEnv where
  privacyMode : Bool
  now : ℤ
  activeUnlocks : List UnlockSession
  run : AgentHandler → AgentCommand → HandlerOutcome

/-- A gate lets a command through (`bypass` is what it takes for an authorised bypass). -/
def gate (env : AgentEnv) (bypass : Bool) (cmd : AgentCommand) (activeUnlocks : List UnlockSession) :
    Bool × List UnlockSession :=
  if env.privacyMode && isBlockedByPrivacy cmd.type then
    if bypass then (true, activeUnlocks)
    else checkUnlockToken env.now activeUnlocks cmd.unlockToken (privacyFeatureForCommand cmd.type)
  else (true, activeUnlocks)

def executeGate (env : AgentEnv) (cmd : AgentCommand) := gate env cmd.bypassPrivacy cmd

def syncGate (env : AgentEnv) (cmd : AgentCommand) := gate env cmd.bypassPrivacy cmd

/-- The gate of `dispatchHubCommand` does not read `bypassPrivacy`. -/
def hubGate (env : AgentEnv) (cmd : AgentCommand) := gate env false cmd

/-! ## The switches -/

/-- The switch of `executeCommand`. -/
def executeSwitch : CommandCase → Option AgentHandler
  | .hypervListVms => some .handleHyperVListVMs
  | .hypervControl => some .handleHyperVControl
  | .hypervConsoleThumbnail => some .handleHyperVConsoleThumbnail
  | .veeamListJobs => some .handleVeeamListJobs
  | .veeamControl => some .handleVeeamControl
  | .scanInventory => some .handleScanInventory
  | .scanUpdates => some .handleScanUpdates
  | .runScript => some .handleRunScript
  | .cancelScript => some .handleCancelScript
  | .installUpdate => some .handleInstallUpdate
  | .installUpdates => some .handleInstallUpdates
  | .checkCompliance => some .handleCheckCompliance
  | .remediateRule => some .handleRemediateRule
  | .openRemoteTunnel => some .handleOpenRemoteTunnel
  | .closeRemoteTunnel => some .handleCloseRemoteTunnel
  | .sshJumpGrant => some .handleSshJumpGrant
  | .sshJumpRevoke => some .handleSshJumpRevoke
  | .reboot => some .handleReboot
  | .shutdown => some .handleShutdown
  | .sleep => some .handleSleep
  | .startCustomSection => some .handleStartCustomSection
  | .stopCustomSection => some .handleStopCustomSection
  | .resizeCustomSection => some .handleResizeCustomSection
  | .setPrivacyPassword => some .handleSetPrivacyPassword
  | .changePrivacyPassword => some .handleChangePrivacyPassword
  | .removePrivacyPassword => some .handleRemovePrivacyPassword
  | .verifyPrivacyPassword => some .handleVerifyPrivacyPassword
  | .restartAgent => some .handleRestartAgent
  | .updateAgent => some .handleUpdateAgent
  | .uninstallAgent => some .handleUninstallAgent
  | .installOblireach => some .handleInstallOblireach
  | .listWtsSessions => some .handleListWtsSessions
  | .listProcesses => some .handleListProcesses
  | .killProcess => some .handleKillProcess
  | .listServices => some .handleListServices
  | .restartService => some .handleRestartService
  | .startService => some .handleStartService
  | .stopService => some .handleStopService
  | .listDirectory => some .handleListDirectory
  | .createDirectory => some .handleCreateDirectory
  | .renameFile => some .handleRenameFile
  | .deleteFile => some .handleDeleteFile
  | .downloadFile => some .handleDownloadFile
  | .uploadFile => some .handleUploadFile
  | .scanNetwork => some .handleScanNetwork
  | .checkSoftwareCompliance => some .handleCheckSoftwareCompliance
  | .installSoftware => some .handleInstallSoftware
  | .uninstallSoftware => some .handleUninstallSoftware
  | .disablePrivacyMode => some (.setPrivacyMode false)
  | .enablePrivacyMode => some (.setPrivacyMode true)
  | .liveMetrics => some .liveMetrics
  | .enableAirgap => some (.setAirgapMode true)
  | .disableAirgap => some (.setAirgapMode false)
  | .openVmConsole | .closeVmConsole | .installVmConsole => none

/-- The cases `dispatchHubCommand` has itself. -/
def hubSwitch : CommandCase → Option AgentHandler
  | .openRemoteTunnel => some .handleOpenRemoteTunnel
  | .closeRemoteTunnel => some .handleCloseRemoteTunnel
  | .openVmConsole => some .handleOpenVmConsole
  | .closeVmConsole => some .handleCloseVmConsole
  | _ => none

/-- The switch of `ExecuteSync`. -/
def syncSwitch : CommandCase → Option AgentHandler
  | .hypervListVms => some .handleHyperVListVMs
  | .hypervControl => some .handleHyperVControl
  | .hypervConsoleThumbnail => some .handleHyperVConsoleThumbnail
  | .veeamListJobs => some .handleVeeamListJobs
  | .veeamControl => some .handleVeeamControl
  | .scanInventory => some .handleScanInventory
  | .scanUpdates => some .handleScanUpdates
  | .runScript => some .handleRunScript
  | .cancelScript => some .handleCancelScript
  | .installUpdate => some .handleInstallUpdate
  | .installUpdates => some .handleInstallUpdates
  | .checkCompliance => some .handleCheckCompliance
  | .remediateRule => some .handleRemediateRule
  | .sshJumpGrant => some .handleSshJumpGrant
  | .sshJumpRevoke => some .handleSshJumpRevoke
  | .reboot => some .handleReboot
  | .shutdown => some .handleShutdown
  | .sleep => some .handleSleep
  | .startCustomSection => some .handleStartCustomSection
  | .stopCustomSection => some .handleStopCustomSection
  | .resizeCustomSection => some .handleResizeCustomSection
  | .setPrivacyPassword => some .handleSetPrivacyPassword
  | .changePrivacyPassword => some .handleChangePrivacyPassword
  | .removePrivacyPassword => some .handleRemovePrivacyPassword
  | .verifyPrivacyPassword => some .handleVerifyPrivacyPassword
  | .restartAgent => some .handleRestartAgent
  | .updateAgent => some .handleUpdateAgent
  | .uninstallAgent => some .handleUninstallAgent
  | .installOblireach => some .handleInstallOblireach
  | .installVmConsole => some .handleInstallVmConsole
  | .listWtsSessions => some .handleListWtsSessions
  | .listProcesses => some .handleListProcesses
  | .killProcess => some .handleKillProcess
  | .listServices => some .handleListServices
  | .restartService => some .handleRestartService
  | .startService => some .handleStartService
  | .stopService => some .handleStopService
  | .listDirectory => some .handleListDirectory
  | .createDirectory => some .handleCreateDirectory
  | .renameFile => some .handleRenameFile
  | .deleteFile => some .handleDeleteFile
  | .downloadFile => some .handleDownloadFile
  | .uploadFile => some .handleUploadFile
  | .scanNetwork => some .handleScanNetwork
  | .disablePrivacyMode => some (.setPrivacyMode false)
  | .enablePrivacyMode => some (.setPrivacyMode true)
  | .liveMetrics => some .liveMetrics
  | .enableAirgap => some (.setAirgapMode true)
  | .disableAirgap => some (.setAirgapMode false)
  | .openRemoteTunnel | .closeRemoteTunnel | .openVmConsole | .closeVmConsole => none
  | .checkSoftwareCompliance | .installSoftware | .uninstallSoftware => none

/-- A switch at a type; a text of no case is its `default`. -/
def CommandType.lookup (switch : CommandCase → Option AgentHandler) : CommandType → Option AgentHandler
  | .known c => switch c
  | .other _ _ => none

/-- What a path does with a command. -/
inductive Dispatch where
  | refused
  | unknown
  | handler (h : AgentHandler)
  deriving DecidableEq, Repr

def Dispatch.ofSwitch : Option AgentHandler → Dispatch
  | none => .unknown
  | some h => .handler h

/-! ## The paths -/

def executeDispatch (env : AgentEnv) (cmd : AgentCommand) : Dispatch × List UnlockSession :=
  let (allowed, activeUnlocks) := executeGate env cmd env.activeUnlocks
  if allowed then (.ofSwitch (cmd.type.lookup executeSwitch), activeUnlocks)
  else (.refused, activeUnlocks)

def executeSync (env : AgentEnv) (cmd : AgentCommand) (activeUnlocks : List UnlockSession) :
    Dispatch × List UnlockSession :=
  let (allowed, activeUnlocks) := syncGate env cmd activeUnlocks
  if allowed then (.ofSwitch (cmd.type.lookup syncSwitch), activeUnlocks)
  else (.refused, activeUnlocks)

def hubDispatch (env : AgentEnv) (cmd : AgentCommand) : Dispatch × List UnlockSession :=
  let (allowed, activeUnlocks) := hubGate env cmd env.activeUnlocks
  if allowed then
    match cmd.type.lookup hubSwitch with
    | some h => (.handler h, activeUnlocks)
    | none => executeSync env cmd activeUnlocks
  else (.refused, activeUnlocks)

/-- The result and the error that the rest of a path sees. -/
def Dispatch.outcome (env : AgentEnv) (cmd : AgentCommand) : Dispatch → HandlerOutcome
  | .refused => .fails "privacy mode is enabled — remote access denied"
  | .unknown => .fails ("unknown command type: " ++ cmd.type.text)
  | .handler h => env.run h cmd

inductive Terminal where
  | success
  | failure
  deriving DecidableEq, Repr

inductive AckContent where
  | value (v : HandlerValue)
  | error (text : String)
  deriving DecidableEq, Repr

/-- A terminal `CommandAck`. -/
structure ExecuteAck where
  commandId : String
  commandType : String
  status : Terminal
  result : AckContent
  deriving DecidableEq, Repr

/-- The status of a command whose handler returned: a script must exit with the expected code. -/
def returnedStatus (cmd : AgentCommand) (value : HandlerValue) : Terminal :=
  match cmd.type, value with
  | .known .runScript, .script sr => if sr.exitCode ≠ cmd.expectedExitCode then .failure else .success
  | _, _ => .success

/-- The ack of `executeCommand`, which recovers from a panic. -/
def executeAck (cmd : AgentCommand) : HandlerOutcome → ExecuteAck
  | .returns value => ⟨cmd.id, cmd.type.text, returnedStatus cmd value, .value value⟩
  | .fails error => ⟨cmd.id, cmd.type.text, .failure, .error error⟩
  | .panics message => ⟨cmd.id, cmd.type.text, .failure, .error ("panic: " ++ message)⟩

structure HubAck where
  id : String
  commandType : String
  success : Bool
  content : AckContent
  sessionToken : String
  deriving DecidableEq, Repr

/-- The session token an ack carries: of the payload, else of the result. -/
def ackSessionToken (cmd : AgentCommand) (value : HandlerValue) : String :=
  if asString (cmd.payload "sessionToken") ≠ "" then asString (cmd.payload "sessionToken")
  else
    match value with
    | .strings fields => (fields.lookup "sessionToken").getD ""
    | .nil | .script _ | .other _ => ""

/-- The ack of `dispatchHubCommand`. Nothing recovers there: a panic ends the agent and leaves none. -/
def hubAck (cmd : AgentCommand) : HandlerOutcome → Option HubAck
  | .returns value => some ⟨cmd.id, cmd.type.text, true, .value value, ackSessionToken cmd value⟩
  | .fails error => some ⟨cmd.id, cmd.type.text, false, .error error, ackSessionToken cmd .nil⟩
  | .panics _ => none

def HubAck.status (ack : HubAck) : Terminal := if ack.success then .success else .failure

def executeCommand (env : AgentEnv) (cmd : AgentCommand) : Dispatch × ExecuteAck :=
  let dispatch := (executeDispatch env cmd).1
  (dispatch, executeAck cmd (dispatch.outcome env cmd))

def dispatchHubCommand (env : AgentEnv) (cmd : AgentCommand) : Dispatch × Option HubAck :=
  let dispatch := (hubDispatch env cmd).1
  (dispatch, hubAck cmd (dispatch.outcome env cmd))

/-- The two paths take the same decision, dispatch to the same handler and report the same outcome. -/
def Agree (env : AgentEnv) (cmd : AgentCommand) : Prop :=
  (executeCommand env cmd).1 = (dispatchHubCommand env cmd).1 ∧
    (dispatchHubCommand env cmd).2.map HubAck.status = some (executeCommand env cmd).2.status

instance (env : AgentEnv) (cmd : AgentCommand) : Decidable (Agree env cmd) :=
  inferInstanceAs (Decidable (_ ∧ _))

/-! ## The gate -/

section Gate
variable {env : AgentEnv} {cmd : AgentCommand} {activeUnlocks : List UnlockSession}

def Guarded (env : AgentEnv) (cmd : AgentCommand) : Prop :=
  env.privacyMode = true ∧ isBlockedByPrivacy cmd.type = true

def TokenValid (env : AgentEnv) (cmd : AgentCommand) : Prop :=
  (checkUnlockToken env.now env.activeUnlocks cmd.unlockToken (privacyFeatureForCommand cmd.type)).1 = true

theorem checkUnlockToken_eq_true {now : ℤ} {token feature : String}
    (h : (checkUnlockToken now activeUnlocks token feature).1 = true) :
    token ≠ "" ∧ ∃ s, KeyedTable.get UnlockSession.token activeUnlocks token = some s ∧
      ¬ now - s.createdAt > unlockMax ∧ ¬ now - s.lastUsed > unlockTTL ∧
      ¬ (feature ≠ "" ∧ s.feature ≠ feature ∧ s.feature ≠ "") := by
  unfold checkUnlockToken at h
  split_ifs at h with htoken
  refine ⟨htoken, ?_⟩
  cases hget : KeyedTable.get UnlockSession.token activeUnlocks token with
  | none => simp [hget] at h
  | some s =>
      simp only [hget] at h
      split_ifs at h with hmax httl hfeature
      exact ⟨s, rfl, hmax, httl, hfeature⟩

theorem checkUnlockToken_of_session {now : ℤ} {token feature : String} {s : UnlockSession}
    (htoken : token ≠ "") (hget : KeyedTable.get UnlockSession.token activeUnlocks token = some s)
    (hmax : ¬ now - s.createdAt > unlockMax) (httl : ¬ now - s.lastUsed > unlockTTL)
    (hfeature : ¬ (feature ≠ "" ∧ s.feature ≠ feature ∧ s.feature ≠ "")) :
    checkUnlockToken now activeUnlocks token feature =
      (true, KeyedTable.modify UnlockSession.token activeUnlocks token fun s => { s with lastUsed := now }) := by
  unfold checkUnlockToken
  rw [if_neg htoken, hget]
  simp only [if_neg hmax, if_neg httl, if_neg hfeature]

/-- A token that was just accepted is accepted again: its session is only refreshed. -/
theorem checkUnlockToken_again {now : ℤ} {token feature : String}
    (h : (checkUnlockToken now activeUnlocks token feature).1 = true) :
    (checkUnlockToken now (checkUnlockToken now activeUnlocks token feature).2 token feature).1 = true := by
  obtain ⟨htoken, s, hget, hmax, httl, hfeature⟩ := checkUnlockToken_eq_true h
  rw [checkUnlockToken_of_session htoken hget hmax httl hfeature]
  have hagain : KeyedTable.get UnlockSession.token
      (KeyedTable.modify UnlockSession.token activeUnlocks token fun s => { s with lastUsed := now }) token =
        some { s with lastUsed := now } := by
    have hkey (s : UnlockSession) : UnlockSession.token { s with lastUsed := now } = s.token := rfl
    rw [KeyedTable.get_modify_self hkey, hget]
    rfl
  rw [checkUnlockToken_of_session htoken hagain hmax (by simp [unlockTTL]) hfeature]

theorem gate_of_not_guarded (h : ¬ Guarded env cmd) (bypass : Bool) :
    gate env bypass cmd activeUnlocks = (true, activeUnlocks) := by
  unfold gate
  rw [if_neg]
  simpa [Guarded] using h

theorem gate_of_guarded (h : Guarded env cmd) (bypass : Bool) :
    gate env bypass cmd activeUnlocks =
      if bypass then (true, activeUnlocks)
      else checkUnlockToken env.now activeUnlocks cmd.unlockToken (privacyFeatureForCommand cmd.type) := by
  unfold gate
  rw [if_pos]
  simpa [Guarded] using h

/-- What one gate lets through on its token, any later gate lets through. -/
theorem gate_again (h : (gate env false cmd activeUnlocks).1 = true) (bypass : Bool) :
    (gate env bypass cmd (gate env false cmd activeUnlocks).2).1 = true := by
  by_cases hg : Guarded env cmd
  · rw [gate_of_guarded hg] at h ⊢
    cases bypass with
    | true => rfl
    | false =>
        rw [gate_of_guarded hg]
        exact checkUnlockToken_again h
  · rw [gate_of_not_guarded hg]

theorem hubGate_eq_true_iff :
    (hubGate env cmd env.activeUnlocks).1 = true ↔ ¬ Guarded env cmd ∨ TokenValid env cmd := by
  unfold hubGate
  by_cases hg : Guarded env cmd
  · rw [gate_of_guarded hg]
    simp [hg, TokenValid]
  · rw [gate_of_not_guarded hg]
    simp [hg]

theorem executeGate_eq_true_iff :
    (executeGate env cmd env.activeUnlocks).1 = true ↔
      cmd.bypassPrivacy = true ∨ ¬ Guarded env cmd ∨ TokenValid env cmd := by
  unfold executeGate
  by_cases hg : Guarded env cmd
  · rw [gate_of_guarded hg]
    cases hb : cmd.bypassPrivacy <;> simp [hg, TokenValid]
  · rw [gate_of_not_guarded hg]
    simp [hg]

end Gate

/-! ## The switches -/

/-- The cases that only one of the paths knows. -/
def CommandType.drifts : CommandType → Bool
  | .known .checkSoftwareCompliance | .known .installSoftware | .known .uninstallSoftware => true
  | .known .openVmConsole | .known .closeVmConsole | .known .installVmConsole => true
  | _ => false

def CommandType.hubLookup (type : CommandType) : Option AgentHandler :=
  (type.lookup hubSwitch).or (type.lookup syncSwitch)

theorem hubLookup_eq_iff (type : CommandType) :
    type.lookup executeSwitch = type.hubLookup ↔ type.drifts = false := by
  cases type with
  | other text h => simp [CommandType.lookup, CommandType.hubLookup, CommandType.drifts]
  | known c => cases c <;> decide

theorem Dispatch.ofSwitch_inj {a b : Option AgentHandler} :
    Dispatch.ofSwitch a = Dispatch.ofSwitch b ↔ a = b := by
  cases a <;> cases b <;> simp [Dispatch.ofSwitch]

theorem Dispatch.ofSwitch_ne_refused (a : Option AgentHandler) : Dispatch.ofSwitch a ≠ .refused := by
  cases a <;> simp [Dispatch.ofSwitch]

section Paths
variable {env : AgentEnv} {cmd : AgentCommand}

theorem executeDispatch_fst :
    (executeDispatch env cmd).1 =
      if (executeGate env cmd env.activeUnlocks).1 then .ofSwitch (cmd.type.lookup executeSwitch)
      else .refused := by
  unfold executeDispatch
  dsimp only
  split_ifs <;> rfl

/-- The second gate of the socket path never refuses what the first let through. -/
theorem hubDispatch_fst :
    (hubDispatch env cmd).1 =
      if (hubGate env cmd env.activeUnlocks).1 then .ofSwitch cmd.type.hubLookup else .refused := by
  unfold hubDispatch
  dsimp only
  split_ifs with hgate
  · have hagain : (syncGate env cmd (hubGate env cmd env.activeUnlocks).2).1 = true := gate_again hgate _
    unfold CommandType.hubLookup
    cases cmd.type.lookup hubSwitch with
    | some h => rfl
    | none =>
        unfold executeSync
        simp only [hagain, if_true, Option.none_or]
  · rfl

/-! ## The acks -/

/-- Both paths encode the outcome alike: no panic, and a script that exits as expected. -/
def ReportedAlike (cmd : AgentCommand) : HandlerOutcome → Prop
  | .returns value => ∀ sr, cmd.type = .known .runScript → value = .script sr →
      sr.exitCode = cmd.expectedExitCode
  | .fails _ => True
  | .panics _ => False

theorem returnedStatus_eq_success_iff {value : HandlerValue} :
    returnedStatus cmd value = .success ↔ ReportedAlike cmd (.returns value) := by
  unfold returnedStatus ReportedAlike
  split
  next sr htype =>
    rw [htype]
    split_ifs with hne
    · simp [hne]
    · simpa using hne
  next hcases =>
    simp only [true_iff]
    rintro sr htype rfl
    exact absurd rfl (hcases sr htype)

theorem acks_agree_iff {o : HandlerOutcome} :
    (hubAck cmd o).map HubAck.status = some (executeAck cmd o).status ↔ ReportedAlike cmd o := by
  cases o with
  | returns value =>
      rw [← returnedStatus_eq_success_iff]
      simp [hubAck, executeAck, HubAck.status, eq_comm]
  | fails error => simp [hubAck, executeAck, HubAck.status, ReportedAlike]
  | panics message => simp [hubAck, ReportedAlike]

/-- The handler of the command, if it has one, ends so that both paths report it alike. -/
def HandledAlike (env : AgentEnv) (cmd : AgentCommand) : Prop :=
  ∀ h, cmd.type.lookup executeSwitch = some h → ReportedAlike cmd (env.run h cmd)

theorem outcome_ofSwitch_iff :
    ReportedAlike cmd ((Dispatch.ofSwitch (cmd.type.lookup executeSwitch)).outcome env cmd) ↔
      HandledAlike env cmd := by
  unfold HandledAlike
  cases cmd.type.lookup executeSwitch with
  | none => simp [Dispatch.ofSwitch, Dispatch.outcome, ReportedAlike]
  | some h => simp [Dispatch.ofSwitch, Dispatch.outcome]

/-- Either both gates let the command through on the same ground, both paths know its type and its handler
ends alike for both; or both gates refuse it. -/
def InStep (env : AgentEnv) (cmd : AgentCommand) : Prop :=
  (¬ Guarded env cmd ∨ TokenValid env cmd) ∧ cmd.type.drifts = false ∧ HandledAlike env cmd ∨
    (Guarded env cmd ∧ ¬ TokenValid env cmd) ∧ cmd.bypassPrivacy = false

theorem agree_of_allowed (h : ¬ Guarded env cmd ∨ TokenValid env cmd) :
    Agree env cmd ↔ cmd.type.drifts = false ∧ HandledAlike env cmd := by
  have hexecute : (executeDispatch env cmd).1 = .ofSwitch (cmd.type.lookup executeSwitch) := by
    rw [executeDispatch_fst, if_pos (executeGate_eq_true_iff.2 (.inr h))]
  have hhub : (hubDispatch env cmd).1 = .ofSwitch cmd.type.hubLookup := by
    rw [hubDispatch_fst, if_pos (hubGate_eq_true_iff.2 h)]
  unfold Agree executeCommand dispatchHubCommand
  dsimp only
  rw [hexecute, hhub, Dispatch.ofSwitch_inj, hubLookup_eq_iff]
  refine and_congr_right fun hdrifts => ?_
  rw [← (hubLookup_eq_iff cmd.type).2 hdrifts, acks_agree_iff, outcome_ofSwitch_iff]

theorem agree_of_denied (h : Guarded env cmd ∧ ¬ TokenValid env cmd) :
    Agree env cmd ↔ cmd.bypassPrivacy = false := by
  have hdenied : ¬ (¬ Guarded env cmd ∨ TokenValid env cmd) := by simpa using h
  have hhub : (hubDispatch env cmd).1 = .refused := by
    rw [hubDispatch_fst, if_neg (mt hubGate_eq_true_iff.1 hdenied)]
  unfold Agree executeCommand dispatchHubCommand
  dsimp only
  rw [hhub, executeDispatch_fst]
  cases hbypass : cmd.bypassPrivacy with
  | true =>
      rw [if_pos (executeGate_eq_true_iff.2 (.inl hbypass))]
      simp [Dispatch.ofSwitch_ne_refused]
  | false =>
      rw [if_neg fun hgate => (executeGate_eq_true_iff.1 hgate).elim (by simp [hbypass]) hdenied]
      exact iff_of_true ⟨rfl, acks_agree_iff.2 trivial⟩ rfl

end Paths

/-! ## The result -/

/-- The paths agree on a command exactly when they are in step on it. -/
theorem paths_agree_iff (env : AgentEnv) (cmd : AgentCommand) : Agree env cmd ↔ InStep env cmd := by
  unfold InStep
  by_cases h : ¬ Guarded env cmd ∨ TokenValid env cmd
  · rw [agree_of_allowed h]
    have hnot : ¬ (Guarded env cmd ∧ ¬ TokenValid env cmd) := by tauto
    simp [h, hnot]
  · have hdenied : Guarded env cmd ∧ ¬ TokenValid env cmd := by tauto
    rw [agree_of_denied hdenied]
    simp [hdenied]

/-- A command without a payload. -/
def bareCommand (c : CommandCase) : AgentCommand := ⟨"7f3a", .known c, fun _ => .undefined⟩

/-- An agent whose scripts exit with 1. -/
def failingScripts : AgentEnv where
  privacyMode := false
  now := 0
  activeUnlocks := []
  run := fun _ _ => .returns (.script ⟨1, "", "", 5⟩)

/-- A script that exits with 1 where 0 is expected fails over a push and succeeds over the socket, a
software check is unknown over the socket, and a bypass of the privacy mode is refused there. -/
theorem paths_disagree :
    ¬ Agree failingScripts (bareCommand .runScript) ∧
    ¬ Agree failingScripts (bareCommand .checkSoftwareCompliance) ∧
    ¬ Agree { failingScripts with privacyMode := true }
      { bareCommand .listProcesses with
        payload := fun field => if field = "bypassPrivacy" then .bool true else .undefined } := by
  decide

end Obliance.Agent.Execution
