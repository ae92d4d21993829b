import Obliance.Lib.GuardedRun

/-!
# Airgap mode (`agent/airgap.go`)

Airgap is recorded three times: in memory (`airgapEnabled`), in `airgap.json` and by the firewall of the
host. A platform says what applying and removing the rules does to its firewall.

* `AirgapHost` : the three records; `FirewallBackend` : the two functions of a platform;
* `setAirgapMode`, `loadAirgapState` : their steps in order, with every way to fail;
* `airgapMachine` : calls and agent restarts, in any order.
-/

namespace Obliance.Agent
open GuardedRun

/-- `airgapState`, the content of `airgap.json`. -/
structure AirgapRecord where
  enabled : Bool
  changedAt : String
  changedBy : String
  serverIPs : List String
  deriving DecidableEq, Repr

/-- What stands at the path of `airgap.json`. -/
inductive AirgapFile where
  | absent
  | saved (state : AirgapRecord)
  /-- Not the JSON of an `airgapState`. -/
  | broken (text : String)
  deriving DecidableEq, Repr

/-- The addresses of a file that says airgap is on. -/
def AirgapFile.airgapped : AirgapFile → Option (List String)
  | .saved state => if state.enabled then some state.serverIPs else none
  | .absent | .broken _ => none

/-- How `os.WriteFile` ends: it writes, it fails before it has opened the file, or it fails after the file
was truncated, with `text` in it. -/
inductive WriteOutcome where
  | done
  | refused
  | torn (text : String)
  deriving DecidableEq, Repr

/-- The firewall of a platform: `true` is a call that returns no error. `E` says which of the commands it
runs fail. -/
structure FirewallBackend (F E : Type) where
  applyAirgapFirewallRules : E → List String → F → F × Bool
  removeAirgapFirewallRules : E → F → F × Bool

structure AirgapHost (F : Type) where
  /-- `airgapEnabled`, what `IsAirgapMode` returns. -/
  enabled : Bool
  file : AirgapFile
  firewall : F
  deriving DecidableEq, Repr

/-- What the host decides in one call. -/
structure CallOutcome (E : Type) where
  commands : E
  /-- `verifyServerConnectivity` returns no error. -/
  reachable : Bool
  write : WriteOutcome
  now : String

inductive AirgapError where
  | applyRules
  | unreachable
  | removeRules
  | write
  deriving DecidableEq, Repr

section Service
variable {F E : Type}

/-- The end of `SetAirgapMode`, past the firewall. -/
def persistAirgap (o : CallOutcome E) (enabled : Bool) (changedBy : String) (serverIPs : List String)
    (s : AirgapHost F) : AirgapHost F × Option AirgapError :=
  match o.write with
  | .done => ({ s with enabled := enabled, file := .saved ⟨enabled, o.now, changedBy, serverIPs⟩ }, none)
  | .refused => (s, some .write)
  | .torn text => ({ s with file := .broken text }, some .write)

def setAirgapMode (b : FirewallBackend F E) (o : CallOutcome E) (enabled : Bool) (changedBy : String)
    (serverIPs : List String) (s : AirgapHost F) : AirgapHost F × Option AirgapError :=
  if enabled then
    let applied := b.applyAirgapFirewallRules o.commands serverIPs s.firewall
    if applied.2 then
      if o.reachable then persistAirgap o true changedBy serverIPs { s with firewall := applied.1 }
      -- an error of the restore is only logged
      else ({ s with firewall := (b.removeAirgapFirewallRules o.commands applied.1).1 }, some .unreachable)
    else ({ s with firewall := applied.1 }, some .applyRules)
  else
    let removed := b.removeAirgapFirewallRules o.commands s.firewall
    if removed.2 then persistAirgap o false changedBy serverIPs { s with firewall := removed.1 }
    else ({ s with firewall := removed.1 }, some .removeRules)

/-- A new process: airgap is off in memory until the file was read. -/
def loadAirgapState (b : FirewallBackend F E) (readable : Bool) (commands : E) (s : AirgapHost F) :
    AirgapHost F :=
  match if readable then s.file.airgapped else none with
  | some serverIPs =>
      { s with
        enabled := true
        firewall := (b.applyAirgapFirewallRules commands serverIPs s.firewall).1 }
  | none => { s with enabled := false }

end Service

inductive AirgapOp (E : Type) where
  | set (o : CallOutcome E) (enabled : Bool) (changedBy : String) (serverIPs : List String)
  /-- `readable` is false when the file is there and cannot be read. -/
  | restart (readable : Bool) (commands : E)

def airgapStep {F E : Type} (b : FirewallBackend F E) (s : AirgapHost F) : AirgapOp E → AirgapHost F
  | .set o enabled changedBy serverIPs => (setAirgapMode b o enabled changedBy serverIPs s).1
  | .restart readable commands => loadAirgapState b readable commands s

def airgapMachine {F E : Type} (b : FirewallBackend F E) (init : AirgapHost F → Prop) :
    Machine (AirgapHost F) (AirgapOp E) where
  init := init
  step s op := some (airgapStep b s op)

section Records
variable {F E : Type} {o : CallOutcome E} {enabled : Bool} {changedBy : String} {serverIPs : List String}
  {s : AirgapHost F}

/-- The firewall is the work of the steps before. -/
@[simp] theorem persistAirgap_firewall :
    (persistAirgap o enabled changedBy serverIPs s).1.firewall = s.firewall := by
  unfold persistAirgap
  split <;> rfl

/-- Memory follows the file. -/
theorem persistAirgap_enabled : (persistAirgap o enabled changedBy serverIPs s).1.enabled =
    if o.write = .done then enabled else s.enabled := by
  unfold persistAirgap
  split <;> simp [*]

end Records

end Obliance.Agent
