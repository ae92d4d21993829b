import Obliance.Agent.Airgap

/-!
# Airgap on Windows (`agent/airgap_windows.go`)

The rules replace the host's firewall, which survives in one backup file: every application of the rules
writes it, every restore reads and removes it.

* `Netsh F` : what the commands of `netsh advfirewall` do to a firewall; an export keeps all of it,
  and its import brings all of it back;
* `WindowsFirewall` : the firewall in force and the backup file; `windowsBackend` : the two functions;
* `Restorable` : the steps after which a host that is not airgapped has its firewall;
* `network_given_back`, `given_back_step_iff` : they are the ones;
* `backup_applyAirgap` : what the backup file holds, `reach_restorable` : runs that meet the condition.
-/

namespace Obliance.Agent
open GuardedRun

inductive Direction where
  | inbound
  | outbound
  deriving DecidableEq, Repr

/-- The commands that change a firewall, when they succeed. -/
structure Netsh (F : Type) where
  /-- `firewall delete rule name=all dir=…` -/
  deleteAll : Direction → F → F
  /-- `set allprofiles firewallpolicy blockinbound,blockoutbound` -/
  blockAll : F → F
  addRule : List String → F → F
  /-- Where `reset` leaves it. -/
  defaults : F

inductive NetshCommand where
  | exportState
  | deleteAll (dir : Direction)
  | setPolicy
  | addRule (args : List String)
  | importState
  | reset
  deriving DecidableEq, Repr

/-- Which commands of a call fail, and whether the backup file cannot be removed. -/
structure NetshOutcome where
  fails : NetshCommand → Bool
  removeFails : Bool

structure WindowsFirewall (F : Type) where
  firewall : F
  /-- `airgap-firewall-backup.wfw` -/
  backup : Option F
  deriving DecidableEq, Repr

def baseRules : List (List String) :=
  [["advfirewall", "firewall", "add", "rule",
      "name=Obliance-Airgap-Loopback-Out", "dir=out", "action=allow", "remoteip=127.0.0.1"],
    ["advfirewall", "firewall", "add", "rule",
      "name=Obliance-Airgap-Loopback-In", "dir=in", "action=allow", "remoteip=127.0.0.1"],
    ["advfirewall", "firewall", "add", "rule",
      "name=Obliance-Airgap-DNS", "dir=out", "action=allow", "protocol=UDP", "remoteport=53"],
    ["advfirewall", "firewall", "add", "rule",
      "name=Obliance-Airgap-DHCP-Out", "dir=out", "action=allow", "protocol=UDP", "localport=68", "remoteport=67"],
    ["advfirewall", "firewall", "add", "rule",
      "name=Obliance-Airgap-DHCP-In", "dir=in", "action=allow", "protocol=UDP", "localport=68", "remoteport=67"]]

def serverRules (ip : String) : List (List String) :=
  [["advfirewall", "firewall", "add", "rule",
      "name=Obliance-Airgap-Allow-" ++ ip, "dir=out", "action=allow", "remoteip=" ++ ip],
    ["advfirewall", "firewall", "add", "rule",
      "name=Obliance-Airgap-Allow-" ++ ip ++ "-In", "dir=in", "action=allow", "remoteip=" ++ ip]]

def allowRules (serverIPs : List String) : List (List String) := baseRules ++ serverIPs.flatMap serverRules

section Commands
variable {F : Type} (n : Netsh F) (o : NetshOutcome)

/-- A failed import falls back to a reset and leaves the backup file. -/
def restoreFirewall (w : WindowsFirewall F) : WindowsFirewall F × Bool :=
  match w.backup with
  | some saved =>
      if o.fails .importState then
        if o.fails .reset then (w, false) else ({ w with firewall := n.defaults }, true)
      else (⟨saved, if o.removeFails then some saved else none⟩, true)
  | none => if o.fails .reset then (w, false) else ({ w with firewall := n.defaults }, true)

/-- A failed deletion is only logged. -/
def deleteRules (dir : Direction) (w : WindowsFirewall F) : WindowsFirewall F :=
  if o.fails (.deleteAll dir) then w else { w with firewall := n.deleteAll dir w.firewall }

def addRules : List (List String) → WindowsFirewall F → WindowsFirewall F × Bool
  | [], w => (w, true)
  | r :: rules, w =>
      if o.fails (.addRule r) then ((restoreFirewall n o w).1, false)
      else addRules rules { w with firewall := n.addRule r w.firewall }

def applyAirgapWindows (serverIPs : List String) (w : WindowsFirewall F) : WindowsFirewall F × Bool :=
  if o.fails .exportState then (w, false)
  else
    let exported := { w with backup := some w.firewall }
    let cleared := deleteRules n o .outbound (deleteRules n o .inbound exported)
    if o.fails .setPolicy then ((restoreFirewall n o cleared).1, false)
    else addRules n o (allowRules serverIPs) { cleared with firewall := n.blockAll cleared.firewall }

end Commands

def windowsBackend {F : Type} (n : Netsh F) : FirewallBackend (WindowsFirewall F) NetshOutcome where
  applyAirgapFirewallRules := applyAirgapWindows n
  removeAirgapFirewallRules := restoreFirewall n

/-! ## What the commands do when none fails -/

def NetshOutcome.Succeeds (o : NetshOutcome) : Prop := ∀ c, o.fails c = false

/-- The firewall `f` with airgap on. -/
def Netsh.airgapped {F : Type} (n : Netsh F) (serverIPs : List String) (f : F) : F :=
  (allowRules serverIPs).foldl (fun f r => n.addRule r f)
    (n.blockAll (n.deleteAll .outbound (n.deleteAll .inbound f)))

section Success
variable {F : Type} {n : Netsh F} {o : NetshOutcome} {w : WindowsFirewall F} {serverIPs : List String}

theorem addRules_succeeds (ho : o.Succeeds) (rules : List (List String)) :
    addRules n o rules w = ({ w with firewall := rules.foldl (fun f r => n.addRule r f) w.firewall }, true) := by
  induction rules generalizing w with
  | nil => rfl
  | cons r rules ih => simp [addRules, ho (.addRule r), ih]

/-- The backup is the firewall that the rules found, whatever it was. -/
theorem applyAirgap_succeeds (ho : o.Succeeds) :
    applyAirgapWindows n o serverIPs w = (⟨n.airgapped serverIPs w.firewall, some w.firewall⟩, true) := by
  simp [applyAirgapWindows, deleteRules, ho .exportState, ho .setPolicy, ho (.deleteAll _), addRules_succeeds ho,
    Netsh.airgapped]

theorem restoreFirewall_succeeds (ho : o.Succeeds) : restoreFirewall n o w =
    (⟨w.backup.getD n.defaults, w.backup.filter fun _ => o.removeFails⟩, true) := by
  unfold restoreFirewall
  split <;> rename_i h <;> simp [h, ho .importState, ho .reset, Option.filter]

end Success

/-! ## Runs in which no command fails -/

def AirgapOp.Succeeds : AirgapOp NetshOutcome → Prop
  | .set o _ _ _ => o.commands.Succeeds
  | .restart _ commands => commands.Succeeds

/-- A host that is not airgapped has the firewall `f₀`. -/
def GivenBack {F : Type} (f₀ : F) (s : AirgapHost (WindowsFirewall F)) : Prop :=
  s.enabled = false → s.firewall.firewall = f₀

/-- The steps that give the network back:
* airgap turned on is recorded, or its rules change nothing;
* airgap is turned off, or found off, with `f₀` in the backup file (or `f₀` is where a reset leads);
* the agent restarts and finds airgap on in the file, unless the firewall is `f₀`. -/
def Restorable {F : Type} (n : Netsh F) (f₀ : F) (s : AirgapHost (WindowsFirewall F)) :
    AirgapOp NetshOutcome → Prop
  | .set o true _ serverIPs => s.enabled = false → o.reachable = true → o.write ≠ .done →
      n.airgapped serverIPs f₀ = f₀
  | .set o false _ _ => s.enabled = false ∨ o.write = .done → s.firewall.backup.getD n.defaults = f₀
  | .restart readable _ => s.enabled = true → (readable = false ∨ s.file.airgapped = none) →
      s.firewall.firewall = f₀

/-- Airgap is off, and the backup file is not there. -/
def windowsInit {F : Type} (f₀ : F) (s : AirgapHost (WindowsFirewall F)) : Prop :=
  s.enabled = false ∧ s.file.airgapped = none ∧ s.firewall = ⟨f₀, none⟩

def windowsMachine {F : Type} (n : Netsh F) (f₀ : F) :
    Machine (AirgapHost (WindowsFirewall F)) (AirgapOp NetshOutcome) :=
  airgapMachine (windowsBackend n) (windowsInit f₀)

section Steps
variable {F : Type} {n : Netsh F} {f₀ : F} {s : AirgapHost (WindowsFirewall F)} {o : CallOutcome NetshOutcome}
  {changedBy : String} {serverIPs : List String}

theorem enable_unreachable (ho : o.commands.Succeeds) (hr : o.reachable = false) :
    (setAirgapMode (windowsBackend n) o true changedBy serverIPs s).1 =
      { s with firewall := ⟨s.firewall.firewall, if o.commands.removeFails then some s.firewall.firewall else none⟩ } := by
  simp [setAirgapMode, windowsBackend, applyAirgap_succeeds ho, restoreFirewall_succeeds ho, hr, Option.filter]

theorem enable_reachable (ho : o.commands.Succeeds) (hr : o.reachable = true) :
    setAirgapMode (windowsBackend n) o true changedBy serverIPs s =
      persistAirgap o true changedBy serverIPs
        { s with firewall := ⟨n.airgapped serverIPs s.firewall.firewall, some s.firewall.firewall⟩ } := by
  simp [setAirgapMode, windowsBackend, applyAirgap_succeeds ho, hr]

theorem disable_succeeds (ho : o.commands.Succeeds) :
    setAirgapMode (windowsBackend n) o false changedBy serverIPs s =
      persistAirgap o false changedBy serverIPs
        { s with firewall := (restoreFirewall n o.commands s.firewall).1 } := by
  simp [setAirgapMode, windowsBackend, restoreFirewall_succeeds ho]

/-- The condition is what one step needs. -/
theorem given_back_step_iff (h : GivenBack f₀ s) {op : AirgapOp NetshOutcome} (hop : op.Succeeds) :
    GivenBack f₀ (airgapStep (windowsBackend n) s op) ↔ Restorable n f₀ s op := by
  match op with
  | .set o true changedBy serverIPs =>
      show GivenBack f₀ (setAirgapMode _ o true changedBy serverIPs s).1 ↔ _
      by_cases hr : o.reachable = true
      · rw [enable_reachable hop hr]
        simp only [GivenBack, Restorable, persistAirgap_firewall, persistAirgap_enabled, hr, true_implies]
        by_cases hw : o.write = .done
        · simp [hw]
        · simp only [hw, if_false, ne_eq, not_false_eq_true, true_implies]
          exact forall_congr' fun hoff => by rw [h hoff]
      · rw [Bool.not_eq_true] at hr
        rw [enable_unreachable hop hr]
        simpa [GivenBack, Restorable, hr] using h
  | .set o false changedBy serverIPs =>
      show GivenBack f₀ (setAirgapMode _ o false changedBy serverIPs s).1 ↔ _
      rw [disable_succeeds hop, restoreFirewall_succeeds hop]
      simp only [GivenBack, Restorable, persistAirgap_firewall, persistAirgap_enabled]
      by_cases hw : o.write = .done <;> simp [hw]
  | .restart readable commands =>
      show GivenBack f₀ (loadAirgapState _ readable commands s) ↔ _
      cases hread : (if readable then s.file.airgapped else none) with
      | some ips =>
          have hon : ¬ (readable = false ∨ s.file.airgapped = none) := by
            split_ifs at hread with hr
            simp [hr, hread]
          simp [GivenBack, Restorable, loadAirgapState, hread, hon]
      | none =>
          have hoff : readable = false ∨ s.file.airgapped = none := by
            split_ifs at hread with hr
            · exact .inr hread
            · exact .inl (by simpa using hr)
          simp only [GivenBack, Restorable, loadAirgapState, hread, hoff, true_implies]
          cases hs : s.enabled with
          | true => simp
          | false => simpa using h hs

/-- What a repeated application costs: the backup is the firewall with airgap on. -/
theorem backup_applyAirgap (ho : o.commands.Succeeds) (hr : o.reachable = true) :
    (setAirgapMode (windowsBackend n) o true changedBy serverIPs s).1.firewall.backup =
      some s.firewall.firewall := by
  rw [enable_reachable ho hr, persistAirgap_firewall]

end Steps

section Runs
variable {F : Type} {n : Netsh F} {f₀ : F} {s : AirgapHost (WindowsFirewall F)}

/-- **Leaving airgap gives the network back.** In a run whose commands succeed and whose steps meet the
condition, a host that is not airgapped has the firewall the run started from. -/
theorem network_given_back
    (h : Reach (windowsMachine n f₀) (fun s op => op.Succeeds ∧ Restorable n f₀ s op) s) : GivenBack f₀ s := by
  refine h.invariant (fun s hs _ => ?_) fun s op t hi hok hstep => ?_
  · rw [hs.2.2]
  · obtain rfl := Option.some.inj hstep
    exact (given_back_step_iff hi hok.1).2 hok.2

end Runs

/-! ## Runs that apply the rules once at a time -/

/-- Airgap is turned on when it is off and off when it is on, every change is recorded, and the agent does
not restart while it is on. -/
def Alternates {F : Type} (s : AirgapHost (WindowsFirewall F)) : AirgapOp NetshOutcome → Prop
  | .set o true _ _ => s.enabled = false ∧ (o.reachable = true → o.write = .done)
  | .set o false _ _ => s.enabled = true ∧ o.write = .done
  | .restart _ _ => s.enabled = false

structure BackedUp {F : Type} (f₀ : F) (s : AirgapHost (WindowsFirewall F)) : Prop where
  off : GivenBack f₀ s
  file : s.enabled = false → s.file.airgapped = none
  backup : s.enabled = true → s.firewall.backup = some f₀

section Alternating
variable {F : Type} {n : Netsh F} {f₀ : F} {s : AirgapHost (WindowsFirewall F)}

theorem restorable_of_backedUp (h : BackedUp f₀ s) {op : AirgapOp NetshOutcome} (hop : Alternates s op) :
    Restorable n f₀ s op := by
  match op with
  | .set o true _ _ => exact fun _ hr hw => absurd (hop.2 hr) hw
  | .set o false _ _ => exact fun _ => by rw [h.backup hop.1]; rfl
  | .restart _ _ => exact fun hs => absurd (hop.symm.trans hs) (by decide)

theorem backedUp_step (h : BackedUp f₀ s) {op : AirgapOp NetshOutcome} (hok : op.Succeeds)
    (hop : Alternates s op) : BackedUp f₀ (airgapStep (windowsBackend n) s op) := by
  have hoff := (given_back_step_iff h.off hok).2 (restorable_of_backedUp (n := n) h hop)
  match op with
  | .set o true changedBy serverIPs =>
      obtain ⟨hs, hwrite⟩ := hop
      by_cases hr : o.reachable = true
      · refine ⟨hoff, ?_, ?_⟩ <;>
          simp [airgapStep, enable_reachable hok hr, persistAirgap, hwrite hr, h.off hs]
      · rw [Bool.not_eq_true] at hr
        refine ⟨hoff, ?_, ?_⟩ <;> simp [airgapStep, enable_unreachable hok hr, hs, h.file hs]
  | .set o false changedBy serverIPs =>
      refine ⟨hoff, ?_, ?_⟩ <;>
        simp [airgapStep, disable_succeeds hok, persistAirgap, hop.2, AirgapFile.airgapped]
  | .restart readable commands =>
      have hload : airgapStep (windowsBackend n) s (.restart readable commands) = { s with enabled := false } := by
        simp [airgapStep, loadAirgapState, h.file hop]
      rw [hload] at hoff ⊢
      exact ⟨hoff, fun _ => h.file hop, fun hs => by simp at hs⟩

/-- Such runs meet the condition. -/
theorem reach_restorable (h : Reach (windowsMachine n f₀) (fun s op => op.Succeeds ∧ Alternates s op) s) :
    BackedUp f₀ s ∧ Reach (windowsMachine n f₀) (fun s op => op.Succeeds ∧ Restorable n f₀ s op) s := by
  induction h with
  | start h0 => exact ⟨⟨fun _ => by rw [h0.2.2], fun _ => h0.2.1, fun hs => by simp [h0.1] at hs⟩, .start h0⟩
  | next op hreach hok hstep ih =>
      obtain rfl := Option.some.inj hstep
      exact ⟨backedUp_step ih.1 hok.1 hok.2, ih.2.next op ⟨hok.1, restorable_of_backedUp ih.1 hok.2⟩ hstep⟩

end Alternating

/-! ## A host whose firewall does not come back -/

/-- A default policy and the rules. -/
structure HostRules where
  blocked : Bool
  rules : List (List String)
  deriving DecidableEq, Repr

def Direction.arg : Direction → String
  | .inbound => "dir=in"
  | .outbound => "dir=out"

def hostNetsh : Netsh HostRules where
  deleteAll dir f := { f with rules := f.rules.filter fun r => !r.contains dir.arg }
  blockAll f := { f with blocked := true }
  addRule r f := { f with rules := f.rules ++ [r] }
  defaults := ⟨false, []⟩

/-- A host that shares a printer. -/
def printerHost : HostRules := ⟨false, [["name=Printer", "dir=in", "action=allow", "localport=631"]]⟩

def noFailure : NetshOutcome := ⟨fun _ => false, false⟩

def enableAirgap : AirgapOp NetshOutcome :=
  .set ⟨noFailure, true, .done, "2026-01-01T00:00:00Z"⟩ true "remote" ["203.0.113.7"]

def disableAirgap : AirgapOp NetshOutcome :=
  .set ⟨noFailure, true, .done, "2026-01-01T00:01:00Z"⟩ false "remote" []

def airgapOff : AirgapHost (WindowsFirewall HostRules) := ⟨false, .absent, ⟨printerHost, none⟩⟩

theorem network_given_back_once :
    ∃ s, (windowsMachine hostNetsh printerHost).exec airgapOff [enableAirgap, disableAirgap] = some s ∧
      s.enabled = false ∧ GivenBack printerHost s := by
  have hinit : (windowsMachine hostNetsh printerHost).init airgapOff := ⟨rfl, rfl, rfl⟩
  have hback : Reach (windowsMachine hostNetsh printerHost) (fun s op => op.Succeeds ∧ Alternates s op) _ :=
    ((Reach.start hinit).next enableAirgap ⟨fun _ => rfl, rfl, fun _ => rfl⟩ rfl).next disableAirgap
      ⟨fun _ => rfl, rfl, rfl⟩ rfl
  exact ⟨_, rfl, rfl, network_given_back (reach_restorable hback).2⟩

/-- Airgap is turned on twice, then off: the machine stays cut off. -/
theorem cut_off_for_good :
    ∃ s, Reach (windowsMachine hostNetsh printerHost) (fun _ op => op.Succeeds) s ∧ s.enabled = false ∧
      s.firewall.firewall.blocked = true ∧ s.firewall.firewall ≠ printerHost := by
  have hinit : (windowsMachine hostNetsh printerHost).init airgapOff := ⟨rfl, rfl, rfl⟩
  have htwice : Reach (windowsMachine hostNetsh printerHost) (fun _ op => op.Succeeds) _ :=
    ((Reach.start hinit).next enableAirgap (fun _ => rfl) rfl).next enableAirgap (fun _ => rfl) rfl
  have hoff := htwice.next disableAirgap (fun _ => rfl) rfl
  exact ⟨_, hoff, rfl, rfl, fun heq => Bool.noConfusion (congrArg HostRules.blocked heq)⟩

end Obliance.Agent
