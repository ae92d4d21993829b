import Mathlib.Data.List.Basic
import Mathlib.Data.List.Count
import Obliance.Agent.Airgap

/-!
# Airgap on Linux (`agent/airgap_linux.go`)

The rules stand in a chain of their own, to which OUTPUT and INPUT jump first.

* `Iptables` : the two built-in chains and the agent's chain; `linuxBackend` : the two functions, each
  `iptables` command with its outcome;
* `applyAirgap_eq` : either every command succeeds and the rules are in force, or they are removed;
* `Agree` : memory, `airgap.json` and the firewall say the same; `KeepsOrAgrees` : an error changes nothing,
  a success makes the three agree with the request;
* `airgap_changes_nothing_or_all` : the calls that do, and the runs in which a host reported as airgapped
  has the rules.
-/

namespace Obliance.Agent
open GuardedRun

/-- A rule, by its arguments. -/
abbrev IptablesRule := List String

def airgapChain : String := "OBLIANCE-AIRGAP"

def airgapJump : IptablesRule := ["-j", airgapChain]

structure Iptables where
  output : List IptablesRule
  input : List IptablesRule
  /-- The rules of `airgapChain`, if the chain exists. -/
  chain : Option (List IptablesRule)
  deriving DecidableEq, Repr

/-! ## Removing the rules -/

/-- `iptables -D … -j OBLIANCE-AIRGAP` until it fails; each turn removes a rule. -/
def deleteJumpsLoop : ℕ → List IptablesRule → List IptablesRule
  | 0, rules => rules
  | turns + 1, rules =>
      if airgapJump ∈ rules then deleteJumpsLoop turns (rules.erase airgapJump) else rules

def deleteJumps (rules : List IptablesRule) : List IptablesRule := deleteJumpsLoop rules.length rules

/-- `-F`, then `-X`, which the kernel refuses while a rule refers to the chain. -/
def deleteChain (f : Iptables) : Iptables :=
  if airgapJump ∈ f.output ∨ airgapJump ∈ f.input then { f with chain := f.chain.map fun _ => [] }
  else { f with chain := none }

def removeAirgapIptables (f : Iptables) : Iptables :=
  deleteChain { f with output := deleteJumps f.output, input := deleteJumps f.input }

/-! ## Applying the rules -/

def chainRules (serverIPs : List String) : List IptablesRule :=
  [["-o", "lo", "-j", "ACCEPT"], ["-i", "lo", "-j", "ACCEPT"],
    ["-m", "state", "--state", "ESTABLISHED,RELATED", "-j", "ACCEPT"],
    ["-p", "udp", "--dport", "53", "-j", "ACCEPT"]] ++
  serverIPs.flatMap (fun ip => [["-d", ip, "-j", "ACCEPT"], ["-s", ip, "-j", "ACCEPT"]]) ++
  [["-j", "DROP"]]

/-- `-A` for each rule; `k` is the number of the command, `fails` says which ones fail. -/
def appendRules (fails : ℕ → Bool) : ℕ → List IptablesRule → Iptables → Iptables × Bool
  | _, [], f => (f, true)
  | k, rule :: rules, f =>
      if fails k ∨ f.chain = none then (removeAirgapIptables f, false)
      else appendRules fails (k + 1) rules { f with chain := f.chain.map (· ++ [rule]) }

/-- `-I OUTPUT 1`, then `-I INPUT 1`. -/
def insertJumps (fails : ℕ → Bool) (k : ℕ) (f : Iptables) : Iptables × Bool :=
  if fails k then (removeAirgapIptables f, false)
  else
    let inserted := { f with output := airgapJump :: f.output }
    if fails (k + 1) then (removeAirgapIptables inserted, false)
    else ({ inserted with input := airgapJump :: inserted.input }, true)

def applyAirgapIptables (fails : ℕ → Bool) (serverIPs : List String) (f : Iptables) : Iptables × Bool :=
  let clean := removeAirgapIptables f
  if fails 0 ∨ clean.chain ≠ none then (clean, false)
  else
    let appended := appendRules fails 1 (chainRules serverIPs) { clean with chain := some [] }
    if appended.2 then insertJumps fails (1 + (chainRules serverIPs).length) appended.1 else (appended.1, false)

/-- The commands of a removal succeed, or find nothing to remove. -/
def linuxBackend : FirewallBackend Iptables (ℕ → Bool) where
  applyAirgapFirewallRules := applyAirgapIptables
  removeAirgapFirewallRules _ f := (removeAirgapIptables f, true)

/-! ## What the two functions do -/

def hostRules (rules : List IptablesRule) : List IptablesRule := rules.filter fun r => r ≠ airgapJump

/-- The host's own rules. -/
def Iptables.withoutAirgap (f : Iptables) : Iptables := ⟨hostRules f.output, hostRules f.input, none⟩

/-- The rules for `serverIPs` over the host's own. -/
def Iptables.airgapped (serverIPs : List String) (f : Iptables) : Iptables :=
  ⟨airgapJump :: hostRules f.output, airgapJump :: hostRules f.input, some (chainRules serverIPs)⟩

/-- The `n` commands from the `k`-th succeed. -/
def succeed (fails : ℕ → Bool) (k n : ℕ) : Bool := (List.range' k n).all fun i => !fails i

/-- Every command of an application succeeds: the chain, the rules, the two jumps. -/
def AppliesAll (fails : ℕ → Bool) (serverIPs : List String) : Prop :=
  succeed fails 0 ((chainRules serverIPs).length + 3) = true

instance (fails : ℕ → Bool) (serverIPs : List String) : Decidable (AppliesAll fails serverIPs) :=
  inferInstanceAs (Decidable (_ = true))

section Functions
variable {f : Iptables} {serverIPs ips : List String} {fails : ℕ → Bool} {k n : ℕ} {rules : List IptablesRule}

@[simp] theorem succeed_zero : succeed fails k 0 = true := rfl

theorem succeed_succ : succeed fails k (n + 1) = (!fails k && succeed fails (k + 1) n) := rfl

theorem succeed_add (m : ℕ) : succeed fails k (m + n) = (succeed fails k m && succeed fails (k + m) n) := by
  induction m generalizing k with
  | zero => simp
  | succ m ih => rw [Nat.succ_add_eq_add_succ, show m + (n + 1) = (m + n) + 1 by omega, succeed_succ, ih,
      succeed_succ, Bool.and_assoc, show k + 1 + m = k + (m + 1) by omega]

theorem not_mem_hostRules : airgapJump ∉ hostRules rules := by
  simp [hostRules]

@[simp] theorem hostRules_hostRules : hostRules (hostRules rules) = hostRules rules := by
  simp [hostRules]

@[simp] theorem hostRules_cons_jump : hostRules (airgapJump :: rules) = hostRules rules := by
  simp [hostRules]

theorem hostRules_of_not_mem (h : airgapJump ∉ rules) : hostRules rules = rules := by
  apply List.filter_eq_self.2
  intro r hr
  simp only [decide_eq_true_eq]
  exact fun heq => h (heq ▸ hr)

theorem deleteJumpsLoop_eq (turns : ℕ) : ∀ rules : List IptablesRule, rules.count airgapJump ≤ turns →
    deleteJumpsLoop turns rules = hostRules rules := by
  induction turns with
  | zero =>
      intro rules hcount
      rw [deleteJumpsLoop, hostRules_of_not_mem]
      rw [← List.count_eq_zero]
      omega
  | succ turns ih =>
      intro rules hcount
      rw [deleteJumpsLoop]
      split_ifs with hmem
      · rw [ih _ (by rw [List.count_erase_self]; omega), hostRules, ← List.erase_filter]
        exact List.erase_of_not_mem not_mem_hostRules
      · rw [hostRules_of_not_mem hmem]

/-- The loop ends when no jump is left. -/
@[simp] theorem deleteJumps_eq : deleteJumps rules = hostRules rules :=
  deleteJumpsLoop_eq _ _ List.count_le_length

theorem removeAirgap_eq : removeAirgapIptables f = f.withoutAirgap := by
  have hrefs : ¬ (airgapJump ∈ hostRules f.output ∨ airgapJump ∈ hostRules f.input) :=
    not_or.2 ⟨not_mem_hostRules, not_mem_hostRules⟩
  simp [removeAirgapIptables, deleteChain, hrefs, Iptables.withoutAirgap]

theorem appendRules_eq : ∀ (rules : List IptablesRule) (k : ℕ) (f : Iptables) (chain : List IptablesRule),
    f.chain = some chain → appendRules fails k rules f =
      if succeed fails k rules.length then ({ f with chain := some (chain ++ rules) }, true)
      else (f.withoutAirgap, false)
  | [], k, f, chain, hf => by simp [appendRules, ← hf]
  | rule :: rules, k, f, chain, hf => by
      cases hk : fails k with
      | true => simp [appendRules, succeed_succ, hk, removeAirgap_eq]
      | false =>
          rw [appendRules, if_neg (by simp [hk, hf]), appendRules_eq rules (k + 1) _ (chain ++ [rule]) (by simp [hf])]
          simp [succeed_succ, hk, Iptables.withoutAirgap]

theorem insertJumps_eq : insertJumps fails k f = if succeed fails k 2 then
    ({ f with output := airgapJump :: f.output, input := airgapJump :: f.input }, true)
      else (f.withoutAirgap, false) := by
  unfold insertJumps
  cases hk : fails k <;> cases hl : fails (k + 1) <;> simp [succeed_succ, hk, hl, removeAirgap_eq, Iptables.withoutAirgap]

/-- **All or nothing**: an application that fails leaves no rule of the agent. -/
theorem applyAirgap_eq : applyAirgapIptables fails serverIPs f =
    if AppliesAll fails serverIPs then (f.airgapped serverIPs, true) else (f.withoutAirgap, false) := by
  have hall : AppliesAll fails serverIPs ↔ fails 0 = false ∧
      succeed fails 1 (chainRules serverIPs).length = true ∧
      succeed fails (1 + (chainRules serverIPs).length) 2 = true := by
    rw [AppliesAll, succeed_succ, succeed_add]
    simp
  unfold applyAirgapIptables
  simp only [removeAirgap_eq]
  cases h0 : fails 0 with
  | true => simp [hall, h0]
  | false =>
      rw [if_neg (by simp [Iptables.withoutAirgap]), appendRules_eq _ _ _ [] rfl]
      cases hr : succeed fails 1 (chainRules serverIPs).length with
      | false => simp [hall, hr, Iptables.withoutAirgap]
      | true =>
          simp only [if_true, insertJumps_eq]
          cases hj : succeed fails (1 + (chainRules serverIPs).length) 2 <;>
            simp [hall, h0, hr, hj, Iptables.withoutAirgap, Iptables.airgapped]

/-- Other addresses are other rules. -/
theorem chainRules_inj : ∀ ips serverIPs : List String, chainRules ips = chainRules serverIPs → ips = serverIPs := by
  intro ips serverIPs h
  have hservers := List.append_cancel_left (List.append_cancel_right h)
  clear h
  induction ips generalizing serverIPs with
  | nil =>
      cases serverIPs with
      | nil => rfl
      | cons ip serverIPs => simp at hservers
  | cons ip ips ih =>
      cases serverIPs with
      | nil => simp at hservers
      | cons ip' serverIPs =>
          simp only [List.flatMap_cons, List.cons_append, List.nil_append, List.cons.injEq] at hservers
          rw [hservers.1.2.1, ih serverIPs hservers.2.2]

end Functions

/-! ## The three records -/

/-- The firewall with airgap on for these addresses, or off. -/
def Iptables.inMode (f : Iptables) : Option (List String) → Iptables
  | some serverIPs => f.airgapped serverIPs
  | none => f.withoutAirgap

def requestedMode (enabled : Bool) (serverIPs : List String) : Option (List String) :=
  if enabled then some serverIPs else none

/-- Memory, `airgap.json` and the rules in force say the same. -/
structure Agree (s : AirgapHost Iptables) : Prop where
  file : ∀ text, s.file ≠ .broken text
  memory : s.enabled = s.file.airgapped.isSome
  firewall : s.firewall.inMode s.file.airgapped = s.firewall

/-- What a call does with an error and without. -/
def KeepsOrAgrees (s : AirgapHost Iptables) (mode : Option (List String))
    (r : AirgapHost Iptables × Option AirgapError) : Prop :=
  (r.2 ≠ none → r.1 = s) ∧ (r.2 = none → Agree r.1 ∧ r.1.file.airgapped = mode)

/-- No step before the write of `airgap.json` fails. -/
def ReachesWrite (o : CallOutcome (ℕ → Bool)) (enabled : Bool) (serverIPs : List String) : Prop :=
  enabled = true → AppliesAll o.commands serverIPs ∧ o.reachable = true

/-- An airgapped host meets no error before the write; and the write is done, or it is refused and the mode
asked for is the one the host is in. -/
def CallSafe (s : AirgapHost Iptables) (o : CallOutcome (ℕ → Bool)) (enabled : Bool)
    (serverIPs : List String) : Prop :=
  (s.enabled = true → ReachesWrite o enabled serverIPs) ∧
    (ReachesWrite o enabled serverIPs →
      o.write = .done ∨ o.write = .refused ∧ s.file.airgapped = requestedMode enabled serverIPs)

section Modes
variable {f : Iptables} {mode mode' : Option (List String)}

@[simp] theorem inMode_inMode : (f.inMode mode).inMode mode' = f.inMode mode' := by
  cases mode <;> cases mode' <;> simp [Iptables.inMode, Iptables.withoutAirgap, Iptables.airgapped]

theorem inMode_inj : f.inMode mode = f.inMode mode' ↔ mode = mode' := by
  refine ⟨fun h => ?_, fun h => h ▸ rfl⟩
  have hchain := congrArg Iptables.chain h
  cases mode <;> cases mode' <;> simp [Iptables.inMode, Iptables.withoutAirgap, Iptables.airgapped] at hchain ⊢
  exact chainRules_inj _ _ hchain

/-- A call never touches the rules of the host. -/
theorem withoutAirgap_inMode : (f.inMode mode).withoutAirgap = f.withoutAirgap :=
  @inMode_inMode f mode none

end Modes

section Calls
variable {s : AirgapHost Iptables} {o : CallOutcome (ℕ → Bool)} {enabled : Bool} {changedBy : String}
  {serverIPs : List String}

theorem setAirgap_reaches (h : ReachesWrite o enabled serverIPs) :
    setAirgapMode linuxBackend o enabled changedBy serverIPs s =
      persistAirgap o enabled changedBy serverIPs
        { s with firewall := s.firewall.inMode (requestedMode enabled serverIPs) } := by
  cases enabled with
  | true => simp [setAirgapMode, linuxBackend, applyAirgap_eq, h rfl, requestedMode, Iptables.inMode]
  | false => simp [setAirgapMode, linuxBackend, removeAirgap_eq, requestedMode, Iptables.inMode]

theorem setAirgap_stops (h : ¬ ReachesWrite o enabled serverIPs) :
    ∃ err, setAirgapMode linuxBackend o enabled changedBy serverIPs s =
      ({ s with firewall := s.firewall.withoutAirgap }, some err) := by
  obtain ⟨rfl, hnot⟩ := Classical.not_imp.1 h
  by_cases happly : AppliesAll o.commands serverIPs
  · have hr : o.reachable = false := by
      simpa [happly] using hnot
    refine ⟨.unreachable, ?_⟩
    simp [setAirgapMode, linuxBackend, applyAirgap_eq, happly, hr, removeAirgap_eq, Iptables.airgapped,
      Iptables.withoutAirgap]
  · exact ⟨.applyRules, by simp [setAirgapMode, linuxBackend, applyAirgap_eq, happly]⟩

theorem withFirewall_eq_self {f : Iptables} : { s with firewall := f } = s ↔ f = s.firewall :=
  ⟨fun h => congrArg AirgapHost.firewall h, fun h => by rw [h]⟩

theorem agree_persisted {now : String} {f : Iptables} : Agree ⟨enabled, .saved ⟨enabled, now, changedBy, serverIPs⟩,
    f.inMode (requestedMode enabled serverIPs)⟩ := by
  refine ⟨fun text => nofun, ?_, inMode_inMode⟩
  cases enabled <;> rfl

/-- The error a call may end in leaves the firewall as it was only where it was already in that mode. -/
theorem inMode_eq_self_iff (h : Agree s) {mode : Option (List String)} :
    s.firewall.inMode mode = s.firewall ↔ s.file.airgapped = mode := by
  rw [← h.firewall, inMode_inMode, inMode_inj, eq_comm]

theorem keepsOrAgrees_iff (h : Agree s) :
    KeepsOrAgrees s (requestedMode enabled serverIPs)
        (setAirgapMode linuxBackend o enabled changedBy serverIPs s) ↔ CallSafe s o enabled serverIPs := by
  by_cases hreach : ReachesWrite o enabled serverIPs
  · rw [setAirgap_reaches hreach]
    simp only [CallSafe, hreach, implies_true, true_and, true_implies]
    cases hw : o.write with
    | done =>
        simp only [persistAirgap, hw, KeepsOrAgrees, true_or, iff_true]
        exact ⟨fun hnone => absurd rfl hnone, fun _ => ⟨agree_persisted, rfl⟩⟩
    | refused =>
        simpa [persistAirgap, hw, KeepsOrAgrees, withFirewall_eq_self] using inMode_eq_self_iff h
    | torn text =>
        simp only [persistAirgap, hw, KeepsOrAgrees, ne_eq, reduceCtorEq, not_false_eq_true, true_implies, false_implies,
          and_true, false_and, or_self, iff_false]
        exact fun heq => h.file text (congrArg AirgapHost.file heq).symm
  · obtain ⟨err, hstop⟩ := @setAirgap_stops s o enabled changedBy serverIPs hreach
    rw [hstop]
    simp only [KeepsOrAgrees, CallSafe, hreach, ne_eq, reduceCtorEq, not_false_eq_true, true_implies, false_implies,
      and_true, imp_false, withFirewall_eq_self, Bool.not_eq_true]
    rw [show s.firewall.withoutAirgap = s.firewall.inMode none from rfl, inMode_eq_self_iff h, h.memory,
      Option.isSome_eq_false_iff, Option.isNone_iff_eq_none]

end Calls

/-! ## Runs -/

def linuxMachine : Machine (AirgapHost Iptables) (AirgapOp (ℕ → Bool)) := airgapMachine linuxBackend Agree

/-- A host reported as airgapped has the rules. -/
def RulesInForce (s : AirgapHost Iptables) : Prop :=
  s.enabled = true → ∃ serverIPs, s.firewall.airgapped serverIPs = s.firewall

/-- On an airgapped host, airgap is renewed without an error before the write, and turned off with its write
done; a restart that finds airgap on in the file applies every rule. -/
def StaysEnforced (s : AirgapHost Iptables) : AirgapOp (ℕ → Bool) → Prop
  | .set o true _ serverIPs => s.enabled = true → ReachesWrite o true serverIPs
  | .set o false _ _ => s.enabled = true → o.write = .done
  | .restart readable commands =>
      ∀ serverIPs, (if readable then s.file.airgapped else none) = some serverIPs → AppliesAll commands serverIPs

section Runs
variable {s : AirgapHost Iptables}

theorem not_airgapped_withoutAirgap {f : Iptables} (serverIPs : List String) :
    f.withoutAirgap.airgapped serverIPs ≠ f.withoutAirgap :=
  fun h => Option.some_ne_none _ (congrArg Iptables.chain h)

theorem enforced_step_iff {op : AirgapOp (ℕ → Bool)} :
    RulesInForce (airgapStep linuxBackend s op) ↔ StaysEnforced s op := by
  match op with
  | .set o true changedBy serverIPs =>
      show RulesInForce (setAirgapMode _ o true changedBy serverIPs s).1 ↔ _
      by_cases hreach : ReachesWrite o true serverIPs
      · rw [setAirgap_reaches hreach]
        simp only [StaysEnforced, hreach, implies_true, iff_true]
        exact fun _ => ⟨serverIPs, by simp [requestedMode, Iptables.inMode, Iptables.airgapped]⟩
      · obtain ⟨err, hstop⟩ := @setAirgap_stops s o true changedBy serverIPs hreach
        rw [hstop]
        simp [RulesInForce, StaysEnforced, hreach, not_airgapped_withoutAirgap]
  | .set o false changedBy serverIPs =>
      show RulesInForce (setAirgapMode _ o false changedBy serverIPs s).1 ↔ _
      have hreach : ReachesWrite o false serverIPs := nofun
      rw [setAirgap_reaches hreach]
      by_cases hw : o.write = .done
      · simp [RulesInForce, StaysEnforced, persistAirgap_enabled, hw]
      · simp [RulesInForce, StaysEnforced, persistAirgap_enabled, hw, requestedMode, Iptables.inMode,
          not_airgapped_withoutAirgap]
  | .restart readable commands =>
      show RulesInForce (loadAirgapState _ readable commands s) ↔ _
      cases hread : (if readable then s.file.airgapped else none) with
      | none => simp [RulesInForce, StaysEnforced, loadAirgapState, hread]
      | some serverIPs =>
          by_cases happly : AppliesAll commands serverIPs
          · simp only [RulesInForce, StaysEnforced, loadAirgapState, hread, linuxBackend, applyAirgap_eq, happly,
              if_true, true_implies, Option.some.injEq, forall_eq', iff_true]
            exact ⟨serverIPs, by simp [Iptables.airgapped]⟩
          · simp [RulesInForce, StaysEnforced, loadAirgapState, hread, linuxBackend, applyAirgap_eq, happly,
              not_airgapped_withoutAirgap]

/-- **A failed airgap change changes nothing.** From three records that agree, the calls that keep or agree
are the safe ones; and in a run whose steps keep the rules enforced, a host reported as airgapped has
them. -/
theorem airgap_changes_nothing_or_all (s : AirgapHost Iptables) :
    (∀ (o : CallOutcome (ℕ → Bool)) (enabled : Bool) (changedBy : String) (serverIPs : List String), Agree s →
      (KeepsOrAgrees s (requestedMode enabled serverIPs)
        (setAirgapMode linuxBackend o enabled changedBy serverIPs s) ↔ CallSafe s o enabled serverIPs)) ∧
    (Reach linuxMachine StaysEnforced s → RulesInForce s) := by
  refine ⟨fun o enabled changedBy serverIPs h => keepsOrAgrees_iff h, fun h => ?_⟩
  refine h.invariant (fun s hs hon => ?_) fun s op t _ hok hstep => ?_
  · have hfirewall := hs.firewall
    obtain ⟨serverIPs, hips⟩ := Option.isSome_iff_exists.1 (hs.memory.symm.trans hon)
    rw [hips] at hfirewall
    exact ⟨serverIPs, hfirewall⟩
  · obtain rfl := Option.some.inj hstep
    exact enforced_step_iff.2 hok

end Runs

/-- An airgapped host with a rule of its own. -/
def airgappedHost : AirgapHost Iptables :=
  ⟨true, .saved ⟨true, "2026-01-01T00:00:00Z", "remote", ["203.0.113.7"]⟩,
    (⟨[["-p", "tcp", "--dport", "25", "-j", "REJECT"]], [], none⟩ : Iptables).airgapped ["203.0.113.7"]⟩

theorem agree_airgappedHost : Agree airgappedHost := ⟨fun _ => nofun, rfl, by decide⟩

/-- Airgap is asked for once more, and the disk refuses the write. -/
def renewRefused : CallOutcome (ℕ → Bool) := ⟨fun _ => false, true, .refused, "2026-01-01T00:01:00Z"⟩

theorem airgap_changes_nothing_or_all_renewed :
    (setAirgapMode linuxBackend renewRefused true "remote" ["203.0.113.7"] airgappedHost).1 = airgappedHost ∧
      RulesInForce (loadAirgapState linuxBackend true (fun _ => false) airgappedHost) := by
  have hsafe : CallSafe airgappedHost renewRefused true ["203.0.113.7"] :=
    ⟨fun _ _ => ⟨by decide, rfl⟩, fun _ => .inr ⟨rfl, rfl⟩⟩
  have hrestart : Reach linuxMachine StaysEnforced (loadAirgapState linuxBackend true (fun _ => false) airgappedHost) :=
    (Reach.start agree_airgappedHost).next (.restart true fun _ => false)
      (fun serverIPs hips => by obtain rfl := Option.some.inj hips; decide) rfl
  refine ⟨?_, (airgap_changes_nothing_or_all _).2 hrestart⟩
  exact (((airgap_changes_nothing_or_all airgappedHost).1 renewRefused true "remote" ["203.0.113.7"]
    agree_airgappedHost).2 hsafe).1 (by decide)

/-- The chain cannot be created when airgap is asked for once more: the rules are gone, the host says it is
airgapped. -/
theorem believed_airgapped :
    ∃ o r, setAirgapMode linuxBackend o true "remote" ["203.0.113.7"] airgappedHost = r ∧ Agree airgappedHost ∧
      r.2 = some .applyRules ∧ r.1.enabled = true ∧ r.1.firewall ≠ airgappedHost.firewall ∧ ¬ RulesInForce r.1 := by
  refine ⟨⟨fun k => decide (k = 0), true, .done, "2026-01-01T00:01:00Z"⟩, _, rfl, agree_airgappedHost, by decide,
    by decide, by decide, fun hforce => ?_⟩
  obtain ⟨serverIPs, hips⟩ := hforce (by decide)
  exact Option.some_ne_none _ (congrArg Iptables.chain hips)

end Obliance.Agent
