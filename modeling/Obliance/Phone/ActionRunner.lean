import Mathlib.Algebra.Order.Group.Int
import Mathlib.Data.List.Infix
import Mathlib.Tactic.Common
import Obliance.Lib.GuardedRun

/-!
# The path of mutating calls (`ActionRunner.kt`)

One runner and the runs of its actions, any number of them at once, between whose statements the others go on.
What a run sees and does is an event; the server, the prompts and the clock choose the events.

* `Stage`, `next` : where a run is, and where an event takes it;
* `runnerMachine` : the runs of one runner, and its trust window;
* `Allowed` : what must have happened in a run before an event of it;
* `rank`, `Onward`, `at_next` : every event is allowed and brings a run closer to its end; `next_isSome` : it is never
  stuck;
* `run_guarded` : every run of every reachable runner keeps to it, and calls at most five times.
-/

namespace Obliance.Phone.ActionRunner
open GuardedRun

inductive Tier where
  | t0
  | t1
  | t2
  | t3
  deriving DecidableEq, Repr

/-- What a run reads of its action; the other fields are for the prompts. -/
structure ActionSpec where
  key : String
  tier : Tier
  targetCount : ℤ
  deriving DecidableEq, Repr

inductive Preflight where
  | ok
  | blocked (reason : String)
  | needsTenantSwitch (tenantName : String)
  deriving DecidableEq, Repr

/-- The kinds of answers that a screen explains. -/
inductive Refusal where
  | unsupported
  | forbidden
  | agentOffline
  | rateLimited
  | validation
  | failure
  deriving DecidableEq, Repr

inductive ApiOutcome (α : Type) where
  | ok (value : α)
  | accepted (value : α)
  | pendingApproval (approvalId : ℤ)
  | stepUpRequired (currentIp : Option String)
  | stepUpRejected
  | privacyLocked (feature : Option String) (passwordSet : Bool) (message : String)
  | sessionExpired
  | refused (refusal : Refusal) (message : String)
  deriving DecidableEq, Repr

structure TwoFactorAnswer where
  code : String
  trustIp : Bool
  deriving DecidableEq, Repr

inductive JsonPrimitive where
  | str (s : String)
  | bool (b : Bool)
  deriving DecidableEq, Repr

abbrev JsonObject := List (String × JsonPrimitive)

inductive ActionResult (α : Type) where
  | done (value : α)
  | awaitingApproval (approvalId : ℤ)
  | cancelled
  | blocked (reason : String)
  | sessionExpired
  | failed (outcome : ApiOutcome α)
  /-- A prompt or a call that throws, or a run that is cancelled. -/
  | thrown
  deriving DecidableEq, Repr

def maxCodeAttempts : ℕ := 3

def trustWindowMs : ℤ := 60000

/-- The variables of the loop. -/
structure Attempt where
  extra : JsonObject
  codeAttempts : ℕ
  wrongCode : Bool
  privacyRetried : Bool
  deriving DecidableEq, Repr

def firstAttempt : Attempt := ⟨[], 0, false, false⟩

/-- What a run waits for or does next. -/
inductive Stage (α : Type) where
  | preflight
  | tenantSwitch (tenantName : String)
  | switching
  /-- `val at = lastStrongConfirmAt` -/
  | window
  /-- `clock() - at in 0 until TRUST_WINDOW_MS` -/
  | windowClock (confirmedAt : ℤ)
  | confirming
  /-- `lastStrongConfirmAt = clock()` -/
  | stamping
  | ready (a : Attempt)
  | calling (a : Attempt)
  | askingCode (a : Attempt) (currentIp : Option String)
  | unlocking (a : Attempt) (feature : Option String) (passwordSet : Bool) (message : String)
  | approving (approvalId : ℤ)
  | expiring
  | ended (r : ActionResult α)
  deriving DecidableEq, Repr

inductive Event (α : Type) where
  | preflight (p : Preflight)
  | tenantSwitch (accepted : Bool)
  | switched (ok : Bool)
  | window (confirmedAt : Option ℤ)
  /-- The window is over, or the clock went back. -/
  | outside (now : ℤ)
  /-- The confirmation is skipped. -/
  | skipped (confirmedAt now : ℤ)
  | confirmed (b : Bool)
  | stamped (now : ℤ)
  | called (extra : JsonObject)
  | outcome (out : ApiOutcome α)
  | code (answer : Option TwoFactorAnswer)
  | unlocked (b : Bool)
  | shown
  | thrown
  deriving DecidableEq, Repr

section Next
variable {α : Type} (trim : String → String)

def withinWindow (confirmedAt now : ℤ) : Bool :=
  decide (0 ≤ now - confirmedAt) && decide (now - confirmedAt < trustWindowMs)

/-- Behind the preflight: only a T2 action on a single target asks for the trust window. -/
def confirmStage (spec : ActionSpec) : Stage α :=
  if spec.tier = .t0 then .ready firstAttempt
  else if spec.tier ≠ .t2 ∨ spec.targetCount > 1 then .confirming
  else .window

/-- The body once more, with the code. -/
def withCode (extra : JsonObject) (answer : TwoFactorAnswer) : JsonObject :=
  extra.filter (fun kv => decide (kv.1 ≠ "twoFactorCode") && decide (kv.1 ≠ "trustIp")) ++
    [("twoFactorCode", .str (trim answer.code))] ++
    (if answer.trustIp then [("trustIp", .bool true)] else [])

def askCode (a : Attempt) (currentIp : Option String) : Stage α :=
  if maxCodeAttempts ≤ a.codeAttempts then .ended (.failed .stepUpRejected) else .askingCode a currentIp

def afterOutcome (a : Attempt) : ApiOutcome α → Stage α
  | .ok value => .ended (.done value)
  | .accepted value => .ended (.done value)
  | .pendingApproval approvalId => .approving approvalId
  | .stepUpRequired currentIp => askCode a currentIp
  | .stepUpRejected => askCode { a with wrongCode := true } none
  | .privacyLocked feature passwordSet message =>
      if a.privacyRetried then .ended (.failed (.privacyLocked feature passwordSet message))
      else .unlocking a feature passwordSet message
  | .sessionExpired => .expiring
  | .refused refusal message => .ended (.failed (.refused refusal message))

/-- Where an event takes a run; `none` where it cannot happen. `strongAt` is `lastStrongConfirmAt`. -/
def next (spec : ActionSpec) (strongAt : Option ℤ) : Stage α → Event α → Option (Stage α)
  | .preflight, .preflight .ok => some (confirmStage spec)
  | .preflight, .preflight (.blocked reason) => some (.ended (.blocked reason))
  | .preflight, .preflight (.needsTenantSwitch name) => some (.tenantSwitch name)
  | .tenantSwitch _, .tenantSwitch accepted =>
      some (if accepted then .switching else .ended .cancelled)
  | .switching, .switched ok =>
      some (if ok then confirmStage spec else .ended (.blocked "tenant switch failed"))
  | .window, .window confirmedAt =>
      if confirmedAt = strongAt then
        some (match confirmedAt with
          | none => .confirming
          | some t => .windowClock t)
      else none
  | .windowClock t, .skipped t' now =>
      if t' = t ∧ withinWindow t now then some (.ready firstAttempt) else none
  | .windowClock t, .outside now => if withinWindow t now then none else some (.confirming)
  | .confirming, .confirmed b =>
      some (if b then (if spec.tier = .t2 then .stamping else .ready firstAttempt) else .ended .cancelled)
  | .stamping, .stamped _ => some (.ready firstAttempt)
  | .ready a, .called extra => if extra = a.extra then some (.calling a) else none
  | .calling a, .outcome out => some (afterOutcome a out)
  | .askingCode a _, .code answer =>
      some (match answer with
        | none => .ended .cancelled
        | some x => .ready { a with codeAttempts := a.codeAttempts + 1, extra := withCode trim a.extra x })
  | .unlocking a feature passwordSet message, .unlocked b =>
      some (if b then .ready { a with privacyRetried := true }
        else .ended (.failed (.privacyLocked feature passwordSet message)))
  | .approving approvalId, .shown => some (.ended (.awaitingApproval approvalId))
  | .expiring, .shown => some (.ended .sessionExpired)
  | .ended _, _ => none
  | _, .thrown => some (.ended .thrown)
  | _, _ => none

/-- Only behind a confirmation of a T2 action is the trust window written. -/
def strongAfter (strongAt : Option ℤ) : Stage α → Event α → Option ℤ
  | .stamping, .stamped now => some now
  | _, _ => strongAt

end Next

/-! ## The runs of one runner -/

structure Run (α : Type) where
  spec : ActionSpec
  stage : Stage α
  log : List (Event α)

structure Runner (α : Type) where
  lastStrongConfirmAt : Option ℤ
  runs : List (Run α)

inductive RunnerAct (α : Type) where
  | run (spec : ActionSpec)
  /-- The next event of the `i`-th run. -/
  | event (i : ℕ) (e : Event α)

variable {α : Type} (trim : String → String)

def runnerStep (s : Runner α) : RunnerAct α → Option (Runner α)
  | .run spec => some { s with runs := s.runs ++ [⟨spec, .preflight, []⟩] }
  | .event i e =>
      s.runs[i]?.bind fun r => (next trim r.spec s.lastStrongConfirmAt r.stage e).map fun stage =>
        ⟨strongAfter s.lastStrongConfirmAt r.stage e, s.runs.set i ⟨r.spec, stage, r.log ++ [e]⟩⟩

def runnerMachine : Machine (Runner α) (RunnerAct α) where
  init s := s = ⟨none, []⟩
  step := runnerStep trim

/-! ## What must have happened before an event -/

/-- The answers after which nothing may be called any more. -/
def final : Event α → Bool
  | .preflight (.blocked _) => true
  | .tenantSwitch accepted => !accepted
  | .switched ok => !ok
  | .confirmed b => !b
  | .outcome (.stepUpRequired _) => false
  | .outcome .stepUpRejected => false
  | .outcome (.privacyLocked _ _ _) => false
  | .outcome _ => true
  | .code answer => answer.isNone
  | .unlocked b => !b
  | .shown => true
  | .thrown => true
  | _ => false

def isCalled : Event α → Bool
  | .called _ => true
  | _ => false

def calls (log : List (Event α)) : ℕ := log.countP isCalled

/-- The preflight is passed, with an accepted and successful tenant switch where it asks for one. -/
def Passed (log : List (Event α)) : Prop :=
  .preflight .ok ∈ log ∨
    ∃ name, .preflight (.needsTenantSwitch name) ∈ log ∧ .tenantSwitch true ∈ log ∧ .switched true ∈ log

def Confirmed (spec : ActionSpec) (log : List (Event α)) : Prop :=
  spec.tier = .t0 ∨ .confirmed true ∈ log ∨ ∃ t now, .skipped t now ∈ log

/-- The last event is a code, which the body carries, or an unlock. -/
def Answered (log : List (Event α)) (extra : JsonObject) : Prop :=
  (∃ answer, log.getLast? = some (.code (some answer)) ∧ ("twoFactorCode", .str (trim answer.code)) ∈ extra) ∨
    log.getLast? = some (.unlocked true)

/-- A T2 action of the runner was confirmed, and the instant kept. -/
def Backed (runs : List (Run α)) (t : ℤ) : Prop :=
  ∃ r ∈ runs, r.spec.tier = .t2 ∧ .confirmed true ∈ r.log ∧ .stamped t ∈ r.log

def AllowedCall (spec : ActionSpec) (log : List (Event α)) (extra : JsonObject) : Prop :=
  Passed log ∧ Confirmed spec log ∧ (∀ e ∈ log, final e = false) ∧ (0 < calls log → Answered trim log extra)

def AllowedSkip (spec : ActionSpec) (log : List (Event α)) (t now : ℤ) : Prop :=
  spec.tier = .t2 ∧ spec.targetCount ≤ 1 ∧ 0 ≤ now - t ∧ now - t < 60000 ∧ .window (some t) ∈ log

/-- What the events before it allow. -/
def Allowed (spec : ActionSpec) (log : List (Event α)) : Event α → Prop
  | .called extra => AllowedCall trim spec log extra
  | .skipped t now => AllowedSkip spec log t now
  | _ => True

/-! ## Where a run is, and what has happened -/

/-- The retries made and left. -/
def Attempt.used (a : Attempt) : ℕ := a.codeAttempts + (if a.privacyRetried then 1 else 0)

def Attempt.left (a : Attempt) : ℕ := (maxCodeAttempts - a.codeAttempts) + (if a.privacyRetried then 0 else 1)

def rank : Stage α → ℕ
  | .preflight => 22
  | .tenantSwitch _ => 21
  | .switching => 20
  | .window => 19
  | .windowClock _ => 18
  | .confirming => 17
  | .stamping => 16
  | .ready a => 3 * a.left + 3
  | .calling a => 3 * a.left + 2
  | .askingCode a _ => 3 * a.left + 1
  | .unlocking a _ _ _ => 3 * a.left + 1
  | .approving _ => 1
  | .expiring => 1
  | .ended _ => 0

structure Before (log : List (Event α)) : Prop where
  passed : Passed log
  undisturbed : ∀ e ∈ log, final e = false
  calls : calls log = 0

/-- In the loop, with `n` calls besides those the retries stand for. -/
structure Looping (spec : ActionSpec) (log : List (Event α)) (a : Attempt) (n : ℕ) : Prop where
  passed : Passed log
  confirmed : Confirmed spec log
  undisturbed : ∀ e ∈ log, final e = false
  calls : calls log ≤ a.used + n
  codes : a.codeAttempts ≤ maxCodeAttempts

def At (spec : ActionSpec) (log : List (Event α)) : Stage α → Prop
  | .preflight => log = []
  | .tenantSwitch name => log = [.preflight (.needsTenantSwitch name)]
  | .switching => ∃ name, log = [.preflight (.needsTenantSwitch name), .tenantSwitch true]
  | .window => Before log ∧ spec.tier = .t2 ∧ spec.targetCount ≤ 1
  | .windowClock t => Before log ∧ (spec.tier = .t2 ∧ spec.targetCount ≤ 1) ∧ .window (some t) ∈ log
  | .confirming => Before log
  | .stamping => Before log ∧ spec.tier = .t2 ∧ .confirmed true ∈ log
  | .ready a => Looping spec log a 0 ∧ (0 < calls log → Answered trim log a.extra)
  | .calling a => Looping spec log a 1
  | .askingCode a _ => Looping spec log a 1 ∧ a.codeAttempts < maxCodeAttempts
  | .unlocking a _ _ _ => Looping spec log a 1 ∧ a.privacyRetried = false
  | _ => calls log ≤ 1 + maxCodeAttempts + 1

section Snoc
variable {spec : ActionSpec} {log : List (Event α)} {e : Event α} {a : Attempt} {n : ℕ}

theorem calls_snoc : calls (log ++ [e]) = calls log + if isCalled e then 1 else 0 := by
  rw [calls, List.countP_append, List.countP_singleton]
  rfl

theorem undisturbed_snoc (h : ∀ e ∈ log, final e = false) (he : final e = false) :
    ∀ x ∈ log ++ [e], final x = false := by
  intro x hx
  obtain hx | hx := List.mem_append.1 hx
  · exact h x hx
  · rw [List.mem_singleton.1 hx]
    exact he

theorem Passed.snoc (h : Passed log) (e : Event α) : Passed (log ++ [e]) :=
  h.imp (List.mem_append_left _) fun ⟨name, h1, h2, h3⟩ =>
    ⟨name, List.mem_append_left _ h1, List.mem_append_left _ h2, List.mem_append_left _ h3⟩

theorem Confirmed.snoc (h : Confirmed spec log) (e : Event α) : Confirmed spec (log ++ [e]) :=
  h.imp_right fun h => h.imp (List.mem_append_left _) fun ⟨t, now, h⟩ => ⟨t, now, List.mem_append_left _ h⟩

theorem Before.snoc (h : Before log) (he : final e = false) (hc : isCalled e = false) : Before (log ++ [e]) :=
  ⟨h.passed.snoc e, undisturbed_snoc h.undisturbed he, by rw [calls_snoc, h.calls, hc]; rfl⟩

/-- The confirmation is over: nothing is called yet. -/
theorem Before.ready (h : Before log) (hconfirmed : Confirmed spec log) : At trim spec log (.ready firstAttempt) :=
  ⟨⟨h.passed, hconfirmed, h.undisturbed, by rw [h.calls]; exact Nat.zero_le _, Nat.zero_le _⟩, fun hpos => by
    rw [h.calls] at hpos
    cases hpos⟩

theorem Before.confirmStage (h : Before log) : At trim spec log (confirmStage spec) := by
  unfold ActionRunner.confirmStage
  split_ifs with h0 h2
  · exact h.ready trim (.inl h0)
  · exact h
  · rw [not_or, not_not, not_lt] at h2
    exact ⟨h, h2⟩

theorem calls_le (h : calls log ≤ a.used + 1) (hcodes : a.codeAttempts ≤ maxCodeAttempts) :
    calls log ≤ 1 + maxCodeAttempts + 1 := by
  have hused : a.used ≤ maxCodeAttempts + 1 := by
    unfold Attempt.used
    split <;> omega
  omega

end Snoc

section Steps
variable {spec : ActionSpec} {log : List (Event α)} {stage stage' : Stage α} {strongAt : Option ℤ}
  {e : Event α} {a : Attempt} {n : ℕ}

variable {trim} in
/-- In every stage the calls are within the bound. -/
theorem At.calls_le (h : At trim spec log stage) : calls log ≤ 1 + maxCodeAttempts + 1 := by
  cases stage with
  | preflight => rw [show log = [] from h]; exact Nat.zero_le _
  | tenantSwitch name => rw [show log = [.preflight (.needsTenantSwitch name)] from h]; simp [calls, isCalled]
  | switching =>
      obtain ⟨name, rfl⟩ := h
      simp [calls, isCalled]
  | window => rw [h.1.calls]; exact Nat.zero_le _
  | windowClock t => rw [h.1.calls]; exact Nat.zero_le _
  | confirming => rw [Before.calls h]; exact Nat.zero_le _
  | stamping => rw [h.1.calls]; exact Nat.zero_le _
  | ready a => exact ActionRunner.calls_le (h.1.calls.trans (Nat.le_succ _)) h.1.codes
  | calling a => exact ActionRunner.calls_le (Looping.calls h) (Looping.codes h)
  | askingCode a ip => exact ActionRunner.calls_le h.1.calls h.1.codes
  | unlocking a _ _ _ => exact ActionRunner.calls_le h.1.calls h.1.codes
  | approving _ => exact h
  | expiring => exact h
  | ended _ => exact h

variable {trim} in
theorem At.snoc_le (h : At trim spec log stage) (hc : isCalled e = false) :
    calls (log ++ [e]) ≤ 1 + maxCodeAttempts + 1 := by
  rw [calls_snoc, hc]
  exact h.calls_le

theorem Looping.snoc (h : Looping spec log a n) (he : final e = false) (hc : isCalled e = false) :
    Looping spec (log ++ [e]) a n :=
  ⟨h.passed.snoc e, h.confirmed.snoc e, undisturbed_snoc h.undisturbed he, by rw [calls_snoc, hc]; exact h.calls,
    h.codes⟩

theorem Looping.called (h : Looping spec log a 0) (extra : JsonObject) :
    Looping spec (log ++ [.called extra]) a 1 :=
  ⟨h.passed.snoc _, h.confirmed.snoc _, undisturbed_snoc h.undisturbed rfl,
    by rw [calls_snoc]; exact Nat.succ_le_succ h.calls, h.codes⟩

theorem at_askCode (h : Looping spec log a 1) (ip : Option String) :
    At trim spec log (askCode a ip) ∧ rank (askCode a ip : Stage α) < 3 * a.left + 2 := by
  unfold askCode
  split_ifs with hmax
  · exact ⟨calls_le h.calls h.codes, by rw [rank]; omega⟩
  · exact ⟨⟨h, not_le.1 hmax⟩, by rw [rank]; omega⟩

/-- What the server answers, one case for each guard rail. -/
theorem at_outcome (h : Looping spec log a 1) (out : ApiOutcome α) :
    At trim spec (log ++ [.outcome out]) (afterOutcome a out) ∧ rank (afterOutcome a out) < 3 * a.left + 2 := by
  have hend : calls (log ++ [.outcome out]) ≤ 1 + maxCodeAttempts + 1 := by
    rw [calls_snoc]
    exact calls_le h.calls h.codes
  cases out with
  | stepUpRequired ip => exact at_askCode trim (h.snoc rfl rfl) ip
  | stepUpRejected =>
      have hwrong : Looping spec (log ++ [.outcome .stepUpRejected]) { a with wrongCode := true } 1 :=
        ⟨(h.snoc rfl rfl).passed, (h.snoc rfl rfl).confirmed, (h.snoc rfl rfl).undisturbed, (h.snoc rfl rfl).calls,
          h.codes⟩
      exact at_askCode trim hwrong none
  | privacyLocked feature passwordSet message =>
      dsimp only [afterOutcome]
      split_ifs with hretried
      · exact ⟨hend, by rw [rank]; omega⟩
      · exact ⟨⟨h.snoc rfl rfl, Bool.not_eq_true _ ▸ hretried⟩, by rw [rank]; omega⟩
  | ok _ => exact ⟨hend, by rw [afterOutcome, rank]; omega⟩
  | accepted _ => exact ⟨hend, by rw [afterOutcome, rank]; omega⟩
  | pendingApproval _ => exact ⟨hend, by rw [afterOutcome, rank]; omega⟩
  | sessionExpired => exact ⟨hend, by rw [afterOutcome, rank]; omega⟩
  | refused _ _ => exact ⟨hend, by rw [afterOutcome, rank]; omega⟩

/-- A code uses one of the attempts, and the body carries it. -/
theorem at_code (h : Looping spec log a 1) (hcodes : a.codeAttempts < maxCodeAttempts) (x : TwoFactorAnswer) :
    let a' := { a with codeAttempts := a.codeAttempts + 1, extra := withCode trim a.extra x }
    At trim spec (log ++ [.code (some x)]) (.ready a') ∧ rank (.ready a' : Stage α) < 3 * a.left + 1 := by
  have hsnoc : Looping spec (log ++ [.code (some x)]) a 1 := h.snoc rfl rfl
  refine ⟨⟨⟨hsnoc.passed, hsnoc.confirmed, hsnoc.undisturbed, ?_, hcodes⟩, fun _ => .inl ⟨x, ?_, ?_⟩⟩, ?_⟩
  · refine hsnoc.calls.trans (le_of_eq ?_)
    simp only [Attempt.used]
    omega
  · exact List.getLast?_concat
  · simp [withCode]
  · simp only [rank, Attempt.left]
    omega

theorem at_unlocked (h : Looping spec log a 1) (hretried : a.privacyRetried = false) :
    let a' := { a with privacyRetried := true }
    At trim spec (log ++ [.unlocked true]) (.ready a') ∧ rank (.ready a' : Stage α) < 3 * a.left + 1 := by
  have hsnoc : Looping spec (log ++ [.unlocked true]) a 1 := h.snoc rfl rfl
  refine ⟨⟨⟨hsnoc.passed, hsnoc.confirmed, hsnoc.undisturbed, ?_, h.codes⟩, fun _ => .inr List.getLast?_concat⟩, ?_⟩
  · have := hsnoc.calls
    simp only [Attempt.used, hretried] at this ⊢
    simpa using this
  · simp only [rank, Attempt.left, hretried, if_true, Bool.false_eq_true, if_false]
    omega

@[simp] theorem left_first : firstAttempt.left = 4 := rfl

theorem rank_pos (h : ∀ r, stage ≠ .ended r) : 0 < rank stage := by
  cases stage with
  | ended r => exact absurd rfl (h r)
  | _ => simp [rank]

/-- One event on: where the run is, that the event was allowed, and that less is left to do. -/
structure Onward (spec : ActionSpec) (log : List (Event α)) (stage stage' : Stage α) (e : Event α) : Prop where
  place : At trim spec (log ++ [e]) stage'
  allowed : Allowed trim spec log e
  less : rank stage' < rank stage

theorem rank_confirmStage : rank (confirmStage spec : Stage α) < rank (.switching : Stage α) := by
  unfold confirmStage
  split_ifs <;> simp [rank]

theorem onward_preflight (p : Preflight) :
    Onward trim spec ([] : List (Event α)) .preflight (match p with
      | .ok => confirmStage spec
      | .blocked reason => .ended (.blocked reason)
      | .needsTenantSwitch name => .tenantSwitch name) (.preflight p) := by
  cases p with
  | ok =>
      have hbefore : Before ([] ++ [.preflight .ok] : List (Event α)) :=
        ⟨.inl (List.mem_singleton_self _), by simp [final], rfl⟩
      exact ⟨hbefore.confirmStage trim, trivial, rank_confirmStage.trans (by simp [rank])⟩
  | blocked reason => exact ⟨Nat.zero_le _, trivial, by simp [rank]⟩
  | needsTenantSwitch name => exact ⟨rfl, trivial, by simp [rank]⟩

variable {trim} in
theorem onward_tenantSwitch {name : String} (hat : At trim spec log (.tenantSwitch name)) (accepted : Bool) :
    Onward trim spec log (.tenantSwitch name) (if accepted then .switching else .ended .cancelled)
      (.tenantSwitch accepted) := by
  have hlog : log = [.preflight (.needsTenantSwitch name)] := hat
  cases accepted with
  | false => exact ⟨hat.snoc_le rfl, trivial, rank_pos nofun⟩
  | true => exact ⟨⟨name, by rw [hlog]; rfl⟩, trivial, Nat.lt_succ_self _⟩

variable {trim} in
theorem onward_switched (hat : At trim spec log .switching) (ok : Bool) :
    Onward trim spec log .switching (if ok then confirmStage spec else .ended (.blocked "tenant switch failed"))
      (.switched ok) := by
  cases ok with
  | false => exact ⟨hat.snoc_le rfl, trivial, rank_pos nofun⟩
  | true =>
      obtain ⟨name, hlog⟩ := hat
      have hbefore : Before (log ++ [.switched true]) := by
        rw [hlog]
        exact ⟨.inr ⟨name, by simp, by simp, by simp⟩, by simp [final], rfl⟩
      exact ⟨hbefore.confirmStage trim, trivial, rank_confirmStage⟩

variable {trim} in
theorem onward_window (hat : At trim spec log .window) (confirmedAt : Option ℤ) :
    Onward trim spec log .window (match confirmedAt with
      | none => .confirming
      | some t => .windowClock t) (.window confirmedAt) := by
  obtain ⟨hbefore, hspec⟩ := hat
  cases confirmedAt with
  | none => exact ⟨hbefore.snoc rfl rfl, trivial, by simp [rank]⟩
  | some t =>
      exact ⟨⟨hbefore.snoc rfl rfl, hspec, List.mem_append_right _ (List.mem_singleton_self _)⟩, trivial,
        by simp [rank]⟩

variable {trim} in
/-- The confirmation is skipped only within the window that was read. -/
theorem onward_skipped {t now : ℤ} (hat : At trim spec log (.windowClock t)) (hwithin : withinWindow t now = true) :
    Onward trim spec log (.windowClock t) (.ready firstAttempt) (.skipped t now) := by
  obtain ⟨hbefore, hspec, hread⟩ := hat
  rw [withinWindow, Bool.and_eq_true, decide_eq_true_iff, decide_eq_true_iff] at hwithin
  refine ⟨(hbefore.snoc rfl rfl).ready trim (.inr (.inr ⟨t, now, ?_⟩)), ?_, by simp [rank]⟩
  · exact List.mem_append_right _ (List.mem_singleton_self _)
  · exact ⟨hspec.1, hspec.2, hwithin.1, hwithin.2, hread⟩

variable {trim} in
theorem onward_confirmed (hat : At trim spec log .confirming) (b : Bool) :
    Onward trim spec log .confirming
      (if b then (if spec.tier = .t2 then .stamping else .ready firstAttempt) else .ended .cancelled)
      (.confirmed b) := by
  cases b with
  | false => exact ⟨hat.snoc_le rfl, trivial, rank_pos nofun⟩
  | true =>
      have hin : (.confirmed true : Event α) ∈ log ++ [.confirmed true] :=
        List.mem_append_right _ (List.mem_singleton_self _)
      have hbefore : Before (log ++ [.confirmed true]) := Before.snoc hat rfl rfl
      rw [if_pos rfl]
      split_ifs with htier
      · exact ⟨⟨hbefore, htier, hin⟩, trivial, by simp [rank]⟩
      · exact ⟨hbefore.ready trim (.inr (.inl hin)), trivial, by simp [rank]⟩

variable {trim} in
theorem onward_stamped (hat : At trim spec log .stamping) (now : ℤ) :
    Onward trim spec log .stamping (.ready firstAttempt) (.stamped now) := by
  obtain ⟨hbefore, -, hin⟩ := hat
  exact ⟨(hbefore.snoc rfl rfl).ready trim (.inr (.inl (List.mem_append_left _ hin))), trivial, by simp [rank]⟩

variable {trim} in
theorem onward_called (hat : At trim spec log (.ready a)) :
    Onward trim spec log (.ready a) (.calling a) (.called a.extra) := by
  obtain ⟨hloop, hanswered⟩ := hat
  exact ⟨hloop.called _, ⟨hloop.passed, hloop.confirmed, hloop.undisturbed, hanswered⟩, by simp [rank]⟩

variable {trim} in
theorem onward_code {ip : Option String} (hat : At trim spec log (.askingCode a ip)) (answer : Option TwoFactorAnswer) :
    Onward trim spec log (.askingCode a ip) (match answer with
      | none => .ended .cancelled
      | some x => .ready { a with codeAttempts := a.codeAttempts + 1, extra := withCode trim a.extra x })
      (.code answer) := by
  cases answer with
  | none => exact ⟨hat.snoc_le rfl, trivial, rank_pos nofun⟩
  | some x =>
      obtain ⟨hat', hrank⟩ := at_code trim hat.1 hat.2 x
      exact ⟨hat', trivial, hrank⟩

variable {trim} in
theorem onward_unlocked {feature : Option String} {passwordSet : Bool} {message : String}
    (hat : At trim spec log (.unlocking a feature passwordSet message)) (b : Bool) :
    Onward trim spec log (.unlocking a feature passwordSet message)
      (if b then .ready { a with privacyRetried := true }
        else .ended (.failed (.privacyLocked feature passwordSet message))) (.unlocked b) := by
  cases b with
  | false => exact ⟨hat.snoc_le rfl, trivial, rank_pos nofun⟩
  | true =>
      obtain ⟨hat', hrank⟩ := at_unlocked trim hat.1 hat.2
      exact ⟨hat', trivial, hrank⟩

variable {trim} in
/-- **Every event** takes a run onward: one lemma for each of them. -/
theorem at_next (hat : At trim spec log stage) (h : next trim spec strongAt stage e = some stage') :
    Onward trim spec log stage stage' e := by
  unfold next at h
  split at h
  case h_17 => cases h
  case h_19 => cases h
  case h_6 confirmedAt =>
      split_ifs at h
      obtain rfl := Option.some.inj h
      exact onward_window hat confirmedAt
  case h_7 =>
      split_ifs at h with hskip
      obtain rfl := Option.some.inj h
      obtain ⟨rfl, hwithin⟩ := hskip
      exact onward_skipped hat hwithin
  case h_8 =>
      split_ifs at h
      obtain rfl := Option.some.inj h
      exact ⟨hat.1.snoc rfl rfl, trivial, by simp [rank]⟩
  case h_11 =>
      split_ifs at h with hextra
      obtain rfl := Option.some.inj h
      subst hextra
      exact onward_called hat
  all_goals obtain rfl := Option.some.inj h
  case h_1 =>
      rw [show log = [] from hat]
      exact onward_preflight trim .ok
  case h_2 reason =>
      rw [show log = [] from hat]
      exact onward_preflight trim (.blocked reason)
  case h_3 name =>
      rw [show log = [] from hat]
      exact onward_preflight trim (.needsTenantSwitch name)
  case h_4 accepted => exact onward_tenantSwitch hat accepted
  case h_5 ok => exact onward_switched hat ok
  case h_9 b => exact onward_confirmed hat b
  case h_10 now => exact onward_stamped hat now
  case h_12 out =>
      obtain ⟨hat', hrank⟩ := at_outcome trim hat out
      exact ⟨hat', trivial, hrank⟩
  case h_13 answer => exact onward_code hat answer
  case h_14 b => exact onward_unlocked hat b
  case h_15 => exact ⟨hat.snoc_le rfl, trivial, Nat.lt_succ_self _⟩
  case h_16 => exact ⟨hat.snoc_le rfl, trivial, Nat.lt_succ_self _⟩
  case h_18 hended => exact ⟨hat.snoc_le rfl, trivial, rank_pos hended⟩

end Steps

/-! ## A run is never stuck -/

/-- What the server, the prompts and the clock say next, whatever they are asked; `none` where they throw. -/
structure Surroundings (α : Type) where
  preflight : Option Preflight
  tenantSwitch : Option Bool
  switch : Option Bool
  confirm : Option Bool
  call : JsonObject → Option (ApiOutcome α)
  askTwoFactor : Option (Option TwoFactorAnswer)
  unlockPrivacy : Option Bool
  /-- `approvalRequested` and `sessionExpired`. -/
  shown : Option Unit
  clock : ℤ

def eventOf (w : Surroundings α) (strongAt : Option ℤ) : Stage α → Event α
  | .preflight => w.preflight.elim .thrown .preflight
  | .tenantSwitch _ => w.tenantSwitch.elim .thrown .tenantSwitch
  | .switching => w.switch.elim .thrown .switched
  | .window => .window strongAt
  | .windowClock t => if withinWindow t w.clock then .skipped t w.clock else .outside w.clock
  | .confirming => w.confirm.elim .thrown .confirmed
  | .stamping => .stamped w.clock
  | .ready a => .called a.extra
  | .calling a => (w.call a.extra).elim .thrown .outcome
  | .askingCode _ _ => w.askTwoFactor.elim .thrown .code
  | .unlocking _ _ _ _ => w.unlockPrivacy.elim .thrown .unlocked
  | .approving _ => w.shown.elim .thrown fun _ => .shown
  | .expiring => w.shown.elim .thrown fun _ => .shown
  | .ended _ => .thrown

theorem next_isSome (spec : ActionSpec) (strongAt : Option ℤ) {stage : Stage α} (w : Surroundings α)
    (h : ∀ r, stage ≠ .ended r) : (next trim spec strongAt stage (eventOf w strongAt stage)).isSome = true := by
  cases stage with
  | ended r => exact absurd rfl (h r)
  | preflight =>
      rcases w with ⟨_ | p, _⟩
      · rfl
      · cases p <;> rfl
  | tenantSwitch _ => cases hw : w.tenantSwitch <;> simp [eventOf, hw, next]
  | switching => cases hw : w.switch <;> simp [eventOf, hw, next]
  | window => simp [eventOf, next]
  | windowClock t => cases hw : withinWindow t w.clock <;> simp [eventOf, hw, next]
  | confirming => cases hw : w.confirm <;> simp [eventOf, hw, next]
  | stamping => rfl
  | ready a => simp [eventOf, next]
  | calling a => cases hw : w.call a.extra <;> simp [eventOf, hw, next]
  | askingCode _ _ => cases hw : w.askTwoFactor <;> simp [eventOf, hw, next]
  | unlocking _ _ _ _ => cases hw : w.unlockPrivacy <;> simp [eventOf, hw, next]
  | approving _ => cases hw : w.shown <;> simp [eventOf, hw, next]
  | expiring => cases hw : w.shown <;> simp [eventOf, hw, next]

/-! ## Every run of a runner -/

section Shared
variable {spec : ActionSpec} {stage stage' : Stage α} {strongAt : Option ℤ} {e : Event α} {t now : ℤ}
  {runs : List (Run α)} {r r' : Run α} {i : ℕ}

theorem strongAfter_eq (h : strongAfter strongAt stage e = some t) :
    strongAt = some t ∨ stage = .stamping ∧ e = .stamped t := by
  unfold strongAfter at h
  split at h
  · exact .inr ⟨rfl, by rw [Option.some.inj h]⟩
  · exact .inl h

variable {trim} in
theorem next_window {c : Option ℤ} (h : next trim spec strongAt stage (.window c) = some stage') : c = strongAt := by
  cases stage with
  | window =>
      dsimp only [next] at h
      split_ifs at h with hc
      exact hc
  | _ => cases h

/-- What a run has confirmed stays confirmed while the runs go on. -/
theorem Backed.set (h : Backed runs t) (hr : runs[i]? = some r) (hspec : r'.spec = r.spec)
    (hlog : ∀ x ∈ r.log, x ∈ r'.log) : Backed (runs.set i r') t := by
  obtain ⟨q, hq, htier, hconfirmed, hstamped⟩ := h
  obtain ⟨j, hj⟩ := List.mem_iff_getElem?.1 hq
  by_cases hij : i = j
  · subst hij
    obtain rfl := Option.some.inj (hr.symm.trans hj)
    have hlt : i < runs.length := (List.getElem?_eq_some_iff.1 hr).1
    exact ⟨r', List.mem_iff_getElem?.2 ⟨i, List.getElem?_set_self hlt⟩, hspec ▸ htier, hlog _ hconfirmed,
      hlog _ hstamped⟩
  · exact ⟨q, List.mem_iff_getElem?.2 ⟨j, by rw [List.getElem?_set_ne hij, hj]⟩, htier, hconfirmed, hstamped⟩

end Shared

structure RunInv (r : Run α) : Prop where
  place : At trim r.spec r.log r.stage
  short : r.log.length + rank r.stage ≤ 22
  lawful : ∀ pre e post, r.log = pre ++ e :: post → Allowed trim r.spec pre e

structure RunnerInv (s : Runner α) : Prop where
  runs : ∀ r ∈ s.runs, RunInv trim r
  strong : ∀ t, s.lastStrongConfirmAt = some t → Backed s.runs t
  windows : ∀ r ∈ s.runs, ∀ t, .window (some t) ∈ r.log → Backed s.runs t

variable {trim} in
theorem RunInv.next {r : Run α} (h : RunInv trim r) {strongAt : Option ℤ} {e : Event α} {stage : Stage α}
    (hnext : ActionRunner.next trim r.spec strongAt r.stage e = some stage) :
    RunInv trim ⟨r.spec, stage, r.log ++ [e]⟩ := by
  obtain ⟨hat, hallowed, hrank⟩ := at_next h.place hnext
  refine ⟨hat, ?_, fun pre x post hsplit => ?_⟩
  · have := h.short
    rw [List.length_append, List.length_singleton]
    dsimp only
    omega
  · dsimp only at hsplit ⊢
    obtain rfl | ⟨post', y, rfl⟩ := List.eq_nil_or_concat' post
    · obtain ⟨hlog, he⟩ := List.append_inj' hsplit rfl
      rw [← hlog, ← (List.cons.inj he).1]
      exact hallowed
    · rw [← List.cons_append, ← List.append_assoc] at hsplit
      exact h.lawful pre x post' (List.append_inj' hsplit rfl).1

/-- A new run, or one more event of a run. -/
theorem runnerInv_step {s t : Runner α} {act : RunnerAct α} (h : RunnerInv trim s)
    (hstep : runnerStep trim s act = some t) : RunnerInv trim t := by
  cases act with
  | run spec =>
      obtain rfl := Option.some.inj hstep
      have hmono : ∀ t, Backed s.runs t → Backed (s.runs ++ [⟨spec, .preflight, []⟩]) t :=
        fun t ⟨q, hq, hrest⟩ => ⟨q, List.mem_append_left _ hq, hrest⟩
      refine ⟨fun r hr => ?_, fun t ht => hmono t (h.strong t ht), fun r hr t ht => ?_⟩
      · obtain hr | hr := List.mem_append.1 hr
        · exact h.runs r hr
        · rw [List.mem_singleton.1 hr]
          exact ⟨rfl, le_rfl, fun pre e post hsplit => by simp at hsplit⟩
      · obtain hr | hr := List.mem_append.1 hr
        · exact hmono t (h.windows r hr t ht)
        · rw [List.mem_singleton.1 hr] at ht
          cases ht
  | event i e =>
      obtain ⟨r, hr, hstep⟩ := Option.bind_eq_some_iff.1 hstep
      obtain ⟨stage, hnext, rfl⟩ := Option.map_eq_some_iff.1 hstep
      have hrmem : r ∈ s.runs := List.mem_iff_getElem?.2 ⟨i, hr⟩
      have hmono : ∀ t, Backed s.runs t → Backed (s.runs.set i ⟨r.spec, stage, r.log ++ [e]⟩) t :=
        fun t ht => ht.set hr rfl fun x hx => List.mem_append_left _ hx
      have hnew : (⟨r.spec, stage, r.log ++ [e]⟩ : Run α) ∈ s.runs.set i ⟨r.spec, stage, r.log ++ [e]⟩ :=
        List.mem_iff_getElem?.2 ⟨i, List.getElem?_set_self (List.getElem?_eq_some_iff.1 hr).1⟩
      refine ⟨fun q hq => ?_, fun t ht => ?_, fun q hq t ht => ?_⟩
      · obtain hq | rfl := List.mem_or_eq_of_mem_set hq
        · exact h.runs q hq
        · exact (h.runs r hrmem).next hnext
      · obtain ht | ⟨hstage, rfl⟩ := strongAfter_eq ht
        · exact hmono t (h.strong t ht)
        · have hplace := (h.runs r hrmem).place
          rw [hstage] at hplace
          exact ⟨_, hnew, hplace.2.1, List.mem_append_left _ hplace.2.2,
            List.mem_append_right _ (List.mem_singleton_self _)⟩
      · obtain hq | rfl := List.mem_or_eq_of_mem_set hq
        · exact hmono t (h.windows q hq t ht)
        · obtain ht | ht := List.mem_append.1 ht
          · exact hmono t (h.windows r hrmem t ht)
          · obtain rfl := List.mem_singleton.1 ht
            exact hmono t (h.strong t (next_window hnext).symm)

theorem runnerInv_of_reach {s : Runner α} (h : Reach (runnerMachine trim) anyStep s) : RunnerInv trim s := by
  refine h.invariant ?_ fun s act t hs _ (hstep : runnerStep trim s act = some t) => runnerInv_step trim hs hstep
  rintro s rfl
  exact ⟨fun r hr => absurd hr List.not_mem_nil, fun t ht => (nomatch ht), fun r hr => absurd hr List.not_mem_nil⟩

/-- At every moment of every run of a runner, whatever the other runs do: it ends after at most 22 events and
is never stuck before, it calls at most five times, and what it does is allowed; where it skipped a
confirmation, the runner has confirmed a T2 action at the instant it read. -/
theorem run_guarded {s : Runner α} (h : Reach (runnerMachine trim) anyStep s) {r : Run α} (hr : r ∈ s.runs) :
    (r.log.length ≤ 22 ∧ ((∃ res, r.stage = .ended res) ∨
        ∀ w, (next trim r.spec s.lastStrongConfirmAt r.stage (eventOf w s.lastStrongConfirmAt r.stage)).isSome)) ∧
      calls r.log ≤ 1 + maxCodeAttempts + 1 ∧
      (∀ pre e post, r.log = pre ++ e :: post → Allowed trim r.spec pre e) ∧
      ∀ t now, .skipped t now ∈ r.log → Backed s.runs t := by
  have hinv := runnerInv_of_reach trim h
  have hrun := hinv.runs r hr
  refine ⟨⟨by have := hrun.short; omega, ?_⟩, hrun.place.calls_le, hrun.lawful, fun t now hskip => ?_⟩
  · by_cases hended : ∃ res, r.stage = .ended res
    · exact .inl hended
    · exact .inr fun w => next_isSome trim r.spec _ w fun res hres => hended ⟨res, hres⟩
  · obtain ⟨pre, post, hlog⟩ := List.append_of_mem hskip
    have hread := (hrun.lawful pre _ post hlog).2.2.2.2
    exact hinv.windows r hr t (hlog ▸ List.mem_append_left _ hread)

def reboot : ActionSpec := ⟨"reboot", .t2, 1⟩

/-- A confirmed reboot, and a second one half a minute later that skips the confirmation. -/
def confirmedRun : Run ℕ :=
  ⟨reboot, .ended (.done 1),
    [.preflight .ok, .window none, .confirmed true, .stamped 1000, .called [], .outcome (.ok 1)]⟩

def skippedRun : Run ℕ :=
  ⟨reboot, .ended (.done 2), [.preflight .ok, .window (some 1000), .skipped 1000 31000, .called [], .outcome (.ok 2)]⟩

theorem run_guarded_skipped :
    (skippedRun.log.length ≤ 22 ∧ ((∃ res, skippedRun.stage = .ended res) ∨
        ∀ w, (next id reboot (some 1000) skippedRun.stage (eventOf w (some 1000) skippedRun.stage)).isSome)) ∧
      calls skippedRun.log ≤ 1 + maxCodeAttempts + 1 ∧
      (∀ pre e post, skippedRun.log = pre ++ e :: post → Allowed id reboot pre e) ∧
      ∀ t now, .skipped t now ∈ skippedRun.log → Backed [confirmedRun, skippedRun] t :=
  run_guarded id (s := ⟨some 1000, [confirmedRun, skippedRun]⟩) (r := skippedRun)
    (reach_of_exec (M := runnerMachine id) (s := ⟨none, []⟩) rfl
      (.run reboot :: confirmedRun.log.map (.event 0) ++ .run reboot :: skippedRun.log.map (.event 1)) rfl)
    (by simp)

end Obliance.Phone.ActionRunner
