import Mathlib.Data.Int.Notation
import Mathlib.Data.List.Basic
import Mathlib.Tactic.Common
import Obliance.Commands.Tables
import Obliance.Lib.GuardedRun

/-!
# The push channel of the agent (`agent/push.go`, `agent/command_handler.go`)

A push drains the acks of finished commands, the watchdog's restarts and the events, one buffer after the
other, and sends them. Commands finish and events are recorded at any time.

* `AgentState` : the buffers, the push in progress and the bodies that were accepted; what was ever
  produced is kept for the statements;
* `pushMachine` : acks, events and the stages of a push, in any order;
* `Conserved` : nothing terminal is lost; `FailsEmpty` : a push that fails carries nothing terminal;
* `outcomes_conserved`, `conserved_step_iff` : the second is what the first needs.
-/

namespace Obliance.Agent
open GuardedRun Obliance.Commands

/-- The result is its JSON text. -/
structure CommandAck where
  commandId : String
  commandType : String
  status : AckStatus
  result : Option String
  deriving DecidableEq, Repr

structure AgentEvent where
  type : String
  timestamp : String
  data : Option String
  deriving DecidableEq, Repr

/-- The buffered fields of a `pushBody`. -/
structure PushBody where
  acks : List CommandAck
  events : List AgentEvent
  watchdogRestartCount : ℕ
  watchdogLastRestartAt : String
  deriving DecidableEq, Repr

/-- A push in progress, by what it has drained. -/
inductive Push where
  | acksDrained (acks : List CommandAck)
  | watchdogDrained (acks : List CommandAck) (wdCount : ℕ) (wdLast : String)
  | inFlight (body : PushBody)
  deriving DecidableEq, Repr

structure AgentState where
  pendingAcks : List CommandAck
  pendingEvents : List AgentEvent
  watchdogRestarts : List String
  push : Option Push
  accepted : List PushBody
  /-- every ack that was ever added, and every event -/
  ackLog : List CommandAck
  eventLog : List AgentEvent
  deriving DecidableEq, Repr

def AgentState.started : AgentState := ⟨[], [], [], none, [], [], []⟩

/-- How the request of a push ends. -/
inductive PushResult where
  | marshalError
  | requestError
  | networkError
  | status (code : ℕ)
  deriving DecidableEq, Repr

def PushResult.isAccepted : PushResult → Bool
  | .status code => code = 200 ∨ code = 202
  | .marshalError | .requestError | .networkError => false

inductive AgentAction where
  | addAck (ack : CommandAck)
  | addEvent (event : AgentEvent)
  | watchdogRestart (timestamp : String)
  /-- `push` begins: `GetAndClearAcks` -/
  | startPush
  | drainWatchdogRestarts
  /-- `drainEvents`: the body is complete -/
  | drainEvents
  /-- `timestamp` is the time of a restore -/
  | finish (result : PushResult) (timestamp : String)
  /-- a panic, recovered by the loop that pushes -/
  | panicked
  deriving DecidableEq, Repr

/-- `restoreWatchdogRestarts` -/
def restoreWatchdogRestarts (s : AgentState) (count : ℕ) (last timestamp : String) : AgentState :=
  { s with watchdogRestarts :=
      s.watchdogRestarts ++ List.replicate count (if last = "" then timestamp else last) }

/-- What `push` does when its request has ended. -/
def finishPush (s : AgentState) (body : PushBody) (timestamp : String) : PushResult → AgentState
  | .status code =>
      -- 401 backs off, any other status is logged
      if code = 200 ∨ code = 202 then { s with push := none, accepted := s.accepted ++ [body] }
      else { s with push := none }
  | .marshalError | .requestError | .networkError =>
      { restoreWatchdogRestarts s body.watchdogRestartCount body.watchdogLastRestartAt timestamp with
        push := none }

def stepAgent (s : AgentState) : AgentAction → Option AgentState
  | .addAck ack => some { s with pendingAcks := s.pendingAcks ++ [ack], ackLog := s.ackLog ++ [ack] }
  | .addEvent event =>
      some { s with pendingEvents := s.pendingEvents ++ [event], eventLog := s.eventLog ++ [event] }
  | .watchdogRestart timestamp => some { s with watchdogRestarts := s.watchdogRestarts ++ [timestamp] }
  | .startPush =>
      match s.push with
      | none => some { s with pendingAcks := [], push := some (.acksDrained s.pendingAcks) }
      | some _ => none
  | .drainWatchdogRestarts =>
      match s.push with
      | some (.acksDrained acks) => some { s with
          watchdogRestarts := []
          push := some (.watchdogDrained acks s.watchdogRestarts.length (s.watchdogRestarts.getLast?.getD "")) }
      | _ => none
  | .drainEvents =>
      match s.push with
      | some (.watchdogDrained acks wdCount wdLast) =>
          some { s with pendingEvents := [], push := some (.inFlight ⟨acks, s.pendingEvents, wdCount, wdLast⟩) }
      | _ => none
  | .finish result timestamp =>
      match s.push with
      | some (.inFlight body) => some (finishPush s body timestamp result)
      | _ => none
  | .panicked => some { s with push := none }

def pushMachine : Machine AgentState AgentAction := ⟨(· = .started), stepAgent⟩

/-! ## What is where -/

def Push.acks : Push → List CommandAck
  | .acksDrained acks | .watchdogDrained acks _ _ => acks
  | .inFlight body => body.acks

def Push.events : Push → List AgentEvent
  | .acksDrained _ | .watchdogDrained _ _ _ => []
  | .inFlight body => body.events

/-- The acks that are pending, with a push in progress, or were accepted. -/
def AgentState.acks (s : AgentState) : List CommandAck :=
  s.pendingAcks ++ s.push.elim [] Push.acks ++ s.accepted.flatMap PushBody.acks

def AgentState.events (s : AgentState) : List AgentEvent :=
  s.pendingEvents ++ s.push.elim [] Push.events ++ s.accepted.flatMap PushBody.events

/-- No terminal ack and no event is lost, or counted twice. -/
def Conserved (s : AgentState) : Prop :=
  (∀ ack, ack.status.isTerminal → s.acks.count ack = s.ackLog.count ack) ∧
    ∀ event, s.events.count event = s.eventLog.count event

/-- It has drained no terminal ack and no event. -/
def Push.isHarmless (p : Push) : Bool :=
  (p.acks.all fun ack => !ack.status.isTerminal) && p.events.isEmpty

/-- The push that the step gives up: it failed, or panicked. -/
def dropped (s : AgentState) : AgentAction → Option Push
  | .finish result _ => if result.isAccepted then none else s.push
  | .panicked => s.push
  | _ => none

/-- A push that fails, or panics, has drained nothing that matters. -/
def FailsEmpty (s : AgentState) (a : AgentAction) : Prop := (dropped s a).all Push.isHarmless

instance (s : AgentState) (a : AgentAction) : Decidable (FailsEmpty s a) := inferInstanceAs (Decidable (_ = _))

theorem isHarmless_iff (p : Push) : p.isHarmless ↔
    (∀ ack ∈ p.acks, ack.status.isTerminal = false) ∧ p.events = [] := by
  unfold Push.isHarmless
  rw [Bool.and_eq_true, List.all_eq_true, List.isEmpty_iff]
  simp

/-! ## Steps -/

section Steps
variable {s t : AgentState} {a : AgentAction}

/-- `finishPush` accepts the body, or gives it up. -/
theorem finishPush_cases (s : AgentState) (body : PushBody) (timestamp : String) (result : PushResult) :
    (result.isAccepted = true ∧ finishPush s body timestamp result =
        { s with push := none, accepted := s.accepted ++ [body] }) ∨
      (result.isAccepted = false ∧ ∃ restarts, finishPush s body timestamp result =
        { s with push := none, watchdogRestarts := restarts }) := by
  cases result with
  | marshalError | requestError | networkError => exact .inr ⟨rfl, _, rfl⟩
  | status code =>
      unfold finishPush
      by_cases hcode : code = 200 ∨ code = 202
      · exact .inl ⟨decide_eq_true hcode, if_pos hcode⟩
      · exact .inr ⟨decide_eq_false hcode, s.watchdogRestarts, if_neg hcode⟩

/-- Every ack stays, unless the step gives up the push that has it. -/
theorem ack_balance (h : stepAgent s a = some t) (x : CommandAck) :
    t.acks.count x + ((dropped s a).elim [] Push.acks).count x + s.ackLog.count x =
      s.acks.count x + t.ackLog.count x := by
  unfold AgentState.acks
  cases a with
  | addAck ack | addEvent event | watchdogRestart timestamp | panicked =>
      cases h
      simp only [dropped, Option.elim_none, List.count_append, List.count_nil]
      omega
  | startPush =>
      simp only [stepAgent] at h
      split at h <;> cases h
      rename_i hpush
      rw [hpush]
      simp only [dropped, Option.elim_none, Option.elim_some, Push.acks, List.count_append, List.count_nil]
      omega
  | drainWatchdogRestarts | drainEvents =>
      simp only [stepAgent] at h
      split at h <;> cases h
      rename_i hpush
      rw [hpush]
      simp only [dropped, Option.elim_none, Option.elim_some, Push.acks, List.count_append, List.count_nil]
      omega
  | finish result timestamp =>
      simp only [stepAgent] at h
      split at h <;> cases h
      rename_i body hpush
      obtain ⟨hacc, heq⟩ | ⟨hacc, restarts, heq⟩ := finishPush_cases s body timestamp result
      · rw [heq]
        simp only [dropped, hacc, hpush, if_true, Option.elim_none, Option.elim_some, Push.acks,
          List.count_append, List.count_nil, List.flatMap_append, List.flatMap_singleton]
        omega
      · rw [heq]
        simp only [dropped, hacc, hpush, Bool.false_eq_true, if_false, Option.elim_none, Option.elim_some,
          Push.acks, List.count_append, List.count_nil]
        omega

theorem event_balance (h : stepAgent s a = some t) (x : AgentEvent) :
    t.events.count x + ((dropped s a).elim [] Push.events).count x + s.eventLog.count x =
      s.events.count x + t.eventLog.count x := by
  unfold AgentState.events
  cases a with
  | addAck ack | addEvent event | watchdogRestart timestamp | panicked =>
      cases h
      simp only [dropped, Option.elim_none, List.count_append, List.count_nil]
      omega
  | startPush =>
      simp only [stepAgent] at h
      split at h <;> cases h
      rename_i hpush
      rw [hpush]
      simp only [dropped, Option.elim_none, Option.elim_some, Push.events, List.count_append, List.count_nil]
      omega
  | drainWatchdogRestarts | drainEvents =>
      simp only [stepAgent] at h
      split at h <;> cases h
      rename_i hpush
      rw [hpush]
      simp only [dropped, Option.elim_none, Option.elim_some, Push.events, List.count_append, List.count_nil]
      omega
  | finish result timestamp =>
      simp only [stepAgent] at h
      split at h <;> cases h
      rename_i body hpush
      obtain ⟨hacc, heq⟩ | ⟨hacc, restarts, heq⟩ := finishPush_cases s body timestamp result
      · rw [heq]
        simp only [dropped, hacc, hpush, if_true, Option.elim_none, Option.elim_some, Push.events,
          List.count_append, List.count_nil, List.flatMap_append, List.flatMap_singleton]
        omega
      · rw [heq]
        simp only [dropped, hacc, hpush, Bool.false_eq_true, if_false, Option.elim_none, Option.elim_some,
          Push.events, List.count_append, List.count_nil]
        omega

/-- A step conserves the outcomes exactly when it gives up no push that has drained one. -/
theorem conserved_step_iff (hs : Conserved s) (h : stepAgent s a = some t) : Conserved t ↔ FailsEmpty s a := by
  have hack := ack_balance h
  have hevent := event_balance h
  unfold FailsEmpty
  cases hd : dropped s a with
  | none =>
      rw [hd] at hack hevent
      simp only [Option.elim_none, List.count_nil] at hack hevent
      refine iff_of_true ⟨fun ack hterm => ?_, fun event => ?_⟩ rfl
      · have := hs.1 ack hterm
        have := hack ack
        omega
      · have := hs.2 event
        have := hevent event
        omega
  | some p =>
      rw [hd] at hack hevent
      simp only [Option.elim_some] at hack hevent
      rw [Option.all_some, isHarmless_iff]
      constructor
      · rintro ⟨hacks, hevents⟩
        constructor
        · intro ack hmem
          by_contra hterm
          have hterm : ack.status.isTerminal = true := Bool.of_not_eq_false hterm
          have := hs.1 ack hterm
          have := hacks ack hterm
          have := hack ack
          have := List.count_pos_iff.mpr hmem
          omega
        · rw [List.eq_nil_iff_forall_not_mem]
          intro event hmem
          have := hs.2 event
          have := hevents event
          have := hevent event
          have := List.count_pos_iff.mpr hmem
          omega
      · rintro ⟨hacks, hevents⟩
        refine ⟨fun ack hterm => ?_, fun event => ?_⟩
        · have hzero : p.acks.count ack = 0 := List.count_eq_zero.mpr fun hmem => by
            rw [hacks ack hmem] at hterm
            cases hterm
          have := hs.1 ack hterm
          have := hack ack
          omega
        · have := hs.2 event
          have := hevent event
          rw [hevents, List.count_nil] at this
          omega

end Steps

/-! ## Runs -/

/-- **No outcome is lost** while every push that fails has drained none. -/
theorem outcomes_conserved {s : AgentState} (h : Reach pushMachine FailsEmpty s) : Conserved s := by
  refine h.invariant ?_ fun _ _ _ hi ha hs => (conserved_step_iff hi hs).mpr ha
  rintro _ rfl
  exact ⟨fun _ _ => rfl, fun _ => rfl⟩

/-- A command starts and finishes, between two pushes; the first fails with an `ack_running` only. -/
def acksDelivered : List AgentAction :=
  [.addAck ⟨"c1", "reboot", .ackRunning, none⟩, .startPush, .drainWatchdogRestarts, .drainEvents,
    .finish .networkError "t0", .addAck ⟨"c1", "reboot", .success, none⟩, .addEvent ⟨"machine_boot", "t1", none⟩,
    .startPush, .drainWatchdogRestarts, .drainEvents, .finish (.status 200) "t2"]

def acksDeliveredState : AgentState := (pushMachine.exec .started acksDelivered).getD .started

theorem outcomes_conserved_acksDelivered :
    acksDeliveredState.accepted.length = 1 ∧ Conserved acksDeliveredState :=
  ⟨by decide, outcomes_conserved
    ((Reach.start (M := pushMachine) (s := .started) rfl).of_exec acksDelivered (by decide) (by decide))⟩

/-- The push that carries the result of a command gets no answer. -/
theorem outcome_lost : ¬ ∀ s : AgentState, Reach pushMachine anyStep s → Conserved s := by
  intro h
  have hlost := h _ (reach_of_exec (M := pushMachine) (s := .started) rfl
    [.addAck ⟨"c1", "reboot", .success, none⟩, .startPush, .drainWatchdogRestarts, .drainEvents,
      .finish .networkError "t0"] rfl)
  exact absurd (hlost.1 ⟨"c1", "reboot", .success, none⟩ rfl) (by decide)

end Obliance.Agent
