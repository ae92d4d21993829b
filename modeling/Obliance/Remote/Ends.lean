import Obliance.Remote.Session

/-!
# A remote session ends once

* `SessionRow.ending` : the status of a row, when it ended and why;
* `row_of_step` : on a row that has ended, the update of `endSession` is the only write that does anything;
* `session_ends_once` : what that says about every run that goes on from there.
-/

namespace Obliance.Remote
open GuardedRun

structure Ending where
  status : RemoteSessionStatus
  endedAt : Option ℤ
  endReason : Option String
  deriving DecidableEq, Repr

def SessionRow.ending (row : SessionRow) : Ending := ⟨row.status, row.endedAt, row.endReason⟩

/-- The ending that an `endSession` writes. -/
def EndPatch.ending (p : EndPatch) : Ending := ⟨p.status, some p.endedAt, some p.endReason⟩

/-- The row has a terminal status. -/
def SessionRow.Ended (row : SessionRow) : Prop := row.status.isOpen = false

instance (row : SessionRow) : Decidable row.Ended := inferInstanceAs (Decidable (_ = _))

/-- The update of an `endSession` that the call `k` is about to make. -/
def State.endWriteOf (s : State) (k : ℕ) : Option EndPatch :=
  match s.calls[k]? with
  | some (.endWrite p) => some p
  | _ => none

/-- The update of an `endSession` finds the row open, or repeats its ending. -/
def EndsOnce (s : State) : Action → Prop
  | .resume k => ∀ p ∈ s.endWriteOf k, ¬ s.row.Ended ∨ p.ending = s.row.ending
  | _ => True

instance (s : State) : ∀ a : Action, Decidable (EndsOnce s a)
  | .resume k => inferInstanceAs (Decidable (∀ p ∈ s.endWriteOf k, ¬ s.row.Ended ∨ p.ending = s.row.ending))
  | .registerBrowserTunnel | .registerAgentTunnel | .receive _ _ _ | .peerCloses _ | .socketClosed _
  | .endSession _ _ | .closeSessionsForUser _ _ | .cleanupStaleSessions _ | .tunnelCommandFailed
  | .dropTunnel | .tick _ | .throw _ => .isTrue trivial

/-! ## The writes -/

section Writes
variable {row : SessionRow} {now before connectedAt : ℤ} {p : EndPatch}

theorem SessionRow.Ended.not_attachable (h : row.Ended) : row.status.attachable = false := by
  unfold SessionRow.Ended at h
  cases hs : row.status with
  | waiting | connecting => rw [hs] at h; exact absurd h (by decide)
  | active | closed | expired | timeout | failed => rfl

theorem SessionRow.Ended.activate (h : row.Ended) : row.activate connectedAt = row := by
  unfold SessionRow.activate
  rw [h.not_attachable, if_neg Bool.false_ne_true]

theorem SessionRow.Ended.commandFailed (h : row.Ended) : row.commandFailed now = row := by
  unfold SessionRow.commandFailed
  rw [h.not_attachable, if_neg Bool.false_ne_true]

theorem SessionRow.Ended.timeOut (h : row.Ended) {status : RemoteSessionStatus}
    (hst : status.isOpen = true) : row.timeOut status now before = row := by
  unfold SessionRow.timeOut
  apply if_neg
  rintro ⟨rfl, -⟩
  rw [show row.status.isOpen = false from h] at hst
  exact Bool.false_ne_true hst

@[simp] theorem ending_endWith : (row.endWith p).ending = p.ending := rfl

theorem ended_endWith : (row.endWith p).Ended := p.terminal

theorem SessionRow.Ended.of_ending {row' : SessionRow} (h : row.Ended) (he : row'.ending = row.ending) :
    row'.Ended := by
  have hs : row'.status = row.status := congrArg Ending.status he
  unfold SessionRow.Ended
  rw [hs]
  exact h

end Writes

/-! ## Steps -/

section Steps
variable {s t : State} {a : Action}

theorem row_handleTunnelClose (s : State) (reason : String) : (handleTunnelClose s reason).row = s.row := by
  unfold handleTunnelClose
  split <;> rfl

theorem row_socketClosed (s : State) (ws : ℕ) (sock : Sock) : (socketClosed s ws sock).row = s.row := by
  unfold socketClosed
  refine List.foldlRecOn (motive := fun s' : State => s'.row = s.row) sock.handlers _ rfl ?_
  intro s' hs' h _
  rw [row_handleTunnelClose, hs']

/-- The next statement of a call, when the row has ended. -/
theorem row_stepCall (hs : s.row.Ended) (c : Call) :
    (stepCall s c).1.row = s.row ∨ ∃ p, c = .endWrite p ∧ (stepCall s c).1.row = s.row.endWith p := by
  cases c with
  | endWrite p => exact .inr ⟨p, rfl, rfl⟩
  | activate agentWs connectedAt => exact .inl hs.activate
  | cleanupWaiting now before minutes => exact .inl (hs.timeOut rfl)
  | cleanupConnecting now before => exact .inl (hs.timeOut rfl)
  | endSession | endDelete | hangUp | tunnelClosed | closeForUser | done => exact .inl rfl

/-- A step taken after the end leaves the row, or is the update of an `endSession`. -/
theorem row_of_step (hs : s.row.Ended) (h : step s a = some t) :
    t.row = s.row ∨ ∃ k p, a = .resume k ∧ p ∈ s.endWriteOf k ∧ t.row = s.row.endWith p := by
  cases a with
  | registerBrowserTunnel | endSession | cleanupStaleSessions | peerCloses | dropTunnel | tick | throw =>
      cases h
      exact .inl rfl
  | registerAgentTunnel =>
      simp only [step, Option.some.injEq] at h
      subst h
      left
      split <;> rfl
  | receive ws data isBinary =>
      simp only [step, Option.map_eq_some_iff] at h
      obtain ⟨sock, -, rfl⟩ := h
      exact .inl rfl
  | socketClosed ws =>
      simp only [step, Option.map_eq_some_iff] at h
      obtain ⟨sock, -, rfl⟩ := h
      exact .inl (row_socketClosed s ws sock)
  | closeSessionsForUser userId reason =>
      left
      simp only [step] at h
      split at h <;> cases h <;> rfl
  | tunnelCommandFailed =>
      cases h
      exact .inl hs.commandFailed
  | resume k =>
      simp only [step, Option.map_eq_some_iff] at h
      obtain ⟨c, hc, rfl⟩ := h
      obtain hkept | ⟨p, rfl, hp⟩ := row_stepCall hs c
      · exact .inl hkept
      · refine .inr ⟨k, p, rfl, ?_, hp⟩
        unfold State.endWriteOf
        rw [hc]
        rfl

/-- Ended is for good. -/
theorem ended_of_step (hs : s.row.Ended) (h : step s a = some t) : t.row.Ended := by
  obtain hrow | ⟨_, _, _, _, hrow⟩ := row_of_step hs h
  · rw [hrow]
    exact hs
  · rw [hrow]
    exact ended_endWith

/-- A step keeps the ending exactly when it meets the condition. -/
theorem ending_of_step_iff (hs : s.row.Ended) (h : step s a = some t) :
    t.row.ending = s.row.ending ↔ EndsOnce s a := by
  constructor
  · intro hkept
    cases a with
    | resume k =>
        intro p hp
        right
        unfold State.endWriteOf at hp
        simp only [step, Option.map_eq_some_iff] at h
        obtain ⟨c, hc, rfl⟩ := h
        rw [hc] at hp
        cases c with
        | endWrite q => cases hp; exact hkept
        | _ => cases hp
    | _ => trivial
  · intro ha
    obtain hrow | ⟨k, p, rfl, hp, hrow⟩ := row_of_step hs h
    · rw [hrow]
    · rw [hrow, ending_endWith]
      exact (ha p hp).resolve_left (not_not_intro hs)

end Steps

/-! ## Runs -/

/-- A row that has ended stays so, and keeps its ending while every update of an `endSession` finds the
row open or repeats it. -/
theorem session_ends_once (s : State) (hs : s.row.Ended) :
    (∀ t, Reach (remoteMachine.startingAt s) anyStep t → t.row.Ended) ∧
      ∀ t, Reach (remoteMachine.startingAt s) EndsOnce t → t.row.ending = s.row.ending := by
  constructor
  · intro t ht
    refine ht.invariant (I := fun t => t.row.Ended) ?_ fun t a u hend _ hstep => ended_of_step hend hstep
    rintro t rfl
    exact hs
  · intro t ht
    refine ht.invariant (I := fun t => t.row.ending = s.row.ending) ?_ fun t a u hkept ha hstep => ?_
    · rintro t rfl
      rfl
    · have hend : t.row.Ended := hs.of_ending hkept
      exact ((ending_of_step_iff hend hstep).mpr ha).trans hkept

/-- Session of tenant 4, started by user 7. -/
def createdSession : State := ⟨0, .created 4 7 0, .empty, []⟩

/-- The user loses access while connected: both ends are closed and the session is ended. -/
def accessRemoved : List Action :=
  [.registerBrowserTunnel, .registerAgentTunnel, .resume 0, .tick 5000, .closeSessionsForUser 7 "user_disabled",
    .resume 1, .resume 1, .resume 1, .resume 1]

/-- The session as that leaves it. -/
def accessRemovedState : State := (remoteMachine.exec createdSession accessRemoved).getD createdSession

theorem session_ends_once_accessRemoved :
    accessRemovedState.row.Ended ∧
      (∀ t, Reach (remoteMachine.startingAt accessRemovedState) anyStep t → t.row.Ended) ∧
      ∀ t, Reach (remoteMachine.startingAt accessRemovedState) EndsOnce t →
        t.row.ending = accessRemovedState.row.ending :=
  have h : accessRemovedState.row.Ended := by decide
  ⟨h, session_ends_once accessRemovedState h⟩

/-- An `endSession` called afterwards by an administrator writes its own end over it. -/
theorem ended_session_ended_again :
    ¬ ∀ s t : State, Reach remoteMachine anyStep s → s.row.Ended →
      Reach (remoteMachine.startingAt s) anyStep t → t.row.ending = s.row.ending := by
  intro h
  have hrun : Reach remoteMachine anyStep accessRemovedState :=
    reach_of_exec (s := createdSession) ⟨rfl, rfl, rfl⟩ accessRemoved (by decide)
  have hlate := h accessRemovedState _ hrun (by decide)
    (reach_of_exec (M := remoteMachine.startingAt accessRemovedState) rfl
      [.tick 1000, .endSession 4 "user_disconnect", .resume 2, .resume 2] rfl)
  exact absurd hlate (by decide)

end Obliance.Remote
