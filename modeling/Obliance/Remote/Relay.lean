import Obliance.Remote.Ends
import Obliance.Remote.Wiring

/-!
# An ended session relays nothing

* `rowAfter_of_step`, `relay_of_step` : what a step does to the row, and to the relay;
* `EndsCut` : the condition on the steps; `RelayInv` : what it keeps;
* `relays_nothing_after_end` : while every end finds the relay cut and nobody joins it afterwards, no
  frame that comes in after the end is handed over;
* `next_kept_back_iff` : a relay keeps the next frame back exactly when it is cut.
-/

namespace Obliance.Remote
open GuardedRun

/-! ## Steps -/

/-- The row as the next statement of a call leaves it. -/
def State.rowWritten (s : State) : Call → SessionRow
  | .endWrite patch => s.row.endWith patch
  | .activate _ connectedAt => s.row.activate connectedAt
  | .cleanupWaiting now startedBefore _ => s.row.timeOut .waiting now startedBefore
  | .cleanupConnecting now startedBefore => s.row.timeOut .connecting now startedBefore
  | _ => s.row

def State.rowAfter (s : State) : Action → SessionRow
  | .tunnelCommandFailed => s.row.commandFailed s.now
  | .resume k => (s.calls[k]?).elim s.row s.rowWritten
  | _ => s.row

/-- Nobody is left at the other end of the tunnel that a registration joins. -/
def JoinsNobody (s : State) : Action → Prop
  | .registerBrowserTunnel => ∀ t ∈ s.relay.entry, s.relay.AgentGone t
  | .registerAgentTunnel => s.relay.hasLiveAgent = false → ∀ t ∈ s.relay.entry, s.relay.BrowserGone t
  | _ => True

/-- A step that ends the row finds the relay cut, and one after the end wires nobody to anybody. -/
def EndsCut (s : State) (a : Action) : Prop :=
  (¬ s.row.Ended → (s.rowAfter a).Ended → s.relay.Cut) ∧ (s.row.Ended → JoinsNobody s a)

instance (s : State) : ∀ a : Action, Decidable (JoinsNobody s a)
  | .registerBrowserTunnel => inferInstanceAs (Decidable (∀ t ∈ s.relay.entry, s.relay.AgentGone t))
  | .registerAgentTunnel => inferInstanceAs
      (Decidable (s.relay.hasLiveAgent = false → ∀ t ∈ s.relay.entry, s.relay.BrowserGone t))
  | .receive _ _ _ | .peerCloses _ | .socketClosed _ | .endSession _ _ | .closeSessionsForUser _ _
  | .cleanupStaleSessions _ | .tunnelCommandFailed | .dropTunnel | .tick _ | .resume _
  | .throw _ => .isTrue trivial

instance (s : State) (a : Action) : Decidable (EndsCut s a) := inferInstanceAs (Decidable (_ ∧ _))

section Steps
variable {s t : State} {a : Action}

theorem readyState_of_get {r : Relay} {ws : ℕ} {sock : Sock} (h : r.sockets[ws]? = some sock) :
    r.readyState ws = sock.readyState := by
  unfold Relay.readyState
  rw [h]
  rfl

theorem handlersOf_of_get {r : Relay} {ws : ℕ} {sock : Sock} (h : r.sockets[ws]? = some sock) :
    r.handlersOf ws = sock.handlers := by
  unfold Relay.handlersOf
  rw [h]
  rfl

theorem rowWritten_eq (s : State) (c : Call) : (stepCall s c).1.row = s.rowWritten c := by
  cases c <;> rfl

theorem rowAfter_of_step (h : step s a = some t) : t.row = s.rowAfter a := by
  cases a with
  | registerBrowserTunnel | endSession | cleanupStaleSessions | peerCloses | dropTunnel | tick | throw
  | tunnelCommandFailed =>
      cases h
      rfl
  | registerAgentTunnel =>
      simp only [step, Option.some.injEq] at h
      subst h
      split <;> rfl
  | receive ws data isBinary =>
      simp only [step, Option.map_eq_some_iff] at h
      obtain ⟨sock, -, rfl⟩ := h
      rfl
  | socketClosed ws =>
      simp only [step, Option.map_eq_some_iff] at h
      obtain ⟨sock, -, rfl⟩ := h
      exact row_socketClosed s ws sock
  | closeSessionsForUser userId reason =>
      simp only [step] at h
      split at h <;> cases h <;> rfl
  | resume k =>
      simp only [step, Option.map_eq_some_iff] at h
      obtain ⟨c, hc, rfl⟩ := h
      show (stepCall s c).1.row = (s.calls[k]?).elim s.row s.rowWritten
      rw [hc]
      exact rowWritten_eq s c

theorem closes_stepCall (s : State) (c : Call) : Relay.Closes s.relay (stepCall s c).1.relay := by
  cases c with
  | endDelete => exact Relay.closes_dropTunnel s.relay
  | hangUp agentWs => exact Relay.closes_hangUp s.relay agentWs
  | closeForUser tenantId reason =>
      show Relay.Closes s.relay (s.relay.entry.elim s.relay s.relay.teardown)
      cases s.relay.entry with
      | none => exact .refl _
      | some t => exact Relay.closes_teardown s.relay t
  | endSession | endWrite | activate | tunnelClosed | cleanupWaiting | cleanupConnecting | done =>
      exact .refl s.relay

theorem closes_handleTunnelClose (s : State) (reason : String) :
    Relay.Closes s.relay (handleTunnelClose s reason).relay := by
  unfold handleTunnelClose
  split
  · exact .refl s.relay
  · exact Relay.closes_teardown s.relay _

theorem closes_socketClosed (s : State) (ws : ℕ) (sock : Sock) :
    Relay.Closes s.relay (socketClosed s ws sock).relay := by
  unfold socketClosed
  refine List.foldlRecOn (motive := fun s' : State => Relay.Closes s.relay s'.relay) sock.handlers _
    (Relay.closes_markClosed s.relay ws) ?_
  intro s' hs' h _
  exact hs'.trans (closes_handleTunnelClose s' h.closeReason)

/-- What a step does to the relay: it closes something at most, or it is a registration or a frame. -/
theorem relay_of_step (h : step s a = some t) :
    Relay.Closes s.relay t.relay ∨
      (a = .registerBrowserTunnel ∧ t.relay = s.relay.registerBrowserTunnel) ∨
      (a = .registerAgentTunnel ∧ t.relay = s.relay.accept.close s.relay.sockets.length) ∨
      (a = .registerAgentTunnel ∧ s.relay.hasLiveAgent = false ∧ t.relay = s.relay.registerAgentTunnel) ∨
      ∃ ws data isBinary, a = .receive ws data isBinary ∧ s.relay.readyState ws ≠ .closed ∧
        t.relay = (s.relay.handlersOf ws).foldl
          (fun r k => r.onMessage ⟨data, isBinary, s.row.status⟩ k) s.relay := by
  cases a with
  | registerBrowserTunnel =>
      cases h
      exact .inr (.inl ⟨rfl, rfl⟩)
  | registerAgentTunnel =>
      simp only [step, Option.some.injEq] at h
      subst h
      right; right
      split
      · exact .inl ⟨rfl, rfl⟩
      · exact .inr (.inl ⟨rfl, Bool.of_not_eq_true ‹_›, rfl⟩)
  | receive ws data isBinary =>
      simp only [step, Option.map_eq_some_iff, Option.filter_eq_some_iff, decide_eq_true_eq] at h
      obtain ⟨sock, ⟨hsock, hopen⟩, rfl⟩ := h
      right; right; right; right
      refine ⟨ws, data, isBinary, rfl, readyState_of_get hsock ▸ hopen, ?_⟩
      rw [handlersOf_of_get hsock]
      rfl
  | peerCloses ws =>
      cases h
      exact .inl (Relay.closes_close s.relay ws)
  | socketClosed ws =>
      simp only [step, Option.map_eq_some_iff] at h
      obtain ⟨sock, -, rfl⟩ := h
      exact .inl (closes_socketClosed s ws sock)
  | closeSessionsForUser userId reason =>
      left
      simp only [step] at h
      split at h <;> cases h <;> exact .refl s.relay
  | dropTunnel =>
      cases h
      exact .inl (Relay.closes_dropTunnel s.relay)
  | resume k =>
      simp only [step, Option.map_eq_some_iff] at h
      obtain ⟨c, hc, rfl⟩ := h
      exact .inl (closes_stepCall s c)
  | endSession | cleanupStaleSessions | tunnelCommandFailed | tick | throw =>
      cases h
      exact .inl (.refl s.relay)

end Steps

/-! ## Runs -/

structure RelayInv (s : State) : Prop where
  wired : s.relay.Wired
  cut : s.row.Ended → s.relay.Cut
  early : s.relay.EarlyOut
  buffered : ¬ s.row.Ended → s.relay.EarlyBuffers

section Invariant
variable {s t : State} {a : Action}

theorem SessionRow.isOpen_of_not_ended {row : SessionRow} (h : ¬ row.Ended) : row.status.isOpen :=
  Bool.of_not_eq_false h

theorem relayInv_created (h : Created s) : RelayInv s := by
  obtain ⟨hrow, hrelay, -⟩ := h
  have hopen : ¬ s.row.Ended := by
    rw [hrow]
    exact Bool.noConfusion
  refine ⟨?_, fun hend => absurd hend hopen, ?_, fun _ => ?_⟩
  · rw [hrelay]
    exact Relay.wired_empty
  · rw [hrelay]
    exact fun d hd => absurd hd List.not_mem_nil
  · rw [hrelay]
    exact fun t f hf => absurd hf List.not_mem_nil

theorem RelayInv.of_closes (hi : RelayInv s) (ha : EndsCut s a) (h : step s a = some t)
    (hc : Relay.Closes s.relay t.relay) : RelayInv t where
  wired := hi.wired.quiets hc.toQuiets
  cut hend := by
    refine Relay.Cut.quiets ?_ hc.toQuiets
    by_cases hs : s.row.Ended
    · exact hi.cut hs
    · rw [rowAfter_of_step h] at hend
      exact ha.1 hs hend
  early := hi.early.closes hc
  buffered hopen := (hi.buffered fun hs => hopen (ended_of_step hs h)).closes hc

theorem relayInv_step (hi : RelayInv s) (ha : EndsCut s a) (h : step s a = some t) : RelayInv t := by
  have hrow : t.row = s.rowAfter a := rowAfter_of_step h
  obtain hc | ⟨rfl, hr⟩ | ⟨rfl, hr⟩ | ⟨rfl, hlive, hr⟩ | ⟨ws, data, isBinary, rfl, hopen, hr⟩ := relay_of_step h
  · exact hi.of_closes ha h hc
  · -- a browser joins
    replace hrow : t.row = s.row := hrow
    constructor <;> rw [hr]
    · exact Relay.wired_registerBrowserTunnel hi.wired
    · intro hend
      rw [hrow] at hend
      exact Relay.cut_registerBrowserTunnel hi.wired (hi.cut hend) (ha.2 hend)
    · apply Relay.earlyOut_registerBrowserTunnel hi.early
      intro u hu
      by_cases hend : s.row.Ended
      · exact (ha.2 hend u hu).2
      · exact hi.buffered hend u
    · intro hopen
      rw [hrow] at hopen
      exact Relay.earlyBuffers_registerBrowserTunnel (hi.buffered hopen)
  · -- a second agent is refused
    replace hrow : t.row = s.row := hrow
    have hc := Relay.closes_close s.relay.accept s.relay.sockets.length
    constructor <;> rw [hr]
    · exact (Relay.wired_accept hi.wired).quiets hc.toQuiets
    · intro hend
      rw [hrow] at hend
      exact (Relay.cut_accept hi.wired (hi.cut hend)).quiets hc.toQuiets
    · exact Relay.EarlyOut.closes (r := s.relay.accept) hi.early hc
    · intro hopen
      rw [hrow] at hopen
      exact Relay.EarlyBuffers.closes (r := s.relay.accept) (hi.buffered hopen) hc
  · -- the agent joins
    replace hrow : t.row = s.row := hrow
    constructor <;> rw [hr]
    · exact Relay.wired_registerAgentTunnel hi.wired
    · intro hend
      rw [hrow] at hend
      exact Relay.cut_registerAgentTunnel hi.wired (hi.cut hend) (ha.2 hend hlive)
    · apply Relay.earlyOut_registerAgentTunnel hi.wired hi.early
      by_cases hend : s.row.Ended
      · exact .inl (ha.2 hend hlive)
      · exact .inr fun u _ => hi.buffered hend u
    · intro hopen
      rw [hrow] at hopen
      exact Relay.earlyBuffers_registerAgentTunnel (hi.buffered hopen)
  · -- a frame comes in
    replace hrow : t.row = s.row := hrow
    have hq := Relay.quiets_onMessages ⟨data, isBinary, s.row.status⟩ (s.relay.handlersOf ws) s.relay
    constructor <;> rw [hr]
    · exact hi.wired.quiets hq
    · intro hend
      rw [hrow] at hend
      exact (hi.cut hend).quiets hq
    · apply Relay.earlyOut_onMessages _ hi.early
      rintro ⟨k, hk, w, hw, hlive⟩
      apply SessionRow.isOpen_of_not_ended
      intro hend
      exact (hi.cut hend).apply hopen hk hw hlive
    · intro hend
      rw [hrow] at hend
      exact Relay.earlyBuffers_onMessages _ (hi.buffered hend) (SessionRow.isOpen_of_not_ended hend)

end Invariant

/-- No frame handed over came in when the row had ended. -/
theorem relays_nothing_after_end {s : State} (h : Reach remoteMachine EndsCut s) :
    ∀ d ∈ s.relay.delivered, d.frame.rowStatus.isOpen :=
  (h.invariant (fun _ => relayInv_created) fun _ _ _ hi ha hs => relayInv_step hi ha hs).early

/-- Both ends of a session connected, a frame each way, and the user loses access before the next. -/
def cutSession : List Action :=
  [.registerBrowserTunnel, .registerAgentTunnel, .resume 0, .receive 0 [108] true, .receive 1 [36] true,
    .closeSessionsForUser 7 "user_disabled", .resume 1, .resume 1, .resume 1, .receive 0 [119] true,
    .receive 1 [35] true]

def cutSessionState : State := (remoteMachine.exec createdSession cutSession).getD createdSession

theorem relays_nothing_after_end_cutSession :
    cutSessionState.row.Ended ∧ cutSessionState.relay.delivered.length = 2 ∧
      ∀ d ∈ cutSessionState.relay.delivered, d.frame.rowStatus.isOpen :=
  ⟨by decide, by decide, relays_nothing_after_end
    ((Reach.start (M := remoteMachine) (s := createdSession) ⟨rfl, rfl, rfl⟩).of_exec cutSession
      (by decide) (by decide))⟩

/-- The viewer's user ends the session: the row is closed and the entry deleted, but what he types next
still reaches the agent. -/
theorem ended_session_relays :
    ¬ ∀ s : State, Reach remoteMachine anyStep s → ∀ d ∈ s.relay.delivered, d.frame.rowStatus.isOpen := by
  intro h
  have hlate := h _ (reach_of_exec (M := remoteMachine) (s := createdSession) ⟨rfl, rfl, rfl⟩
    [.registerBrowserTunnel, .registerAgentTunnel, .resume 0, .endSession 4 "user_disconnect", .resume 1,
      .resume 1, .resume 1, .receive 0 [119] true] rfl)
  exact absurd hlate (by decide)

/-- A relay that is not cut when the row has ended hands over the next frame. -/
theorem leaks_of_not_cut {s : State} (hend : s.row.Ended) (hcut : ¬ s.relay.Cut) (data : List UInt8)
    (isBinary : Bool) :
    ∃ ws t, step s (.receive ws data isBinary) = some t ∧
      ∃ d ∈ t.relay.delivered, d.frame.data = data ∧ d.frame.rowStatus.isOpen = false := by
  unfold Relay.Cut at hcut
  push Not at hcut
  obtain ⟨ws, hws, hopen, k, hk, w, hw, hlive⟩ := hcut
  have hsock : s.relay.sockets[ws]? = some s.relay.sockets[ws] := List.getElem?_eq_getElem hws
  rw [readyState_of_get hsock] at hopen
  rw [handlersOf_of_get hsock] at hk
  refine ⟨ws, receive s s.relay.sockets[ws] data isBinary, ?_, ?_⟩
  · simp only [step, hsock]
    rw [Option.filter_some, if_pos (by simpa using hopen)]
    rfl
  · exact ⟨⟨w, ⟨data, isBinary, s.row.status⟩⟩, Relay.mem_delivered_onMessages _ hk hw hlive, rfl, hend⟩

end Obliance.Remote
