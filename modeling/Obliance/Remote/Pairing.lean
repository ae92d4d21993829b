import Obliance.Remote.Relay

/-!
# No end of a session is left alone

A browser is paired with the agent of its tunnel: its `close` listener is registered then, and finds the tunnel
by the token. So an agent that joins a browser that is gone waits for nobody, and a browser that was replaced after
it was paired closes the tunnel of the later one.

* `Orphaned` : an agent is open in an open session, and the browser of a tunnel is closed;
* `Attended` : the condition on the steps;
* `joined_registerBrowser`, `joined_registerAgent` : what a registration leaves;
* `PairInv` : an open agent is that of the entry, paired with its browser, or is about to be hung up on;
* `no_orphan` : what that says about every run.
-/

namespace Obliance.Remote
open GuardedRun

/-! ## Orphans -/

/-- No call is in progress and no socket is closing. -/
def State.Quiescent (s : State) : Prop :=
  (∀ c ∈ s.calls, c = .done) ∧ ∀ ws < s.relay.sockets.length, s.relay.readyState ws ≠ .closing

/-- The session is open and so is the agent of a tunnel, but the browser of a tunnel is closed. -/
def State.Orphaned (s : State) : Prop :=
  ¬ s.row.Ended ∧ (∃ t, ∃ a ∈ s.relay.agentOf t, s.relay.readyState a = .live) ∧
    ∃ t, ∃ b ∈ s.relay.browserOf t, s.relay.readyState b = .closed

/-- The listener is registered on a browser's socket. -/
def Handler.ofBrowser : Handler → Bool
  | .toBrowser _ => false
  | .toAgent _ => true

/-- No agent's socket, when the tunnel of the entry has another browser. -/
def State.Replaced (s : State) (ws : ℕ) : Prop :=
  (∀ k ∈ s.relay.handlersOf ws, k.ofBrowser = true) ∧ ∃ t ∈ s.relay.entry, ∃ b ∈ s.relay.browserOf t, b ≠ ws

/-- An agent joins no browser that is gone, as long as its session waits for one; a paired browser that closes has not
been replaced. The in-process browser does not give up, no statement throws, and the session has a tenant. -/
def Attended (s : State) (a : Action) : Prop :=
  s.row.tenantId ≠ 0 ∧
    match a with
    | .registerAgentTunnel => s.relay.hasLiveAgent = false → s.row.status.attachable = true →
        ∀ t ∈ s.relay.entry, ∀ b ∈ s.relay.browserOf t, s.relay.readyState b ≠ .closed
    | .socketClosed ws => (∃ k ∈ s.relay.handlersOf ws, k.ofBrowser = true) →
        ∀ t ∈ s.relay.entry, ∀ b ∈ s.relay.browserOf t, b = ws
    | .dropTunnel | .throw _ => False
    | _ => True

instance (s : State) : ∀ a : Action, Decidable (Attended s a)
  | .registerAgentTunnel => inferInstanceAs (Decidable (s.row.tenantId ≠ 0 ∧
      (s.relay.hasLiveAgent = false → s.row.status.attachable = true →
        ∀ t ∈ s.relay.entry, ∀ b ∈ s.relay.browserOf t, s.relay.readyState b ≠ .closed)))
  | .socketClosed ws => inferInstanceAs (Decidable (s.row.tenantId ≠ 0 ∧
      ((∃ k ∈ s.relay.handlersOf ws, k.ofBrowser = true) →
        ∀ t ∈ s.relay.entry, ∀ b ∈ s.relay.browserOf t, b = ws)))
  | .dropTunnel | .throw _ => inferInstanceAs (Decidable (s.row.tenantId ≠ 0 ∧ False))
  | .registerBrowserTunnel | .receive _ _ _ | .peerCloses _ | .endSession _ _ | .closeSessionsForUser _ _
  | .cleanupStaleSessions _ | .tunnelCommandFailed | .tick _ | .resume _ =>
      inferInstanceAs (Decidable (s.row.tenantId ≠ 0 ∧ True))

namespace Relay
variable {r r' : Relay} {t u w b a : ℕ}

/-! ## What a registration leaves -/

theorem browserOf_setBrowser :
    (r.setBrowser t b).browserOf u = if u = t ∧ t < r.objects.length then some b else r.browserOf u := by
  unfold browserOf setBrowser
  grind

theorem agentOf_setAgent :
    (r.setAgent t a).agentOf u = if u = t ∧ t < r.objects.length then some a else r.agentOf u := by
  unfold agentOf setAgent
  grind

theorem entry_sends (fs : List Frame) : (fs.foldl (fun r f => r.send b f) r).entry = r.entry := by
  induction fs generalizing r with
  | nil => rfl
  | cons f fs ih =>
      rw [List.foldl_cons, ih]
      unfold send
      split_ifs <;> rfl

theorem readyState_sends (fs : List Frame) : (fs.foldl (fun r f => r.send b f) r).readyState = r.readyState := by
  induction fs generalizing r with
  | nil => rfl
  | cons f fs ih =>
      rw [List.foldl_cons, ih]
      exact readyState_send

theorem entry_onMessages (f : Frame) (ks : List Handler) (r : Relay) :
    (ks.foldl (fun r k => r.onMessage f k) r).entry = r.entry := by
  induction ks generalizing r with
  | nil => rfl
  | cons k ks ih =>
      rw [List.foldl_cons, ih]
      cases k with
      | toAgent a => exact entry_sends [f]
      | toBrowser t =>
          show entry ((r.browserOf t).elim _ _) = r.entry
          cases r.browserOf t with
          | none => rfl
          | some b => exact entry_sends [f]

theorem readyState_onMessages (f : Frame) (ks : List Handler) (r : Relay) :
    (ks.foldl (fun r k => r.onMessage f k) r).readyState = r.readyState := by
  induction ks generalizing r with
  | nil => rfl
  | cons k ks ih => rw [List.foldl_cons, ih, readyState_onMessage]

/-- What stays when a listener is added. -/
structure Listens (r r' : Relay) : Prop where
  entry : r'.entry = r.entry
  agentOf : ∀ t, r'.agentOf t = r.agentOf t
  browserOf : ∀ t, r'.browserOf t = r.browserOf t
  readyState : ∀ ws, r'.readyState ws = r.readyState ws
  handlersOf : ∀ ws, ∀ k ∈ r.handlersOf ws, k ∈ r'.handlersOf ws

theorem Listens.refl (r : Relay) : Listens r r := ⟨rfl, fun _ => rfl, fun _ => rfl, fun _ => rfl, fun _ _ h => h⟩

/-- The browser's listener is registered on the tunnel of the entry. -/
theorem listens_flush (ht : r.entry = some t) (hb : b < r.sockets.length) :
    Listens r (r.flushAndBridgeBrowser b a) ∧ .toAgent a ∈ (r.flushAndBridgeBrowser b a).handlersOf b := by
  unfold flushAndBridgeBrowser
  rw [ht]
  dsimp only
  have hq := (quiets_sends b (r.bufferOf t) r).trans (quiets_clearBuffer _ t)
  refine ⟨⟨?_, hq.agentOf, hq.browserOf, fun ws => ?_, fun ws k hk => ?_⟩, ?_⟩
  · exact entry_sends _
  · rw [readyState_listen]
    exact congrFun (readyState_sends _) ws
  · rw [mem_handlersOf_listen, hq.handlersOf]
    exact .inl hk
  · rw [mem_handlersOf_listen, hq.sockets]
    exact .inr ⟨rfl, hb, rfl⟩

/-- The tunnel `t` has a new end, the socket `ws`. -/
structure Joined (r r' : Relay) (t ws : ℕ) : Prop where
  entry : r'.entry = some t
  before : r.entry = some t ∨ r.entry = none ∧ t = r.objects.length
  live : r'.readyState ws = .live
  readyState : ∀ w, w ≠ ws → r'.readyState w = r.readyState w

theorem ensureTunnel_spec (hr : r.Wired) : ∃ t, r.ensureTunnel.entry = some t ∧ t < r.ensureTunnel.objects.length ∧
    (r.entry = some t ∨ r.entry = none ∧ t = r.objects.length) := by
  obtain ⟨t, ht⟩ := entry_ensureTunnel_isSome r
  refine ⟨t, ht, (wired_ensureTunnel hr).entry t ht, ?_⟩
  cases he : r.entry with
  | some u =>
      rw [ensureTunnel_of_some he, he] at ht
      exact .inl ht
  | none =>
      rw [ensureTunnel_of_none he] at ht
      exact .inr ⟨rfl, (Option.some.inj ht).symm⟩

/-- Once its end is attached, the listeners change nothing of it. -/
theorem Joined.of_listens {r₀ r' : Relay} (hl : Listens r₀ r') (ht : r₀.entry = some t)
    (hbefore : r.entry = some t ∨ r.entry = none ∧ t = r.objects.length)
    (hready : ∀ w, r₀.readyState w = r.ensureTunnel.accept.readyState w) :
    Joined r r' t r.sockets.length := by
  have hold : ∀ w, r'.readyState w = if w = r.sockets.length then .live else r.readyState w := by
    intro w
    rw [hl.readyState, hready, ← sockets_ensureTunnel (r := r), ← readyState_ensureTunnel (r := r)]
    exact readyState_accept
  refine ⟨hl.entry.trans ht, hbefore, ?_, fun w hw => ?_⟩
  · rw [hold, if_pos rfl]
  · rw [hold, if_neg hw]

/-- A browser that joins a tunnel is paired with its agent, if there is one. -/
theorem listens_joinBrowser (ht : r.entry = some t) (hws : ws < r.sockets.length) :
    Listens (r.setBrowser t ws) (r.joinBrowser t ws) ∧
      ∀ a ∈ r.agentOf t, .toAgent a ∈ (r.joinBrowser t ws).handlersOf ws := by
  have hdef : r.joinBrowser t ws =
      ((r.setBrowser t ws).agentOf t).elim (r.setBrowser t ws) ((r.setBrowser t ws).flushAndBridgeBrowser ws) := rfl
  rw [hdef, agentOf_setBrowser]
  cases r.agentOf t with
  | none => exact ⟨.refl _, fun a ha => nomatch ha⟩
  | some a =>
      obtain ⟨hl, hmem⟩ := listens_flush (r := r.setBrowser t ws) (a := a) ht hws
      exact ⟨hl, fun a' ha' => Option.some.inj ha' ▸ hmem⟩

/-- An agent that joins a tunnel is paired with its browser, if there is one. -/
theorem listens_joinAgent (ws : ℕ) (ht : r.entry = some t) (hr : r.Wired) :
    Listens (r.attachAgent t ws) (r.joinAgent t ws) ∧
      ∀ b ∈ r.browserOf t, ∃ k, k ∈ (r.joinAgent t ws).handlersOf b := by
  have hdef : r.joinAgent t ws = ((r.attachAgent t ws).browserOf t).elim (r.attachAgent t ws) fun b =>
      (r.attachAgent t ws).flushAndBridgeBrowser b ws := rfl
  rw [hdef, browserOf_attachAgent]
  cases hb : r.browserOf t with
  | none => exact ⟨.refl _, fun b hb => nomatch hb⟩
  | some b =>
      have hlength : b < (r.attachAgent t ws).sockets.length := by
        rw [attachAgent, listen, List.length_modify]
        exact hr.browser t b hb
      obtain ⟨hl, hmem⟩ := listens_flush (r := r.attachAgent t ws) (a := ws) ht hlength
      refine ⟨hl, fun b' hb' => ?_⟩
      obtain rfl := Option.some.inj hb'
      exact ⟨_, hmem⟩

/-- A browser joins the tunnel of the entry, and is paired with its agent if there is one. -/
theorem joined_registerBrowser (hr : r.Wired) : ∃ t, Joined r r.registerBrowserTunnel t r.sockets.length ∧
    (∀ u, r.registerBrowserTunnel.agentOf u = r.agentOf u) ∧
    (∀ u, r.registerBrowserTunnel.browserOf u = if u = t then some r.sockets.length else r.browserOf u) ∧
    ∀ a ∈ r.agentOf t, .toAgent a ∈ r.registerBrowserTunnel.handlersOf r.sockets.length := by
  obtain ⟨t, ht, hlt, hbefore⟩ := ensureTunnel_spec hr
  have hagent : ∀ u, r.ensureTunnel.accept.agentOf u = r.agentOf u := fun u => agentOf_ensureTunnel
  have hws : r.sockets.length < r.ensureTunnel.accept.sockets.length := by
    rw [← sockets_ensureTunnel (r := r)]
    exact lt_accept _
  rw [registerBrowserTunnel_eq ht, sockets_ensureTunnel]
  obtain ⟨hl, hpaired⟩ := listens_joinBrowser (r := r.ensureTunnel.accept) ht hws
  refine ⟨t, .of_listens hl ht hbefore fun _ => rfl, fun u => ?_, fun u => ?_, fun a ha => ?_⟩
  · rw [hl.agentOf, agentOf_setBrowser, hagent]
  · rw [hl.browserOf, browserOf_setBrowser, ← browserOf_ensureTunnel (r := r)]
    exact if_congr (and_iff_left hlt) rfl rfl
  · rw [← hagent] at ha
    exact hpaired a ha

/-- An agent joins the tunnel of the entry, and its browser is paired with it if there is one. -/
theorem joined_registerAgent (hr : r.Wired) : ∃ t, Joined r r.registerAgentTunnel t r.sockets.length ∧
    (∀ u, r.registerAgentTunnel.browserOf u = r.browserOf u) ∧
    (∀ u, r.registerAgentTunnel.agentOf u = if u = t then some r.sockets.length else r.agentOf u) ∧
    ∀ b ∈ r.browserOf t, ∃ k, k ∈ r.registerAgentTunnel.handlersOf b := by
  obtain ⟨t, ht, hlt, hbefore⟩ := ensureTunnel_spec hr
  have hbrowser : ∀ u, r.ensureTunnel.accept.browserOf u = r.browserOf u := fun u => browserOf_ensureTunnel
  rw [registerAgentTunnel_eq ht, sockets_ensureTunnel]
  obtain ⟨hl, hpaired⟩ := listens_joinAgent (r := r.ensureTunnel.accept) r.sockets.length ht
    (wired_accept (wired_ensureTunnel hr))
  refine ⟨t, .of_listens hl ht hbefore (congrFun readyState_attachAgent), fun u => ?_, fun u => ?_, fun b hb => ?_⟩
  · rw [hl.browserOf, browserOf_attachAgent, hbrowser]
  · have hset : (r.ensureTunnel.accept.attachAgent t r.sockets.length).agentOf u =
        (r.ensureTunnel.accept.setAgent t r.sockets.length).agentOf u := rfl
    rw [hl.agentOf, hset, agentOf_setAgent, ← agentOf_ensureTunnel (r := r)]
    exact if_congr (and_iff_left hlt) rfl rfl
  · rw [← hbrowser] at hb
    exact hpaired b hb

/-! ## What a close leaves -/

theorem entry_teardown (r : Relay) (t : ℕ) : (r.teardown t).entry = none := by
  unfold teardown closeOpt
  cases r.browserOf t <;> cases r.agentOf t <;> rfl

theorem not_live_close (r : Relay) (a : ℕ) : (r.close a).readyState a ≠ .live := by
  rw [readyState_close]
  split_ifs with h
  · exact ReadyState.noConfusion
  · exact fun hlive => h ⟨rfl, hlive⟩

theorem not_live_teardown (ha : a ∈ r.agentOf t) : (r.teardown t).readyState a ≠ .live := by
  rw [Option.mem_def] at ha
  rw [teardown, ha]
  exact not_live_close _ a

theorem hangUp_cases (r : Relay) (a : ℕ) : (r.hangUp a).readyState a ≠ .live ∧
    ((r.hangUp a).entry = r.entry ∧ r.hangUp a = r.close a ∨
      (r.hangUp a).entry = none ∧ r.entry.bind r.agentOf = some a) := by
  unfold hangUp
  refine ⟨not_live_close _ a, ?_⟩
  split_ifs with h
  · refine .inr ⟨?_, h⟩
    cases r.entry.bind r.browserOf <;> rfl
  · exact .inl ⟨rfl, rfl⟩

end Relay

/-! ## Calls in progress -/

/-- The call ends the row of a session of the tenant. -/
def Call.endsRow (tenantId : ℕ) : Call → Bool
  | .tunnelClosed _ | .endWrite _ => true
  | .endSession t _ => decide (isMasterTenant t = true ∨ tenantId = t)
  | .closeForUser t _ => decide (t = tenantId)
  | .endDelete | .activate _ _ | .hangUp _ | .cleanupWaiting _ _ _ | .cleanupConnecting _ _ | .done => false

def State.EndPending (s : State) : Prop := ∃ c ∈ s.calls, c.endsRow s.row.tenantId = true

/-- The agent's registration will find that the session does not wait for it, or has found that. -/
def State.Doomed (s : State) (a : ℕ) : Prop :=
  s.row.status.attachable = false ∧ (.hangUp a ∈ s.calls ∨ ∃ connectedAt, .activate a connectedAt ∈ s.calls)

structure CallsOk (s : State) : Prop where
  tenant : ∀ t reason, .closeForUser t reason ∈ s.calls → t = s.row.tenantId
  deleted : .endDelete ∈ s.calls → s.row.Ended
  hung : ∀ a, .hangUp a ∈ s.calls → s.row.status.attachable = false

/-- What `CallsOk` asks of one call. -/
def Call.Fits (row : SessionRow) : Call → Prop
  | .closeForUser t _ => t = row.tenantId
  | .endDelete => row.Ended
  | .hangUp _ => row.status.attachable = false
  | .endSession _ _ | .endWrite _ | .activate _ _ | .tunnelClosed _ | .cleanupWaiting _ _ _ | .cleanupConnecting _ _
  | .done => True

theorem callsOk_iff {s : State} : CallsOk s ↔ ∀ c ∈ s.calls, c.Fits s.row := by
  refine ⟨fun h c hc => ?_, fun h => ⟨fun _ _ hc => h _ hc, fun hc => h _ hc, fun _ hc => h _ hc⟩⟩
  cases c with
  | closeForUser t reason => exact h.tenant t reason hc
  | endDelete => exact h.deleted hc
  | hangUp a => exact h.hung a hc
  | endSession | endWrite | activate | tunnelClosed | cleanupWaiting | cleanupConnecting | done => trivial

section Calls
variable {s t : State} {a : Action}

theorem mem_set_of_ne {calls : List Call} {k : ℕ} {c c' x : Call} (hx : x ∈ calls) (hc : calls[k]? = some c)
    (hne : x ≠ c) : x ∈ calls.set k c' := by
  obtain ⟨i, hi⟩ := List.mem_iff_getElem?.1 hx
  refine List.mem_iff_getElem?.2 ⟨i, ?_⟩
  rw [List.getElem?_set_ne, hi]
  rintro rfl
  exact hne (Option.some.inj (hi.symm.trans hc))

theorem mem_set_self {calls : List Call} {k : ℕ} {c c' : Call} (hc : calls[k]? = some c) : c' ∈ calls.set k c' := by
  obtain ⟨hk, -⟩ := List.getElem?_eq_some_iff.1 hc
  exact List.mem_set hk c'

/-- The `close` event of a socket without listeners, or without a tunnel, and of one that tears it down. -/
theorem socketClosed_cases (s : State) (ws : ℕ) (sock : Sock) :
    (sock.handlers = [] ∨ s.relay.entry = none) ∧
        socketClosed s ws sock = { s with relay := s.relay.markClosed ws } ∨
      ∃ t, s.relay.entry = some t ∧ ∃ h ∈ sock.handlers, socketClosed s ws sock =
        { s with relay := (s.relay.markClosed ws).teardown t, calls := s.calls ++ [.tunnelClosed h.closeReason] } := by
  have hrest : ∀ (hs : List Handler) (s' : State), s'.relay.entry = none →
      hs.foldl (fun s h => handleTunnelClose s h.closeReason) s' = s' := by
    intro hs s' hnone
    induction hs with
    | nil => rfl
    | cons h hs ih =>
        have hstep : handleTunnelClose s' h.closeReason = s' := by
          unfold handleTunnelClose
          rw [hnone]
        rw [List.foldl_cons, hstep, ih]
  unfold socketClosed
  cases he : s.relay.entry with
  | none => exact .inl ⟨.inr rfl, hrest _ _ he⟩
  | some t =>
      cases hh : sock.handlers with
      | nil => exact .inl ⟨.inl rfl, rfl⟩
      | cons h hs =>
          have hfirst : handleTunnelClose { s with relay := s.relay.markClosed ws } h.closeReason =
              { s with
                relay := (s.relay.markClosed ws).teardown t
                calls := s.calls ++ [.tunnelClosed h.closeReason] } := by
            unfold handleTunnelClose
            dsimp only
            rw [show (s.relay.markClosed ws).entry = some t from he]
          refine .inr ⟨t, rfl, h, .head _, ?_⟩
          rw [List.foldl_cons, hfirst, hrest]
          exact Relay.entry_teardown _ t

/-- What a step does to the calls: some are added, or one makes its next statement, or is given up. -/
theorem calls_of_step (h : step s a = some t) :
    (∃ new, t.calls = s.calls ++ new ∧ ∀ c ∈ new, c.Fits t.row) ∨
      (∃ k c, a = .resume k ∧ s.calls[k]? = some c ∧
        t = { (stepCall s c).1 with calls := s.calls.set k (stepCall s c).2 }) ∨
      ∃ k, a = .throw k ∧ t = { s with calls := s.calls.set k .done } := by
  have hnone : ∀ {u : State}, u.calls = s.calls →
      ∃ new, u.calls = s.calls ++ new ∧ ∀ c ∈ new, c.Fits u.row :=
    fun h => ⟨[], h.trans (List.append_nil _).symm, fun _ hc => nomatch hc⟩
  have hone : ∀ {u : State} {c : Call}, u.calls = s.calls ++ [c] → c.Fits u.row →
      ∃ new, u.calls = s.calls ++ new ∧ ∀ c ∈ new, c.Fits u.row :=
    fun h hc => ⟨_, h, fun _ hmem => List.mem_singleton.1 hmem ▸ hc⟩
  cases a with
  | registerBrowserTunnel | tunnelCommandFailed | dropTunnel | tick | peerCloses =>
      cases h
      exact .inl (hnone rfl)
  | endSession | cleanupStaleSessions =>
      cases h
      exact .inl (hone rfl trivial)
  | registerAgentTunnel =>
      simp only [step, Option.some.injEq] at h
      subst h
      split
      · exact .inl (hnone rfl)
      · exact .inl (hone rfl trivial)
  | receive ws data isBinary =>
      simp only [step, Option.map_eq_some_iff] at h
      obtain ⟨sock, -, rfl⟩ := h
      exact .inl (hnone rfl)
  | socketClosed ws =>
      simp only [step, Option.map_eq_some_iff] at h
      obtain ⟨sock, -, rfl⟩ := h
      obtain ⟨-, he⟩ | ⟨u, -, k, -, he⟩ := socketClosed_cases s ws sock <;> rw [he]
      · exact .inl (hnone rfl)
      · exact .inl (hone rfl trivial)
  | closeSessionsForUser userId reason =>
      simp only [step] at h
      split at h <;> cases h
      · exact .inl (hone rfl rfl)
      · exact .inl (hnone rfl)
  | resume k =>
      simp only [step, Option.map_eq_some_iff] at h
      obtain ⟨c, hc, rfl⟩ := h
      exact .inr (.inl ⟨k, c, rfl, hc, rfl⟩)
  | throw k =>
      cases h
      exact .inr (.inr ⟨k, rfl, rfl⟩)

/-! ## The row -/

theorem tenantId_timeOut (row : SessionRow) (status : RemoteSessionStatus) (now before : ℤ) :
    (row.timeOut status now before).tenantId = row.tenantId := by
  unfold SessionRow.timeOut
  split_ifs <;> rfl

theorem attachable_timeOut {row : SessionRow} {status : RemoteSessionStatus} {now before : ℤ}
    (h : (row.timeOut status now before).status.attachable = true) : row.status.attachable = true := by
  unfold SessionRow.timeOut at h
  split_ifs at h
  · cases h
  · exact h

theorem tenantId_rowWritten (s : State) (c : Call) : (s.rowWritten c).tenantId = s.row.tenantId := by
  cases c with
  | activate agentWs connectedAt =>
      unfold State.rowWritten SessionRow.activate
      split_ifs <;> rfl
  | cleanupWaiting => exact tenantId_timeOut ..
  | cleanupConnecting => exact tenantId_timeOut ..
  | endSession | endWrite | endDelete | hangUp | tunnelClosed | closeForUser | done => rfl

theorem tenantId_of_step (h : step s a = some t) : t.row.tenantId = s.row.tenantId := by
  rw [rowAfter_of_step h]
  cases a with
  | tunnelCommandFailed =>
      unfold State.rowAfter SessionRow.commandFailed
      split_ifs <;> rfl
  | resume k =>
      show ((s.calls[k]?).elim s.row s.rowWritten).tenantId = _
      cases s.calls[k]? with
      | none => rfl
      | some c => exact tenantId_rowWritten s c
  | registerBrowserTunnel | registerAgentTunnel | receive | peerCloses | socketClosed | endSession
  | closeSessionsForUser | cleanupStaleSessions | dropTunnel | tick | throw => rfl

theorem attachable_rowWritten {c : Call} (h : (s.rowWritten c).status.attachable = true) :
    s.row.status.attachable = true := by
  cases c with
  | endWrite patch =>
      have hended : (s.row.endWith patch).Ended := ended_endWith
      exact absurd h (Bool.eq_false_iff.1 hended.not_attachable)
  | activate agentWs connectedAt =>
      unfold State.rowWritten SessionRow.activate at h
      split_ifs at h with hs
      · exact hs
      · exact h
  | cleanupWaiting => exact attachable_timeOut h
  | cleanupConnecting => exact attachable_timeOut h
  | endSession | endDelete | hangUp | tunnelClosed | closeForUser | done => exact h

/-- A session that waits for its agent waited before. -/
theorem attachable_of_step (h : step s a = some t) (ht : t.row.status.attachable = true) :
    s.row.status.attachable = true := by
  rw [rowAfter_of_step h] at ht
  cases a with
  | tunnelCommandFailed =>
      unfold State.rowAfter SessionRow.commandFailed at ht
      split_ifs at ht with hs
      · exact hs
      · exact ht
  | resume k =>
      change ((s.calls[k]?).elim s.row s.rowWritten).status.attachable = true at ht
      cases hc : s.calls[k]? with
      | none =>
          rw [hc] at ht
          exact ht
      | some c =>
          rw [hc] at ht
          exact attachable_rowWritten ht
  | registerBrowserTunnel | registerAgentTunnel | receive | peerCloses | socketClosed | endSession
  | closeSessionsForUser | cleanupStaleSessions | dropTunnel | tick | throw => exact ht

theorem not_attachable_of_step (h : step s a = some t) (hs : s.row.status.attachable = false) :
    t.row.status.attachable = false :=
  Bool.eq_false_iff.2 fun ht => Bool.eq_false_iff.1 hs (attachable_of_step h ht)

theorem not_ended_of_attachable {row : SessionRow} (h : row.status.attachable = true) : ¬ row.Ended :=
  fun hended => Bool.eq_false_iff.1 hended.not_attachable h

/-! ## What a step does to the calls -/

theorem Call.Fits.step {c : Call} (hc : c.Fits s.row) (h : step s a = some t) : c.Fits t.row := by
  cases c with
  | closeForUser u reason => exact Eq.trans hc (tenantId_of_step h).symm
  | endDelete => exact ended_of_step hc h
  | hangUp b => exact not_attachable_of_step h hc
  | endSession | endWrite | activate | tunnelClosed | cleanupWaiting | cleanupConnecting | done => trivial

/-- The statement a call makes next is one the row allows. -/
theorem fits_stepCall (s : State) (c : Call) : (stepCall s c).2.Fits (stepCall s c).1.row := by
  cases c with
  | endSession tenantId reason =>
      simp only [stepCall]
      split <;> trivial
  | endWrite patch => exact ended_endWith
  | activate agentWs connectedAt =>
      simp only [stepCall]
      split
      · trivial
      · rename_i hnot
        rw [SessionRow.activate, if_neg hnot]
        exact Bool.eq_false_iff.2 hnot
  | tunnelClosed reason =>
      simp only [stepCall]
      split <;> trivial
  | cleanupWaiting now before minutes => cases minutes <;> trivial
  | endDelete | hangUp | closeForUser | cleanupConnecting | done => trivial

theorem CallsOk.step (hi : CallsOk s) (h : step s a = some t) : CallsOk t := by
  rw [callsOk_iff] at hi ⊢
  intro c hc
  rcases calls_of_step h with ⟨new, hnew, hfits⟩ | ⟨k, c₀, rfl, hc₀, rfl⟩ | ⟨k, rfl, rfl⟩
  · rw [hnew] at hc
    rcases List.mem_append.1 hc with hc | hc
    · exact (hi c hc).step h
    · exact hfits c hc
  · rcases List.mem_or_eq_of_mem_set hc with hc | rfl
    · exact (hi c hc).step h
    · exact fits_stepCall s c₀
  · rcases List.mem_or_eq_of_mem_set hc with hc | rfl
    · exact (hi c hc).step h
    · trivial

/-- A call that ends the row goes on to do so. -/
theorem endPending_of_step (htenant : s.row.tenantId ≠ 0) (hthrow : ∀ k, a ≠ .throw k) (h : step s a = some t)
    (hs : s.EndPending) : t.EndPending ∨ t.row.Ended := by
  obtain ⟨c, hc, hends⟩ := hs
  have hsame := tenantId_of_step h
  rcases calls_of_step h with ⟨new, hnew, -⟩ | ⟨k, c₀, rfl, hc₀, rfl⟩ | ⟨k, rfl, -⟩
  · refine .inl ⟨c, ?_, hsame ▸ hends⟩
    rw [hnew]
    exact List.mem_append_left _ hc
  · by_cases hne : c = c₀
    · subst hne
      cases c with
      | endSession tenantId reason =>
          left
          refine ⟨_, mem_set_self hc₀, ?_⟩
          have hallowed : isMasterTenant tenantId = true ∨ s.row.tenantId = tenantId := of_decide_eq_true hends
          simp only [stepCall, if_pos hallowed]
          rfl
      | endWrite patch => exact .inr ended_endWith
      | tunnelClosed reason =>
          left
          refine ⟨_, mem_set_self hc₀, ?_⟩
          simp only [stepCall, if_pos htenant]
          exact decide_eq_true (.inr rfl)
      | closeForUser tenantId reason =>
          left
          exact ⟨_, mem_set_self hc₀, decide_eq_true (.inr (of_decide_eq_true hends).symm)⟩
      | endDelete | activate | hangUp | cleanupWaiting | cleanupConnecting | done => cases hends
    · exact .inl ⟨c, mem_set_of_ne hc hc₀ hne, hsame ▸ hends⟩
  · exact absurd rfl (hthrow k)

/-- A session that does not wait hangs up on an agent that registers. -/
theorem doomed_of_step {agentWs : ℕ} (hthrow : ∀ k, a ≠ .throw k) (h : step s a = some t) (hs : s.Doomed agentWs) :
    t.Doomed agentWs ∨ t.relay.readyState agentWs ≠ .live := by
  obtain ⟨hattach, hcalls⟩ := hs
  have hattach' := not_attachable_of_step h hattach
  rcases calls_of_step h with ⟨new, hnew, -⟩ | ⟨k, c₀, rfl, hc₀, rfl⟩ | ⟨k, rfl, -⟩
  · refine .inl ⟨hattach', ?_⟩
    rw [hnew]
    exact hcalls.imp (List.mem_append_left _) fun ⟨at', hat⟩ => ⟨at', List.mem_append_left _ hat⟩
  · rcases hcalls with hcall | ⟨connectedAt, hcall⟩
    · by_cases hne : Call.hangUp agentWs = c₀
      · subst hne
        exact .inr (Relay.hangUp_cases _ _).1
      · exact .inl ⟨hattach', .inl (mem_set_of_ne hcall hc₀ hne)⟩
    · by_cases hne : Call.activate agentWs connectedAt = c₀
      · subst hne
        refine .inl ⟨hattach', .inl ?_⟩
        have hstep : (stepCall s (.activate agentWs connectedAt)).2 = .hangUp agentWs := by
          simp only [stepCall]
          exact if_neg (Bool.eq_false_iff.1 hattach)
        rw [← hstep]
        exact mem_set_self hc₀
      · exact .inl ⟨hattach', .inr ⟨connectedAt, mem_set_of_ne hcall hc₀ hne⟩⟩
  · exact absurd rfl (hthrow k)

end Calls

/-! ## Runs -/

/-- In an open session, a browser that is paired with an agent and still closes with it. -/
def State.Paired (s : State) (b : ℕ) : Prop := (∃ k, k ∈ s.relay.handlersOf b) ∧ s.relay.readyState b ≠ .closed

structure PairInv (s : State) : Prop where
  wired : s.relay.Wired
  calls : CallsOk s
  /-- An open agent is that of the entry, paired with its browser, and no other browser is waited for. -/
  held : ¬ s.row.Ended → ∀ t, ∀ a ∈ s.relay.agentOf t, s.relay.readyState a = .live →
    s.Doomed a ∨ s.relay.entry = some t ∧ (∀ b ∈ s.relay.browserOf t, s.Paired b) ∧
      ∀ u, u ≠ t → ∀ b ∈ s.relay.browserOf u, s.EndPending
  /-- A tunnel with a browser is only given up when the session ends. -/
  dropped : s.row.status.attachable = true → ∀ t, s.relay.entry ≠ some t → ∀ b ∈ s.relay.browserOf t, s.EndPending

section Pairing
variable {s t : State} {a : Action}

theorem wired_of_step (hr : s.relay.Wired) (h : step s a = some t) : t.relay.Wired := by
  obtain hc | ⟨rfl, hr'⟩ | ⟨rfl, hr'⟩ | ⟨rfl, -, hr'⟩ | ⟨ws, data, isBinary, rfl, -, hr'⟩ := relay_of_step h
  · exact hr.quiets hc.toQuiets
  · rw [hr']
    exact Relay.wired_registerBrowserTunnel hr
  · rw [hr']
    exact (Relay.wired_accept hr).quiets (Relay.closes_close _ _).toQuiets
  · rw [hr']
    exact Relay.wired_registerAgentTunnel hr
  · rw [hr']
    exact hr.quiets (Relay.quiets_onMessages _ _ _)

/-- A step that leaves the tunnels as they are, and closes no paired browser of the entry alone. -/
theorem PairInv.of_same (hi : PairInv s) (htenant : s.row.tenantId ≠ 0) (hthrow : ∀ k, a ≠ .throw k)
    (h : step s a = some t) (hentry : t.relay.entry = s.relay.entry)
    (hagent : ∀ u, t.relay.agentOf u = s.relay.agentOf u) (hbrowser : ∀ u, t.relay.browserOf u = s.relay.browserOf u)
    (hlive : ∀ u, ∀ a ∈ s.relay.agentOf u, t.relay.readyState a = .live → s.relay.readyState a = .live)
    (hpaired : ∀ u, s.relay.entry = some u → ∀ b ∈ s.relay.browserOf u, s.Paired b → t.Paired b) : PairInv t where
  wired := wired_of_step hi.wired h
  calls := hi.calls.step h
  held hopen u a' ha' hlive' := by
    rw [hagent] at ha'
    have hopen' : ¬ s.row.Ended := fun hs => hopen (ended_of_step hs h)
    rcases hi.held hopen' u a' ha' (hlive u a' ha' hlive') with hdoomed | ⟨hu, hall, hothers⟩
    · exact .inl ((doomed_of_step hthrow h hdoomed).resolve_right (not_not.2 hlive'))
    · refine .inr ⟨hentry.trans hu, fun b hb => ?_, fun v hv b hb => ?_⟩
      · rw [hbrowser] at hb
        exact hpaired u hu b hb (hall b hb)
      · rw [hbrowser] at hb
        exact (endPending_of_step htenant hthrow h (hothers v hv b hb)).resolve_right hopen
  dropped hattach u hu b hb := by
    rw [hentry] at hu
    rw [hbrowser] at hb
    have hpending := hi.dropped (attachable_of_step h hattach) u hu b hb
    exact (endPending_of_step htenant hthrow h hpending).resolve_right (not_ended_of_attachable hattach)

/-- A step that gives the tunnel up closes its agent, and ends a session that waits. -/
theorem PairInv.of_torn (hi : PairInv s) (hthrow : ∀ k, a ≠ .throw k) (h : step s a = some t)
    (hc : Relay.Closes s.relay t.relay)
    (hclosed : ¬ t.row.Ended → ∀ u, s.relay.entry = some u → ∀ a ∈ s.relay.agentOf u, t.relay.readyState a ≠ .live)
    (hending : t.row.status.attachable = true → t.EndPending) : PairInv t where
  wired := wired_of_step hi.wired h
  calls := hi.calls.step h
  held hopen u a' ha' hlive' := by
    rw [hc.agentOf] at ha'
    have hopen' : ¬ s.row.Ended := fun hs => hopen (ended_of_step hs h)
    rcases hi.held hopen' u a' ha' (hc.live a' hlive') with hdoomed | ⟨hu, -⟩
    · exact .inl ((doomed_of_step hthrow h hdoomed).resolve_right (not_not.2 hlive'))
    · exact absurd hlive' (hclosed hopen u hu a' ha')
  dropped hattach _ _ _ _ := hending hattach

/-- A browser registers: it is paired at once, or waits for the agent of its tunnel. -/
theorem PairInv.registerBrowser (hi : PairInv s)
    (h : step s .registerBrowserTunnel = some t) : PairInv t := by
  have hwired := wired_of_step hi.wired h
  have hcalls := hi.calls.step h
  cases h
  obtain ⟨u, hjoined, hagent, hbrowser, hpaired⟩ := Relay.joined_registerBrowser hi.wired
  refine ⟨hwired, hcalls, fun hopen v a' ha' hlive => ?_, fun hattach v hv b hb => ?_⟩
  · rw [hagent] at ha'
    have hold : a' ≠ s.relay.sockets.length := (hi.wired.agent_lt ha').ne
    rw [hjoined.readyState a' hold] at hlive
    rcases hi.held hopen v a' ha' hlive with hdoomed | ⟨hv, -, hothers⟩
    · exact .inl hdoomed
    · obtain rfl : u = v := by
        rcases hjoined.before with hu | ⟨hnone, -⟩
        · exact Option.some.inj (hu.symm.trans hv)
        · exact absurd (hnone.symm.trans hv) (Option.some_ne_none _).symm
      refine .inr ⟨hjoined.entry, fun b hb => ?_, fun w hw b hb => ?_⟩
      · rw [hbrowser, if_pos rfl] at hb
        obtain rfl := Option.some.inj hb
        refine ⟨⟨_, hpaired a' ha'⟩, ?_⟩
        rw [hjoined.live]
        exact ReadyState.noConfusion
      · rw [hbrowser, if_neg hw] at hb
        exact hothers w hw b hb
  · have hvu : v ≠ u := fun heq => hv (heq ▸ hjoined.entry)
    rw [hbrowser, if_neg hvu] at hb
    refine hi.dropped hattach v ?_ b hb
    rcases hjoined.before with hu | ⟨hnone, -⟩
    · rw [hu]
      exact fun heq => hvu (Option.some.inj heq).symm
    · rw [hnone]
      exact (Option.some_ne_none v).symm

/-- An agent registers: it is paired with the browser of its tunnel, if that is not gone. -/
theorem PairInv.registerAgent (hi : PairInv s) (hlive : s.relay.hasLiveAgent = false)
    (hguard : s.row.status.attachable = true →
      ∀ u ∈ s.relay.entry, ∀ b ∈ s.relay.browserOf u, s.relay.readyState b ≠ .closed)
    (h : step s .registerAgentTunnel = some t) : PairInv t := by
  have hwired := wired_of_step hi.wired h
  have hcalls := hi.calls.step h
  simp only [step, hlive, Bool.false_eq_true, if_false, Option.some.injEq] at h
  subst h
  obtain ⟨u, hjoined, hbrowser, hagent, hpaired⟩ := Relay.joined_registerAgent hi.wired
  have hcall : Call.activate s.relay.sockets.length s.now ∈ (agentAccepted s).calls :=
    List.mem_append_right _ (.head _)
  have hpending : s.EndPending → (agentAccepted s).EndPending := by
    rintro ⟨c, hc, hends⟩
    exact ⟨c, List.mem_append_left _ hc, hends⟩
  -- another tunnel than that of the entry
  have hother : ∀ v, v ≠ u → s.relay.entry ≠ some v := by
    intro v hv heq
    rcases hjoined.before with hu | ⟨hnone, -⟩
    · exact hv (Option.some.inj (heq.symm.trans hu))
    · exact absurd (hnone.symm.trans heq) (Option.some_ne_none v).symm
  refine ⟨hwired, hcalls, fun hopen v a' ha' hlive' => ?_, fun hattach v hv b hb => ?_⟩
  · change a' ∈ s.relay.registerAgentTunnel.agentOf v at ha'
    rw [hagent] at ha'
    by_cases hv : v = u
    · subst hv
      rw [if_pos rfl] at ha'
      obtain rfl := Option.some.inj ha'
      cases hattach : s.row.status.attachable with
      | false => exact .inl ⟨hattach, .inr ⟨_, hcall⟩⟩
      | true =>
          refine .inr ⟨hjoined.entry, fun b hb => ?_, fun w hw b hb => ?_⟩
          · change b ∈ s.relay.registerAgentTunnel.browserOf v at hb
            rw [hbrowser] at hb
            have hold : b ≠ s.relay.sockets.length := (hi.wired.browser v b hb).ne
            refine ⟨hpaired b hb, ?_⟩
            change s.relay.registerAgentTunnel.readyState b ≠ .closed
            rw [hjoined.readyState b hold]
            rcases hjoined.before with hu | ⟨-, rfl⟩
            · exact hguard hattach v hu b hb
            · simp [Relay.browserOf] at hb
          · change b ∈ s.relay.registerAgentTunnel.browserOf w at hb
            rw [hbrowser] at hb
            exact hpending (hi.dropped hattach w (hother w hw) b hb)
    · rw [if_neg hv] at ha'
      have hold : a' ≠ s.relay.sockets.length := (hi.wired.agent_lt ha').ne
      change s.relay.registerAgentTunnel.readyState a' = .live at hlive'
      rw [hjoined.readyState a' hold] at hlive'
      rcases hi.held hopen v a' ha' hlive' with ⟨hattach, hdoomed⟩ | ⟨hv', -⟩
      · exact .inl ⟨hattach, hdoomed.imp (List.mem_append_left _) fun h => h.imp fun _ => List.mem_append_left _⟩
      · exact absurd hv' (hother v hv)
  · change b ∈ s.relay.registerAgentTunnel.browserOf v at hb
    rw [hbrowser] at hb
    have hvu : v ≠ u := fun heq => hv (heq ▸ hjoined.entry)
    exact hpending (hi.dropped hattach v (hother v hvu) b hb)

/-- A socket that starts to close is not closed yet. -/
theorem paired_close {ws b : ℕ} (hb : s.Paired b) (ht : t.relay = s.relay.close ws) : t.Paired b := by
  obtain ⟨⟨k, hk⟩, hopen⟩ := hb
  unfold State.Paired
  rw [ht, Relay.handlersOf_close, Relay.readyState_close]
  refine ⟨⟨k, hk⟩, ?_⟩
  split_ifs
  · exact ReadyState.noConfusion
  · exact hopen

/-- An agent that finds another one open is closed at once. -/
theorem PairInv.refuseAgent (hi : PairInv s) (htenant : s.row.tenantId ≠ 0) (hlive : s.relay.hasLiveAgent = true)
    (h : step s .registerAgentTunnel = some t) : PairInv t := by
  have hstep := h
  simp only [step, hlive, if_true, Option.some.injEq] at h
  have hrelay : t.relay = s.relay.accept.close s.relay.sockets.length := h ▸ rfl
  have hcloses := Relay.closes_close s.relay.accept s.relay.sockets.length
  rw [← hrelay] at hcloses
  have haccept : ∀ {w}, w < s.relay.sockets.length → s.relay.accept.readyState w = s.relay.readyState w :=
    fun hw => by rw [Relay.readyState_accept, if_neg hw.ne]
  refine hi.of_same htenant (fun j => Action.noConfusion) hstep (by rw [hrelay]; rfl) hcloses.agentOf
    hcloses.browserOf (fun u a' ha' hlive' => ?_) fun u _ b hb hpaired => ?_
  · rw [← haccept (hi.wired.agent_lt ha')]
    exact hcloses.live a' hlive'
  · obtain ⟨⟨k, hk⟩, hopen⟩ := hpaired
    refine paired_close (s := { s with relay := s.relay.accept }) ⟨⟨k, ?_⟩, ?_⟩ hrelay
    · exact Relay.handlersOf_accept.symm ▸ hk
    · show s.relay.accept.readyState b ≠ .closed
      rwa [haccept (hi.wired.browser u b hb)]

/-- The next statement of a call. -/
theorem PairInv.resume (hi : PairInv s) (htenant : s.row.tenantId ≠ 0) {k : ℕ}
    (h : step s (.resume k) = some t) : PairInv t := by
  have hthrow : ∀ j, Action.resume k ≠ .throw j := fun j => Action.noConfusion
  have hstep := h
  simp only [step, Option.map_eq_some_iff] at h
  obtain ⟨c, hc, rfl⟩ := h
  have hmem : c ∈ s.calls := List.mem_of_getElem? hc
  cases c with
  | endDelete =>
      refine hi.of_torn hthrow hstep (closes_stepCall s _) (fun hopen => absurd (hi.calls.deleted hmem) hopen) ?_
      exact fun hattach => absurd (hi.calls.deleted hmem) (not_ended_of_attachable hattach)
  | hangUp agentWs =>
      have hnot : s.row.status.attachable = false := hi.calls.hung agentWs hmem
      obtain ⟨hdead, ⟨hentry, heq⟩ | ⟨-, hown⟩⟩ := Relay.hangUp_cases s.relay agentWs
      · have hcloses := Relay.closes_close s.relay agentWs
        rw [← heq] at hcloses
        exact hi.of_same htenant hthrow hstep hentry hcloses.agentOf hcloses.browserOf
          (fun _ a' _ => hcloses.live a') fun _ _ _ _ hb => paired_close hb heq
      · refine hi.of_torn hthrow hstep (closes_stepCall s _) (fun _ u hu a' ha' => ?_) fun hattach => ?_
        · rw [hu, Option.bind_some] at hown
          obtain rfl : a' = agentWs := Option.some.inj (ha'.symm.trans hown)
          exact hdead
        · exact absurd hattach (Bool.eq_false_iff.1 hnot)
  | closeForUser tenantId reason =>
      obtain rfl := hi.calls.tenant tenantId reason hmem
      refine hi.of_torn hthrow hstep (closes_stepCall s _) (fun _ u hu a' ha' => ?_) fun _ => ?_
      · show (s.relay.entry.elim s.relay s.relay.teardown).readyState a' ≠ .live
        rw [hu]
        exact Relay.not_live_teardown ha'
      · exact ⟨_, mem_set_self hc, decide_eq_true (.inr rfl)⟩
  | endSession | endWrite | activate | tunnelClosed | cleanupWaiting | cleanupConnecting | done =>
      exact hi.of_same htenant hthrow hstep rfl (fun _ => rfl) (fun _ => rfl) (fun _ _ _ h => h) fun _ _ _ _ h => h

/-- The `close` event of a socket: one with a listener tears the tunnel of the entry down. -/
theorem PairInv.socketClosed (hi : PairInv s) (htenant : s.row.tenantId ≠ 0) {ws : ℕ}
    (h : step s (.socketClosed ws) = some t) : PairInv t := by
  have hthrow : ∀ j, Action.socketClosed ws ≠ .throw j := fun j => Action.noConfusion
  have hstep := h
  simp only [step, Option.map_eq_some_iff, Option.filter_eq_some_iff] at h
  obtain ⟨sock, ⟨hsock, -⟩, rfl⟩ := h
  have hcloses := closes_socketClosed s ws sock
  have hhandlers := handlersOf_of_get hsock
  obtain ⟨hnone, he⟩ | ⟨u, hu, k, hk, he⟩ := socketClosed_cases s ws sock
  · refine hi.of_same htenant hthrow hstep (by rw [he]; rfl) hcloses.agentOf hcloses.browserOf
      (fun _ a' _ => hcloses.live a') fun u hu b _ hpaired => ?_
    obtain ⟨⟨k, hk⟩, hopen⟩ := hpaired
    -- a paired browser has a listener, so it is another socket
    have hne : b ≠ ws := by
      rintro rfl
      rcases hnone with hnil | hentry
      · rw [hhandlers, hnil] at hk
        cases hk
      · exact absurd (hentry.symm.trans hu) (Option.some_ne_none u).symm
    refine ⟨⟨k, (hcloses.handlersOf b).symm ▸ hk⟩, ?_⟩
    rw [he]
    show (s.relay.markClosed ws).readyState b ≠ .closed
    rwa [Relay.readyState_markClosed, if_neg hne]
  · refine hi.of_torn hthrow hstep hcloses (fun _ v hv a' ha' => ?_) fun _ => ?_
    · obtain rfl := Option.some.inj (hu.symm.trans hv)
      rw [he]
      exact Relay.not_live_teardown (r := s.relay.markClosed ws) ha'
    · refine ⟨.tunnelClosed k.closeReason, ?_, rfl⟩
      rw [he]
      exact List.mem_append_right _ (.head _)

theorem PairInv.step (hi : PairInv s) (ha : Attended s a) (h : step s a = some t) : PairInv t := by
  obtain ⟨htenant, hguard⟩ := ha
  cases a with
  | registerBrowserTunnel => exact hi.registerBrowser h
  | registerAgentTunnel =>
      cases hlive : s.relay.hasLiveAgent with
      | false => exact hi.registerAgent hlive (hguard hlive) h
      | true => exact hi.refuseAgent htenant hlive h
  | receive ws data isBinary =>
      have hstep := h
      simp only [Remote.step, Option.map_eq_some_iff] at h
      obtain ⟨sock, -, rfl⟩ := h
      have hq := Relay.quiets_onMessages ⟨data, isBinary, s.row.status⟩ sock.handlers s.relay
      refine hi.of_same htenant (fun j => Action.noConfusion) hstep (Relay.entry_onMessages _ _ _) hq.agentOf
        hq.browserOf (fun _ a' _ => hq.live a') fun _ _ b _ hpaired => ?_
      obtain ⟨⟨k, hk⟩, hopen⟩ := hpaired
      refine ⟨⟨k, ?_⟩, ?_⟩
      · exact (hq.handlersOf b).symm ▸ hk
      · show ((sock.handlers.foldl (fun r k => r.onMessage ⟨data, isBinary, s.row.status⟩ k) s.relay).readyState b) ≠ _
        rwa [Relay.readyState_onMessages]
  | peerCloses ws =>
      have hcloses := Relay.closes_close s.relay ws
      have hrelay : t.relay = s.relay.close ws := by
        cases h
        rfl
      rw [← hrelay] at hcloses
      exact hi.of_same htenant (fun j => Action.noConfusion) h (by rw [hrelay]; rfl) hcloses.agentOf hcloses.browserOf
        (fun _ a' _ => hcloses.live a') fun _ _ _ _ hb => paired_close hb hrelay
  | socketClosed ws => exact hi.socketClosed htenant h
  | closeSessionsForUser userId reason =>
      have hrelay : t.relay = s.relay := by
        simp only [Remote.step] at h
        split at h <;> cases h <;> rfl
      refine hi.of_same htenant (fun j => Action.noConfusion) h (by rw [hrelay]) (fun _ => by rw [hrelay])
        (fun _ => by rw [hrelay]) (fun _ _ _ hlive => hrelay ▸ hlive) fun _ _ b _ hb => ?_
      unfold State.Paired
      rwa [hrelay]
  | endSession | cleanupStaleSessions | tunnelCommandFailed | tick =>
      have hstep := h
      cases h
      exact hi.of_same htenant (fun j => Action.noConfusion) hstep rfl (fun _ => rfl) (fun _ => rfl)
        (fun _ _ _ h => h) fun _ _ _ _ h => h
  | resume k => exact hi.resume htenant h
  | dropTunnel | throw => exact hguard.elim

theorem pairInv_created (h : Created s) : PairInv s := by
  obtain ⟨hrow, hrelay, hcalls⟩ := h
  refine ⟨?_, ⟨?_, ?_, ?_⟩, ?_, ?_⟩
  · rw [hrelay]
    exact Relay.wired_empty
  · rw [hcalls]
    exact fun _ _ hmem => nomatch hmem
  · rw [hcalls]
    exact fun hmem => nomatch hmem
  · rw [hcalls]
    exact fun _ hmem => nomatch hmem
  · rw [hrelay]
    exact fun _ _ a ha => nomatch ha
  · rw [hrelay]
    exact fun _ _ _ b hb => nomatch hb

/-- A replaced browser that was never paired closes alone. -/
theorem replaced_closes_alone {ws : ℕ} (hguard : Attended s (.socketClosed ws)) (hreplaced : s.Replaced ws)
    (h : step s (.socketClosed ws) = some t) :
    t.relay.entry = s.relay.entry ∧ ∀ w, w ≠ ws → t.relay.readyState w = s.relay.readyState w := by
  obtain ⟨hbrowser, u, hu, b, hb, hne⟩ := hreplaced
  simp only [Remote.step, Option.map_eq_some_iff, Option.filter_eq_some_iff] at h
  obtain ⟨sock, ⟨hsock, -⟩, rfl⟩ := h
  have hhandlers := handlersOf_of_get hsock
  obtain ⟨-, he⟩ | ⟨v, -, k, hk, -⟩ := socketClosed_cases s ws sock
  · rw [he]
    refine ⟨rfl, fun w hw => ?_⟩
    show (s.relay.markClosed ws).readyState w = _
    rw [Relay.readyState_markClosed, if_neg hw]
  · rw [← hhandlers] at hk
    exact absurd (hguard.2 ⟨k, hk, hbrowser k hk⟩ u hu b hb) hne

end Pairing

/-- **No end of a session is left alone**, while agents join no browser that is gone and the paired browsers that
close have not been replaced. -/
theorem no_orphan {s : State} (h : Reach remoteMachine Attended s) :
    (s.Quiescent → ¬ s.Orphaned) ∧
      ∀ ws t, s.Replaced ws → Attended s (.socketClosed ws) → step s (.socketClosed ws) = some t →
        t.relay.entry = s.relay.entry ∧ ∀ w, w ≠ ws → t.relay.readyState w = s.relay.readyState w := by
  have hi : PairInv s := h.invariant (fun _ => pairInv_created) fun _ _ _ hi ha hs => hi.step ha hs
  refine ⟨?_, fun ws t hreplaced hguard hs => replaced_closes_alone hguard hreplaced hs⟩
  rintro ⟨hquiet, -⟩ ⟨hopen, ⟨t, a, ha, hlive⟩, u, b, hb, hclosed⟩
  have hpending : ¬ s.EndPending := by
    rintro ⟨c, hc, hends⟩
    rw [hquiet c hc] at hends
    cases hends
  rcases hi.held hopen t a ha hlive with ⟨-, hhang | ⟨_, hact⟩⟩ | ⟨-, hpaired, hothers⟩
  · cases hquiet _ hhang
  · cases hquiet _ hact
  · by_cases hu : u = t
    · subst hu
      exact (hpaired b hb).2 hclosed
    · exact hpending (hothers u hu b hb)

/-- A second browser registers before the agent does, and the first one closes. -/
def attendedSession : List Action :=
  [.registerBrowserTunnel, .registerBrowserTunnel, .registerAgentTunnel, .resume 0, .receive 2 [36] true,
    .socketClosed 0]

def attendedState : State := (remoteMachine.exec createdSession attendedSession).getD createdSession

theorem attendedSession_no_orphan : attendedState.relay.entry = some 0 ∧ ¬ attendedState.Orphaned :=
  ⟨by decide, (no_orphan ((Reach.start (M := remoteMachine) (s := createdSession) ⟨rfl, rfl, rfl⟩).of_exec
    attendedSession (by decide) (by decide))).1 ⟨by decide, by decide⟩⟩

/-- A browser that left before the agent came leaves it alone; one that was replaced after it was paired closes the
tunnel of the later one. -/
theorem ends_left_alone :
    (¬ ∀ s : State, Reach remoteMachine anyStep s → s.Quiescent → ¬ s.Orphaned) ∧
      ¬ ∀ s : State, Reach remoteMachine anyStep s → ∀ ws t, s.Replaced ws → step s (.socketClosed ws) = some t →
        t.relay.entry = s.relay.entry ∧ ∀ w, w ≠ ws → t.relay.readyState w = s.relay.readyState w := by
  constructor
  · intro h
    refine h _ (reach_of_exec (M := remoteMachine) (s := createdSession) ⟨rfl, rfl, rfl⟩
      [.registerBrowserTunnel, .socketClosed 0, .registerAgentTunnel, .resume 0] rfl) ⟨by decide, by decide⟩ ?_
    exact ⟨by decide, ⟨0, 1, by decide, by decide⟩, 0, 0, by decide, by decide⟩
  · intro h
    have hclose := h _ (reach_of_exec (M := remoteMachine) (s := createdSession) ⟨rfl, rfl, rfl⟩
      [.registerBrowserTunnel, .registerAgentTunnel, .resume 0, .registerBrowserTunnel] rfl) 0 _
      ⟨by decide, 0, by decide, 2, by decide, by decide⟩ rfl
    exact absurd hclose.1 (by decide)

end Obliance.Remote
