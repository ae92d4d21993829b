import Mathlib.Data.Int.Notation
import Mathlib.Data.List.Basic
import Mathlib.Tactic.Common
import Obliance.Lib.GuardedRun

/-!
# One remote session (`services/remote.service.ts`)

The row of `remote_sessions`, the entry of `this.tunnels` under its token, and the sockets that were
registered for it, which keep their handlers after the entry is deleted.

* `Relay` : sockets, tunnel objects, the map entry, and the frames handed over so far;
* `Call` : an asynchronous call in progress, named after its next statement; `stepCall` runs it;
* `remoteMachine` : registrations, frames, socket closes and calls, in any order.
-/

namespace Obliance.Remote
open GuardedRun

/-! ## The row -/

inductive RemoteSessionStatus where
  | waiting
  | connecting
  | active
  | closed
  | expired
  | timeout
  | failed
  deriving DecidableEq, Repr

/-- `OPEN_REMOTE_SESSION_STATUSES` -/
def RemoteSessionStatus.isOpen : RemoteSessionStatus → Bool
  | .waiting | .connecting | .active => true
  | .closed | .expired | .timeout | .failed => false

/-- `whereIn('status', ['waiting', 'connecting'])` -/
def RemoteSessionStatus.attachable : RemoteSessionStatus → Bool
  | .waiting | .connecting => true
  | .active | .closed | .expired | .timeout | .failed => false

/-- Instants are in milliseconds. -/
structure SessionRow where
  tenantId : ℕ
  startedBy : Option ℕ
  status : RemoteSessionStatus
  startedAt : ℤ
  connectedAt : Option ℤ
  endedAt : Option ℤ
  durationSeconds : Option ℤ
  endReason : Option String
  deriving DecidableEq, Repr

/-- A session as `createSession` inserts it. -/
def SessionRow.created (tenantId userId : ℕ) (now : ℤ) : SessionRow where
  tenantId := tenantId
  startedBy := some userId
  status := .waiting
  startedAt := now
  connectedAt := none
  endedAt := none
  durationSeconds := none
  endReason := none

/-! ## The relay -/

/-- `readyState` of a socket: `live` is CONNECTING or OPEN. -/
inductive ReadyState where
  | live
  | closing
  | closed
  deriving DecidableEq, Repr

/-- What is registered on a socket: its `message` listener and the `close` listener beside it. -/
inductive Handler where
  /-- of an agent socket: to the browser of the tunnel object it closes over -/
  | toBrowser (tunnel : ℕ)
  /-- of a browser socket: to the agent socket it closes over -/
  | toAgent (agentWs : ℕ)
  deriving DecidableEq, Repr

def Handler.closeReason : Handler → String
  | .toBrowser _ => "agent_disconnect"
  | .toAgent _ => "browser_disconnect"

structure Sock where
  readyState : ReadyState
  handlers : List Handler
  deriving DecidableEq, Repr

/-- A frame, and the status the row had when the frame came in (kept for the statements only). -/
structure Frame where
  data : List UInt8
  isBinary : Bool
  rowStatus : RemoteSessionStatus
  deriving DecidableEq, Repr

structure Tunnel where
  browser : Option ℕ
  agent : Option ℕ
  agentBuffer : List Frame
  deriving DecidableEq, Repr

/-- A frame accepted by a socket that was open. -/
structure Delivery where
  target : ℕ
  frame : Frame
  deriving DecidableEq, Repr

/-- Sockets and tunnel objects are numbered in order of creation; `entry` is what
`this.tunnels.get(sessionToken)` returns. -/
structure Relay where
  sockets : List Sock
  objects : List Tunnel
  entry : Option ℕ
  delivered : List Delivery
  deriving DecidableEq, Repr

namespace Relay

def empty : Relay := ⟨[], [], none, []⟩

def readyState (r : Relay) (ws : ℕ) : ReadyState := (r.sockets[ws]?).elim .closed Sock.readyState
def handlersOf (r : Relay) (ws : ℕ) : List Handler := (r.sockets[ws]?).elim [] Sock.handlers
def browserOf (r : Relay) (t : ℕ) : Option ℕ := (r.objects[t]?).bind Tunnel.browser
def agentOf (r : Relay) (t : ℕ) : Option ℕ := (r.objects[t]?).bind Tunnel.agent
def bufferOf (r : Relay) (t : ℕ) : List Frame := (r.objects[t]?).elim [] Tunnel.agentBuffer

/-- A socket just accepted by the server, without listeners of the relay. -/
def accept (r : Relay) : Relay := { r with sockets := r.sockets ++ [⟨.live, []⟩] }

/-- `ws.on('message', ..)` and `ws.on('close', ..)` -/
def listen (r : Relay) (ws : ℕ) (h : Handler) : Relay :=
  { r with sockets := r.sockets.modify ws fun s => { s with handlers := s.handlers ++ [h] } }

/-- `ws.close()` -/
def close (r : Relay) (ws : ℕ) : Relay :=
  { r with sockets := r.sockets.modify ws fun s =>
      { s with readyState := if s.readyState = .live then .closing else s.readyState } }

/-- `ws?.close()` -/
def closeOpt (r : Relay) (ws : Option ℕ) : Relay := ws.elim r r.close

/-- The `close` event: the socket receives nothing any more. -/
def markClosed (r : Relay) (ws : ℕ) : Relay :=
  { r with sockets := r.sockets.modify ws fun s => { s with readyState := .closed } }

/-- `ws.send(data)`: a socket that is closing or closed takes nothing. -/
def send (r : Relay) (ws : ℕ) (frame : Frame) : Relay :=
  if r.readyState ws = .live then { r with delivered := r.delivered ++ [⟨ws, frame⟩] } else r

def setBrowser (r : Relay) (t browserWs : ℕ) : Relay :=
  { r with objects := r.objects.modify t fun tunnel => { tunnel with browser := some browserWs } }

def setAgent (r : Relay) (t agentWs : ℕ) : Relay :=
  { r with objects := r.objects.modify t fun tunnel => { tunnel with agent := some agentWs } }

def pushFrame (r : Relay) (t : ℕ) (frame : Frame) : Relay :=
  { r with objects := r.objects.modify t fun tunnel =>
      { tunnel with agentBuffer := tunnel.agentBuffer ++ [frame] } }

def clearBuffer (r : Relay) (t : ℕ) : Relay :=
  { r with objects := r.objects.modify t fun tunnel => { tunnel with agentBuffer := [] } }

/-- The end of `endSession`, and `dropTunnel`: `this.tunnels.delete(sessionToken)`. -/
def dropTunnel (r : Relay) : Relay := { r with entry := none }

/-- The socket a handler sends to. -/
def target (r : Relay) : Handler → Option ℕ
  | .toBrowser t => r.browserOf t
  | .toAgent a => some a

/-- One `message` listener: an agent's frame waits in the buffer of the tunnel until it has a browser. -/
def onMessage (r : Relay) (frame : Frame) : Handler → Relay
  | .toBrowser t => (r.browserOf t).elim (r.pushFrame t frame) fun b => r.send b frame
  | .toAgent a => r.send a frame

def hasLiveAgent (r : Relay) : Bool := (r.entry.bind r.agentOf).any fun a => r.readyState a = .live

/-- `if (!this.tunnels.has(sessionToken)) this.tunnels.set(sessionToken, { agentBuffer: [] })` -/
def ensureTunnel (r : Relay) : Relay :=
  match r.entry with
  | some _ => r
  | none => { r with objects := r.objects ++ [⟨none, none, []⟩], entry := some r.objects.length }

/-- `_flushAndBridgeBrowser` -/
def flushAndBridgeBrowser (r : Relay) (browserWs agentWs : ℕ) : Relay :=
  match r.entry with
  | none => r
  | some t =>
      (((r.bufferOf t).foldl (fun r frame => r.send browserWs frame) r).clearBuffer t).listen browserWs
        (.toAgent agentWs)

/-- `registerBrowserTunnel` on the tunnel `t` of the entry. -/
def joinBrowser (r : Relay) (t browserWs : ℕ) : Relay :=
  let r := r.setBrowser t browserWs
  (r.agentOf t).elim r fun a => r.flushAndBridgeBrowser browserWs a

def registerBrowserTunnel (r : Relay) : Relay :=
  let r := r.ensureTunnel
  r.entry.elim r fun t => r.accept.joinBrowser t r.sockets.length

/-- `registerAgentTunnel` on the tunnel `t` of the entry. -/
def joinAgent (r : Relay) (t agentWs : ℕ) : Relay :=
  let r := (r.setAgent t agentWs).listen agentWs (.toBrowser t)
  (r.browserOf t).elim r fun b => r.flushAndBridgeBrowser b agentWs

/-- `registerAgentTunnel` after its `hasLiveAgent` check, without the update of the row. -/
def registerAgentTunnel (r : Relay) : Relay :=
  let r := r.ensureTunnel
  r.entry.elim r fun t => r.accept.joinAgent t r.sockets.length

/-- The teardown of `handleTunnelClose` and `closeSessionsForUser`: the entry, then both ends. -/
def teardown (r : Relay) (t : ℕ) : Relay :=
  (r.dropTunnel.closeOpt (r.browserOf t)).closeOpt (r.agentOf t)

/-- The answer to an agent whose session is no longer open. -/
def hangUp (r : Relay) (agentWs : ℕ) : Relay :=
  (if r.entry.bind r.agentOf = some agentWs
    then r.dropTunnel.closeOpt (r.entry.bind r.browserOf) else r).close agentWs

end Relay

/-! ## Calls -/

/-- The columns `endSession` writes. -/
structure EndPatch where
  status : RemoteSessionStatus
  endedAt : ℤ
  durationSeconds : ℤ
  endReason : String
  terminal : status.isOpen = false
  deriving DecidableEq, Repr

inductive Call where
  /-- `endSession`: its row is to be read -/
  | endSession (tenantId : ℕ) (reason : String)
  | endWrite (patch : EndPatch)
  | endDelete
  /-- `registerAgentTunnel`: the row is to become active -/
  | activate (agentWs : ℕ) (connectedAt : ℤ)
  | hangUp (agentWs : ℕ)
  /-- `handleTunnelClose`: its row is to be read -/
  | tunnelClosed (reason : String)
  /-- `closeSessionsForUser`: the row was selected, its turn has not come -/
  | closeForUser (tenantId : ℕ) (reason : String)
  | cleanupWaiting (now startedBefore : ℤ) (minutes : Option ℤ)
  | cleanupConnecting (now startedBefore : ℤ)
  | done
  deriving DecidableEq, Repr

structure State where
  now : ℤ
  row : SessionRow
  relay : Relay
  calls : List Call
  deriving DecidableEq, Repr

/-- Master tenant: god view. -/
def isMasterTenant (tenantId : ℕ) : Bool := tenantId = 1

/-- What `endSession` decides to write, on the row it read. -/
def endPatch (session : SessionRow) (reason : String) (now : ℤ) : EndPatch where
  status := if session.connectedAt.isSome then .closed else .expired
  endedAt := now
  durationSeconds := session.connectedAt.elim 0 fun c => (now - c) / 1000
  endReason := reason
  terminal := by split <;> rfl

/-- The update of `endSession`, `WHERE id = ?`. -/
def SessionRow.endWith (row : SessionRow) (p : EndPatch) : SessionRow :=
  { row with
    status := p.status
    endedAt := some p.endedAt
    durationSeconds := some p.durationSeconds
    endReason := some p.endReason }

/-- The update of `registerAgentTunnel`, `WHERE status IN ('waiting', 'connecting')`. -/
def SessionRow.activate (row : SessionRow) (connectedAt : ℤ) : SessionRow :=
  if row.status.attachable then { row with status := .active, connectedAt := some connectedAt } else row

/-- An update of `cleanupStaleSessions`, `WHERE status = ? AND started_at < ?`. -/
def SessionRow.timeOut (row : SessionRow) (status : RemoteSessionStatus) (now startedBefore : ℤ) :
    SessionRow :=
  if row.status = status ∧ row.startedAt < startedBefore
  then { row with status := .timeout, endedAt := some now, endReason := some "timeout" } else row

/-- The failed ack of an `open_remote_tunnel` command, `WHERE status IN ('waiting', 'connecting')`. -/
def SessionRow.commandFailed (row : SessionRow) (now : ℤ) : SessionRow :=
  if row.status.attachable
  then { row with status := .failed, endedAt := some now, endReason := some "command_failure" } else row

/-- The next statement of a call. -/
def stepCall (s : State) : Call → State × Call
  | .endSession tenantId reason =>
      (s, if isMasterTenant tenantId ∨ s.row.tenantId = tenantId
        then .endWrite (endPatch s.row reason s.now) else .done)
  | .endWrite patch => ({ s with row := s.row.endWith patch }, .endDelete)
  | .endDelete => ({ s with relay := s.relay.dropTunnel }, .done)
  | .activate agentWs connectedAt =>
      ({ s with row := s.row.activate connectedAt },
        if s.row.status.attachable then .done else .hangUp agentWs)
  | .hangUp agentWs => ({ s with relay := s.relay.hangUp agentWs }, .done)
  | .tunnelClosed reason =>
      (s, if s.row.tenantId ≠ 0 then .endSession s.row.tenantId reason else .done)
  | .closeForUser tenantId reason =>
      ({ s with relay := s.relay.entry.elim s.relay s.relay.teardown }, .endSession tenantId reason)
  | .cleanupWaiting now startedBefore minutes =>
      ({ s with row := s.row.timeOut .waiting now startedBefore },
        -- an invalid `minutes` is an invalid date: the second query throws
        minutes.elim .done fun m => .cleanupConnecting now (s.now - m * 60 * 1000))
  | .cleanupConnecting now startedBefore =>
      ({ s with row := s.row.timeOut .connecting now startedBefore }, .done)
  | .done => (s, .done)

/-- `handleTunnelClose`: only the first call for an entry finds it. -/
def handleTunnelClose (s : State) (reason : String) : State :=
  match s.relay.entry with
  | none => s
  | some t => { s with relay := s.relay.teardown t, calls := s.calls ++ [.tunnelClosed reason] }

/-! ## The machine -/

inductive Action where
  | registerBrowserTunnel
  | registerAgentTunnel
  | receive (ws : ℕ) (data : List UInt8) (isBinary : Bool)
  /-- the peer's close frame -/
  | peerCloses (ws : ℕ)
  /-- the `close` event -/
  | socketClosed (ws : ℕ)
  | endSession (tenantId : ℕ) (reason : String)
  | closeSessionsForUser (userId : ℕ) (reason : String)
  /-- `minutes` is the configured timeout, `none` when it is not a number -/
  | cleanupStaleSessions (minutes : Option ℤ)
  | tunnelCommandFailed
  | dropTunnel
  | tick (ms : ℕ)
  | resume (call : ℕ)
  /-- a statement of the call throws -/
  | throw (call : ℕ)
  deriving DecidableEq, Repr

def State.spawn (s : State) (call : Call) : State := { s with calls := s.calls ++ [call] }

def agentRefused (s : State) : State :=
  { s with relay := s.relay.accept.close s.relay.sockets.length }

def agentAccepted (s : State) : State :=
  { s with relay := s.relay.registerAgentTunnel }.spawn (.activate s.relay.sockets.length s.now)

def receive (s : State) (sock : Sock) (data : List UInt8) (isBinary : Bool) : State :=
  { s with relay := sock.handlers.foldl (fun r h => r.onMessage ⟨data, isBinary, s.row.status⟩ h) s.relay }

def socketClosed (s : State) (ws : ℕ) (sock : Sock) : State :=
  sock.handlers.foldl (fun s h => handleTunnelClose s h.closeReason)
    { s with relay := s.relay.markClosed ws }

def step (s : State) : Action → Option State
  | .registerBrowserTunnel => some { s with relay := s.relay.registerBrowserTunnel }
  | .registerAgentTunnel => some (if s.relay.hasLiveAgent then agentRefused s else agentAccepted s)
  | .receive ws data isBinary =>
      ((s.relay.sockets[ws]?).filter fun sock => sock.readyState ≠ .closed).map fun sock =>
        receive s sock data isBinary
  | .peerCloses ws => some { s with relay := s.relay.close ws }
  | .socketClosed ws =>
      ((s.relay.sockets[ws]?).filter fun sock => sock.readyState ≠ .closed).map fun sock =>
        socketClosed s ws sock
  | .endSession tenantId reason => some (s.spawn (.endSession tenantId reason))
  | .closeSessionsForUser userId reason =>
      if s.row.startedBy = some userId ∧ s.row.status.isOpen
      then some (s.spawn (.closeForUser s.row.tenantId reason)) else some s
  | .cleanupStaleSessions minutes =>
      some (s.spawn (.cleanupWaiting s.now (s.now - 6 * 60 * 1000) minutes))
  | .tunnelCommandFailed => some { s with row := s.row.commandFailed s.now }
  | .dropTunnel => some { s with relay := s.relay.dropTunnel }
  | .tick ms => some { s with now := s.now + ms }
  | .resume k => (s.calls[k]?).map fun c =>
      { (stepCall s c).1 with calls := s.calls.set k (stepCall s c).2 }
  | .throw k => some { s with calls := s.calls.set k .done }

/-- A session just created, nobody connected. -/
def Created (s : State) : Prop :=
  s.row = .created s.row.tenantId (s.row.startedBy.getD 0) s.row.startedAt ∧ s.relay = .empty ∧ s.calls = []

instance (s : State) : Decidable (Created s) := inferInstanceAs (Decidable (_ ∧ _ ∧ _))

def remoteMachine : Machine State Action := ⟨Created, step⟩

end Obliance.Remote
