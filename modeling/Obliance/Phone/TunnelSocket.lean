import Mathlib
import Obliance.Lib.GuardedRun

/-!
# The tunnel of a remote session (`TunnelSocket.kt`)

Each step is what runs under the lock, or a call on the socket outside it. OkHttp takes a frame or refuses it;
once it has refused one, or was told to close or cancel, it refuses them all.

* `enqueue`, `write`, `flush`, `close`, `onText`, `finish` : the operations;
* `tunnelMachine` : the operations and the callbacks in any order;
* `Orderly` : what is written, what was accepted and what waits;
* `Fits`, `GoodStep` : a frame that fits by its bytes, and the steps that keep the tunnel orderly;
* `terminal_step` : what a terminal state rules out; `orderly_of_goodSteps` : the runs of good steps.
-/

namespace Obliance.Phone.TunnelSocket
open GuardedRun

inductive TunnelState where
  | idle
  | connecting
  | waiting
  | paired
  | open
  | closed (code : ℤ) (reason : String) (byPeer : Bool)
  | refused (httpStatus : ℤ)
  | network (cause : String)
  | protocol (cause : String)
  deriving DecidableEq, Repr

def TunnelState.isConnected (s : TunnelState) : Bool := decide (s = .paired) || decide (s = .open)

def TunnelState.isTerminal : TunnelState → Bool
  | .closed _ _ _ => true
  | .refused _ => true
  | .network _ => true
  | .protocol _ => true
  | _ => false

inductive Frame where
  | bin (bytes : List UInt8)
  | txt (text : String)
  deriving DecidableEq, Repr

/-- `String.length`: UTF-16 code units. -/
def utf16Length (s : String) : ℕ := (s.toList.map fun c => if c.toNat < 65536 then 1 else 2).sum

/-- `Outgoing.size` -/
def Frame.size : Frame → ℕ
  | .bin bytes => bytes.length
  | .txt text => utf16Length text

/-- The bytes of the frame on the wire. -/
def Frame.bytes : Frame → ℕ
  | .bin bytes => bytes.length
  | .txt text => text.utf8ByteSize

def bytesOf (queue : List Frame) : ℕ := (queue.map Frame.bytes).sum

/-- An `Int` of 32 bits. -/
def int32 (n : ℤ) : ℤ := n.bmod (2 ^ 32)

/-- `take(n)` on UTF-16; half of a pair becomes `?` when it is encoded. -/
def takeText : ℕ → List Char → List Char
  | 0, _ => []
  | _ + 1, [] => []
  | n + 1, c :: cs =>
      if c.toNat < 65536 then c :: takeText n cs
      else if n = 0 then ['?']
      else c :: takeText (n - 1) cs

/-! ## The address -/

def isValidToken (token : String) : Bool :=
  decide (token.toList.length = 64) && token.toList.all fun c => ('0' ≤ c && c ≤ '9') || ('a' ≤ c && c ≤ 'f')

/-- `(https?)://([^/?#@\s]+)` on the whole origin; `isSpace` is `\s`. -/
def originParts (isSpace : Char → Bool) (origin : String) : Option (Bool × List Char) :=
  let host (cs : List Char) : Option (List Char) :=
    if cs ≠ [] ∧ cs.all (fun c => !(c ∈ ['/', '?', '#', '@']) && !isSpace c) then some cs else none
  match origin.toList with
  | 'h' :: 't' :: 't' :: 'p' :: 's' :: ':' :: '/' :: '/' :: cs => (host cs).map (true, ·)
  | 'h' :: 't' :: 't' :: 'p' :: ':' :: '/' :: '/' :: cs => (host cs).map (false, ·)
  | _ => none

def tunnelUrl (isSpace : Char → Bool) (origin token : String) : Option String :=
  if isValidToken token then
    (originParts isSpace origin).map fun (secure, host) =>
      (if secure then "wss" else "ws") ++ "://" ++ String.ofList host ++ "/api/remote/tunnel/" ++ token
  else none

/-! ## The socket -/

/-- The arguments of the constructor that decide what is sent, and the reader of control messages. -/
structure Config where
  url : Option String
  queueLimitBytes : ℤ
  queueLimitFrames : ℤ
  isPaired : String → Bool

structure Tunnel where
  state : TunnelState
  /-- `socket != null` -/
  socket : Bool
  queue : List Frame
  queuedBytes : ℤ
  closedByUs : Bool
  /-- OkHttp is closing, closed or cancelled. -/
  refusing : Bool
  /-- The frames whose `send` returned true. Nothing reads these four. -/
  accepted : List Frame
  /-- What `onPairedFirst` gave. -/
  first : Option Frame
  /-- The frames OkHttp took. -/
  written : List Frame
  /-- The relay has said 'paired'. -/
  heardPaired : Bool
  deriving DecidableEq

def Tunnel.idle : Tunnel := ⟨.idle, false, [], 0, false, false, [], none, [], false⟩

/-- `ws.send`; a refusal is for good. -/
def write (s : Tunnel) (frame : Frame) (takes : Bool) : Tunnel × Bool :=
  if !s.socket then (s, false)
  else if takes && !s.refusing then ({ s with written := s.written ++ [frame] }, true)
  else
    ({ s with refusing := true, state := if s.state.isTerminal then s.state else .protocol "send buffer full" },
      false)

/-- `while (queue.isNotEmpty())`, up to a refusal; `takes i` is the answer to the `i`-th write. -/
def flush (takes : ℕ → Bool) (s : Tunnel) : ℕ → List Frame → Tunnel
  | _, [] => s
  | i, frame :: rest =>
      let (s, ok) := write s frame (takes i)
      if ok then flush takes s (i + 1) rest else s

def clearQueue (s : Tunnel) : Tunnel := { s with queue := [], queuedBytes := 0 }

section Operations
variable (cfg : Config)

/-- `created`: the request is built and the socket made, else the exception leaves the tunnel as it is. -/
def connect (s : Tunnel) (created : Bool) : Tunnel :=
  if s.state ≠ .idle then s
  else match cfg.url with
    | none => { s with state := .protocol "invalid tunnel address" }
    | some _ => { s with state := .connecting, socket := created }

/-- `enqueue`, and what it returns. -/
def enqueue (s : Tunnel) (frame : Frame) (takes : Bool) : Tunnel × Bool :=
  if s.state.isTerminal || s.closedByUs then (s, false)
  else if s.state.isConnected then write s frame takes
  else if cfg.queueLimitFrames ≤ s.queue.length ∨ cfg.queueLimitBytes < int32 (s.queuedBytes + frame.size) then
    (s, false)
  else ({ s with queue := s.queue ++ [frame], queuedBytes := int32 (s.queuedBytes + frame.size) }, true)

def send (s : Tunnel) (frame : Frame) (takes : Bool) : Tunnel :=
  let (t, ok) := enqueue cfg s frame takes
  if ok then { t with accepted := t.accepted ++ [frame] } else t

/-- OkHttp throws for a code out of range or reserved, or a reason over 123 bytes of UTF-8. -/
def closeAllowed (code : ℤ) (reason : List Char) : Bool :=
  decide (1000 ≤ code ∧ code < 5000 ∧ ¬ (1004 ≤ code ∧ code ≤ 1006) ∧ ¬ (1015 ≤ code ∧ code ≤ 2999)) &&
    decide ((String.ofList reason).utf8ByteSize ≤ 123)

def close (s : Tunnel) (code : ℤ) (reason : String) : Tunnel :=
  let s := { clearQueue s with closedByUs := true }
  if s.state.isTerminal then s
  else if !s.socket then { s with state := .closed code reason false }
  else if closeAllowed code (takeText 120 reason.toList) then
    { s with refusing := true, state := .closed code reason false }
  else s

def onOpen (s : Tunnel) : Tunnel := if s.state = .connecting then { s with state := .waiting } else s

def markOpen (s : Tunnel) : Tunnel := if s.state = .paired then { s with state := .open } else s

/-- The first frame, then the queue. -/
def pair (s : Tunnel) (first : Option String) (takes : ℕ → Bool) : Tunnel :=
  let s := { s with state := .paired, first := first.map .txt }
  let s := match first with
    | some text => (write s (.txt text) (takes 0)).1
    | none => s
  clearQueue (flush takes s 1 s.queue)

def onText (s : Tunnel) (text : String) (first : Option String) (takes : ℕ → Bool) : Tunnel :=
  if cfg.isPaired text then
    let s := { s with heardPaired := true }
    if s.state ≠ .waiting then s else pair s first takes
  else markOpen s

def finish (s : Tunnel) (ended : TunnelState) : Tunnel :=
  let s := clearQueue s
  if s.state.isTerminal then s else { s with state := ended }

/-- How `onFailure` reads the error; `none` is an upgrade or no answer at all. -/
inductive Failure where
  | ioException (cause : String)
  | protocolException (cause : String)
  | other (cause : String)
  deriving DecidableEq, Repr

def failureState (status : Option ℤ) (t : Failure) : TunnelState :=
  match status.filter (· ≠ 101) with
  | some status => .refused status
  | none =>
      match t with
      | .ioException cause => .network cause
      | .protocolException cause => .protocol cause
      | .other cause => .protocol cause

inductive TunnelAct where
  | connect (created : Bool)
  | send (frame : Frame) (takes : Bool)
  | close (code : ℤ) (reason : String)
  /-- A close or cancel of the socket outside the lock: in `onClosing`, after the grace period, by OkHttp itself. -/
  | drop
  | onOpen
  | onText (text : String) (first : Option String) (takes : ℕ → Bool)
  | onBinary
  /-- `onClosing` and `onClosed` -/
  | onClosed (code : ℤ) (reason : String)
  | onFailure (status : Option ℤ) (t : Failure)

/-- The listener is the socket's. -/
def isCallback : TunnelAct → Bool
  | .onOpen => true
  | .onText _ _ _ => true
  | .onBinary => true
  | .onClosed _ _ => true
  | .onFailure _ _ => true
  | _ => false

def tunnelStep (s : Tunnel) : TunnelAct → Tunnel
  | .connect created => connect cfg s created
  | .send frame takes => send cfg s frame takes
  | .close code reason => close s code reason
  | .drop => { s with refusing := true }
  | .onOpen => onOpen s
  | .onText text first takes => onText cfg s text first takes
  | .onBinary => markOpen s
  | .onClosed code reason => finish s (.closed code reason true)
  | .onFailure status t => finish s (failureState status t)

def tunnelMachine : Machine Tunnel TunnelAct where
  init s := s = .idle
  step s a := if isCallback a && !s.socket then none else some (tunnelStep cfg s a)

end Operations

/-! ## What is written, accepted and queued -/

section Order
variable (cfg : Config) (s : Tunnel)

structure Orderly : Prop where
  silent : s.heardPaired = false → s.written = []
  ordered : s.written <+: s.first.toList ++ s.accepted
  complete : s.state.isTerminal = false → s.first.toList ++ s.accepted = s.written ++ s.queue
  flushed : s.state.isConnected = true → s.queue = []
  frames : (s.queue.length : ℤ) ≤ max 0 cfg.queueLimitFrames
  bytes : (bytesOf s.queue : ℤ) ≤ max 0 cfg.queueLimitBytes

/-- The tunnel takes the frame into its queue. -/
def Queues (frame : Frame) : Prop :=
  s.state.isTerminal = false ∧ s.closedByUs = false ∧ s.state.isConnected = false ∧
    (s.queue.length : ℤ) < cfg.queueLimitFrames ∧ int32 (s.queuedBytes + frame.size) ≤ cfg.queueLimitBytes

/-- A frame that is queued for its UTF-16 length also fits by its bytes. -/
def Fits (frame : Frame) : Prop :=
  Queues cfg s frame → (bytesOf s.queue + frame.bytes : ℤ) ≤ cfg.queueLimitBytes

/-- What is sent fits, and the socket takes the code and the reason of a close. -/
def GoodStep : TunnelAct → Prop
  | .send frame _ => Fits cfg s frame
  | .close code reason =>
      s.state.isTerminal = false → s.socket = true → closeAllowed code (takeText 120 reason.toList) = true
  | _ => True

instance decidableFits (frame : Frame) : Decidable (Fits cfg s frame) :=
  inferInstanceAs (Decidable (_ ∧ _ ∧ _ ∧ _ ∧ _ → _))

instance decidableGoodStep : (a : TunnelAct) → Decidable (GoodStep cfg s a)
  | .send frame _ => decidableFits cfg s frame
  | .close _ _ => inferInstanceAs (Decidable (_ → _ → _))
  | .connect _ => .isTrue trivial
  | .drop => .isTrue trivial
  | .onOpen => .isTrue trivial
  | .onText _ _ _ => .isTrue trivial
  | .onBinary => .isTrue trivial
  | .onClosed _ _ => .isTrue trivial
  | .onFailure _ _ => .isTrue trivial

structure TunnelInv : Prop extends Orderly cfg s where
  closed : s.closedByUs = true → s.state.isTerminal = true
  attached : s.state = .waiting ∨ s.state.isConnected = true → s.socket = true
  early : s.state.isConnected = false → s.state.isTerminal = false → s.written = [] ∧ s.first = none
  heard : s.state.isConnected = true → s.heardPaired = true

end Order

section Steps
variable {cfg : Config} {s : Tunnel}

theorem write_cases (hs : s.socket = true) (frame : Frame) (takes : Bool) :
    (s.refusing = false ∧ write s frame takes = ({ s with written := s.written ++ [frame] }, true)) ∨
      write s frame takes = ({ s with
        refusing := true, state := if s.state.isTerminal then s.state else .protocol "send buffer full" }, false) := by
  unfold write
  rw [hs, Bool.not_true, if_neg Bool.false_ne_true]
  split
  · next h =>
    rw [Bool.and_eq_true, Bool.not_eq_true'] at h
    exact .inl ⟨h.2, rfl⟩
  · exact .inr rfl

theorem isTerminal_refused (st : TunnelState) :
    (if st.isTerminal then st else .protocol "send buffer full").isTerminal = true := by
  split
  · assumption
  · rfl

/-- A flush writes a beginning of the queue: all of it, or the tunnel has failed. -/
theorem flush_spec (takes : ℕ → Bool) (queue : List Frame) :
    ∀ {s : Tunnel} {i : ℕ}, s.socket = true →
      ∃ w refusing state, w <+: queue ∧
        flush takes s i queue = { s with written := s.written ++ w, refusing := refusing, state := state } ∧
        (s.refusing = true → w = []) ∧ (state = s.state ∧ w = queue ∨ state.isTerminal = true) := by
  induction queue with
  | nil =>
      intro s i _
      exact ⟨[], s.refusing, s.state, List.prefix_rfl, by rw [flush, List.append_nil], fun _ => rfl, .inl ⟨rfl, rfl⟩⟩
  | cons frame rest ih =>
      intro s i hs
      rw [flush]
      obtain ⟨hrefusing, hwrite⟩ | hwrite := write_cases hs frame (takes i)
      · obtain ⟨w, refusing, state, hw, hflush, -, hstate⟩ :=
          ih (s := { s with written := s.written ++ [frame] }) (i := i + 1) hs
        refine ⟨frame :: w, refusing, state, ?_, ?_, fun h => absurd h (by rw [hrefusing]; decide), ?_⟩
        · obtain ⟨rest', hrest⟩ := hw
          exact ⟨rest', by rw [List.cons_append, hrest]⟩
        · rw [hwrite]
          dsimp only
          rw [if_pos rfl, hflush, List.append_assoc, List.singleton_append]
        · exact hstate.imp_left fun ⟨hst, hweq⟩ => ⟨hst, by rw [hweq]⟩
      · refine ⟨[], true, _, List.nil_prefix, ?_, fun _ => rfl, .inr (isTerminal_refused s.state)⟩
        rw [hwrite, List.append_nil]
        rfl

theorem bytesOf_append (q : List Frame) (frame : Frame) : bytesOf (q ++ [frame]) = bytesOf q + frame.bytes := by
  rw [bytesOf, List.map_append, List.sum_append, List.map_singleton, List.sum_singleton]
  rfl

theorem not_connected_of_terminal {st : TunnelState} (h : st.isTerminal = true) : st.isConnected = false := by
  cases st <;> first | rfl | cases h

/-- An end of the tunnel: nothing is queued, written or accepted any more. -/
theorem inv_ended (h : TunnelInv cfg s) {t : Tunnel} (hstate : t.state.isTerminal = true) (hqueue : t.queue = [])
    (hheard : t.heardPaired = s.heardPaired) (hwritten : t.written = s.written) (hfirst : t.first = s.first)
    (haccepted : t.accepted = s.accepted) : TunnelInv cfg t where
  silent := by rw [hheard, hwritten]; exact h.silent
  ordered := by rw [hwritten, hfirst, haccepted]; exact h.ordered
  complete := fun hnot => absurd hstate (by rw [hnot]; decide)
  flushed := fun _ => hqueue
  frames := by rw [hqueue]; exact le_max_left _ _
  bytes := by rw [hqueue]; exact le_max_left _ _
  closed := fun _ => hstate
  attached := by
    rintro (hw | hc)
    · rw [hw] at hstate
      cases hstate
    · rw [not_connected_of_terminal hstate] at hc
      cases hc
  early := fun _ hnot => absurd hstate (by rw [hnot]; decide)
  heard := fun hc => absurd hc (by rw [not_connected_of_terminal hstate]; decide)

theorem inv_connect (h : TunnelInv cfg s) (created : Bool) : TunnelInv cfg (connect cfg s created) := by
  unfold connect
  split_ifs with hidle
  · exact h
  · rw [not_not] at hidle
    have hnot : s.state.isTerminal = false := by rw [hidle]; rfl
    obtain ⟨hwritten, hfirst⟩ := h.early (by rw [hidle]; rfl) hnot
    cases cfg.url with
    | none =>
        refine ⟨⟨h.silent, h.ordered, fun hx => (by cases hx), fun hx => (by cases hx), h.frames, h.bytes⟩, fun _ => rfl,
          ?_, fun _ hx => (by cases hx), fun hx => (by cases hx)⟩
        rintro (hx | hx) <;> cases hx
    | some url =>
        refine ⟨⟨h.silent, h.ordered, fun _ => h.complete hnot, fun hx => (by cases hx), h.frames, h.bytes⟩,
          fun hx => absurd (h.closed hx) (by rw [hnot]; decide), ?_, fun _ _ => ⟨hwritten, hfirst⟩,
          fun hx => (by cases hx)⟩
        rintro (hx | hx) <;> cases hx

theorem inv_send (h : TunnelInv cfg s) {frame : Frame} (hfits : Fits cfg s frame) (takes : Bool) :
    TunnelInv cfg (send cfg s frame takes) := by
  unfold send enqueue
  split_ifs with hended hconn hfull
  · exact h
  · -- straight to the socket
    have hqueue := h.flushed hconn
    have hnot : s.state.isTerminal = false := by
      rw [Bool.or_eq_true, not_or, Bool.not_eq_true] at hended
      exact hended.1
    have hcomplete := h.complete hnot
    rw [hqueue, List.append_nil] at hcomplete
    obtain ⟨-, hwrite⟩ | hwrite := write_cases (h.attached (.inr hconn)) frame takes
    · rw [hwrite]
      show TunnelInv cfg { s with written := s.written ++ [frame], accepted := s.accepted ++ [frame] }
      have heq : s.first.toList ++ (s.accepted ++ [frame]) = s.written ++ [frame] := by
        rw [← List.append_assoc, hcomplete]
      refine ⟨⟨fun hx => absurd (h.heard hconn) (by rw [hx]; decide), ?_, fun _ => ?_, h.flushed, h.frames, h.bytes⟩,
        h.closed, h.attached, fun hx => absurd hconn (by rw [hx]; decide), h.heard⟩
      · exact ⟨[], by rw [List.append_nil]; exact heq.symm⟩
      · rw [hqueue, List.append_nil]
        exact heq
    · rw [hwrite]
      exact inv_ended h (isTerminal_refused s.state) hqueue rfl rfl rfl rfl
  · exact h
  · -- behind the queued frames
    rw [Bool.or_eq_true, not_or, Bool.not_eq_true, Bool.not_eq_true] at hended
    rw [Bool.not_eq_true] at hconn
    rw [not_or, not_le, not_lt] at hfull
    have hbytes := hfits ⟨hended.1, hended.2, hconn, hfull.1, hfull.2⟩
    show TunnelInv cfg { s with
      queue := s.queue ++ [frame], queuedBytes := int32 (s.queuedBytes + frame.size),
      accepted := s.accepted ++ [frame] }
    refine ⟨⟨h.silent, ?_, fun _ => ?_, fun hx => absurd hx (by rw [hconn]; decide), ?_, ?_⟩, h.closed, h.attached,
      h.early, h.heard⟩
    · exact h.ordered.trans ⟨[frame], List.append_assoc _ _ _⟩
    · rw [← List.append_assoc, h.complete hended.1, List.append_assoc]
    · rw [List.length_append, List.length_singleton]
      omega
    · rw [bytesOf_append]
      omega

theorem inv_finish (h : TunnelInv cfg s) {ended : TunnelState} (hended : ended.isTerminal = true) :
    TunnelInv cfg (finish s ended) := by
  unfold finish
  dsimp only
  split_ifs with hterm
  · exact inv_ended h hterm rfl rfl rfl rfl rfl
  · exact inv_ended h hended rfl rfl rfl rfl rfl

theorem inv_close (h : TunnelInv cfg s) {code : ℤ} {reason : String}
    (hallowed : s.state.isTerminal = false → s.socket = true → closeAllowed code (takeText 120 reason.toList) = true) :
    TunnelInv cfg (close s code reason) := by
  unfold close
  dsimp only
  split_ifs with hterm hsocket hok
  · exact inv_ended h hterm rfl rfl rfl rfl rfl
  · exact inv_ended h rfl rfl rfl rfl rfl rfl
  · exact inv_ended h rfl rfl rfl rfl rfl rfl
  · rw [Bool.not_eq_true] at hterm
    rw [Bool.not_eq_true', Bool.not_eq_false] at hsocket
    exact absurd (hallowed hterm hsocket) hok

theorem inv_onOpen (h : TunnelInv cfg s) (hsocket : s.socket = true) : TunnelInv cfg (onOpen s) := by
  unfold onOpen
  split_ifs with hstate
  · have hnot : s.state.isTerminal = false := by rw [hstate]; rfl
    exact ⟨⟨h.silent, h.ordered, fun _ => h.complete hnot, fun hx => (by cases hx), h.frames, h.bytes⟩,
      fun hx => absurd (h.closed hx) (by rw [hnot]; decide), fun _ => hsocket,
      fun _ _ => h.early (by rw [hstate]; rfl) hnot, fun hx => (by cases hx)⟩
  · exact h

theorem inv_markOpen (h : TunnelInv cfg s) : TunnelInv cfg (markOpen s) := by
  unfold markOpen
  split_ifs with hstate
  · have hnot : s.state.isTerminal = false := by rw [hstate]; rfl
    have hconn : s.state.isConnected = true := by rw [hstate]; rfl
    exact ⟨⟨h.silent, h.ordered, fun _ => h.complete hnot, fun _ => h.flushed hconn, h.frames, h.bytes⟩,
      fun hx => absurd (h.closed hx) (by rw [hnot]; decide), fun _ => h.attached (.inr hconn),
      fun hx => (by cases hx), fun _ => h.heard hconn⟩
  · exact h

/-- After the flush: all is written and the tunnel is paired, or a beginning is written and it has failed. -/
theorem inv_flushed {t : Tunnel} (hheard : t.heardPaired = true) (hqueue : t.queue = []) (hsocket : t.socket = true)
    (hclosed : t.closedByUs = false) (hbegun : t.written <+: t.first.toList ++ t.accepted)
    (hstate : t.state = .paired ∧ t.written = t.first.toList ++ t.accepted ∨ t.state.isTerminal = true) :
    TunnelInv cfg t where
  silent := fun h => absurd hheard (by rw [h]; decide)
  ordered := hbegun
  complete := fun hnot => by
    rw [hqueue, List.append_nil]
    exact (hstate.resolve_right (by rw [hnot]; decide)).2.symm
  flushed := fun _ => hqueue
  frames := by rw [hqueue]; exact le_max_left _ _
  bytes := by rw [hqueue]; exact le_max_left _ _
  closed := fun h => absurd h (by rw [hclosed]; decide)
  attached := fun _ => hsocket
  early := fun hconn hnot => absurd hconn (by
    rw [(hstate.resolve_right (by rw [hnot]; decide)).1]
    decide)
  heard := fun _ => hheard

theorem inv_pair (h : TunnelInv cfg s) (hwaiting : s.state = .waiting) (hheard : s.heardPaired = true)
    (first : Option String) (takes : ℕ → Bool) : TunnelInv cfg (pair s first takes) := by
  have hnot : s.state.isTerminal = false := by rw [hwaiting]; rfl
  have hsocket := h.attached (.inl hwaiting)
  have hclosed : s.closedByUs = false := Bool.eq_false_iff.2 fun hx => absurd (h.closed hx) (by rw [hnot]; decide)
  obtain ⟨hwritten, hfirst⟩ := h.early (by rw [hwaiting]; rfl) hnot
  have hqueue : s.queue = s.accepted := by
    have hcomplete := h.complete hnot
    rw [hfirst, hwritten] at hcomplete
    exact hcomplete.symm
  unfold pair
  cases first with
  | none =>
      obtain ⟨w, refusing, state, hw, hflush, -, hstate⟩ :=
        flush_spec takes s.queue (s := { s with state := .paired, first := none }) (i := 1) hsocket
      dsimp only [Option.map_none]
      rw [hflush]
      rw [hqueue] at hw hstate
      exact inv_flushed hheard rfl hsocket hclosed (by simpa [clearQueue, hwritten] using hw)
        (hstate.imp_left fun ⟨hst, hweq⟩ => ⟨hst, by simp [clearQueue, hwritten, hweq]⟩)
  | some text =>
      obtain ⟨-, hwrite⟩ | hwrite := write_cases
        (s := { s with state := .paired, first := some (.txt text) }) hsocket (.txt text) (takes 0)
      · obtain ⟨w, refusing, state, hw, hflush, -, hstate⟩ := flush_spec takes s.queue
          (s := { s with state := .paired, first := some (.txt text), written := s.written ++ [.txt text] }) (i := 1)
          hsocket
        dsimp only [Option.map_some]
        rw [hwrite]
        dsimp only
        rw [hflush]
        rw [hqueue] at hw hstate
        exact inv_flushed hheard rfl hsocket hclosed (by simpa [clearQueue, hwritten] using hw)
          (hstate.imp_left fun ⟨hst, hweq⟩ => ⟨hst, by simp [clearQueue, hwritten, hweq]⟩)
      · -- OkHttp refuses the first frame, and the others after it
        obtain ⟨w, refusing, state, -, hflush, hnone, hstate⟩ := flush_spec takes s.queue
          (s := { s with state := .protocol "send buffer full", first := some (.txt text), refusing := true }) (i := 1)
          hsocket
        have hw : w = [] := hnone rfl
        dsimp only [Option.map_some]
        rw [hwrite]
        show TunnelInv cfg (clearQueue (flush takes { s with
          state := .protocol "send buffer full", first := some (.txt text), refusing := true } 1 s.queue))
        rw [hflush]
        exact inv_flushed hheard rfl hsocket hclosed (by simp [clearQueue, hwritten, hw])
          (.inr (hstate.elim (fun ⟨hst, _⟩ => by rw [clearQueue, hst]; rfl) id))

theorem inv_onText (h : TunnelInv cfg s) (text : String) (first : Option String) (takes : ℕ → Bool) :
    TunnelInv cfg (onText cfg s text first takes) := by
  unfold onText
  split_ifs
  · have hheard : TunnelInv cfg { s with heardPaired := true } :=
      ⟨⟨fun hx => (by cases hx), h.ordered, h.complete, h.flushed, h.frames, h.bytes⟩, h.closed, h.attached, h.early,
        fun _ => rfl⟩
    dsimp only
    split_ifs with hwaiting
    · exact hheard
    · exact inv_pair hheard (not_not.1 hwaiting) rfl first takes
  · exact inv_markOpen h

theorem isTerminal_failureState (status : Option ℤ) (t : Failure) : (failureState status t).isTerminal = true := by
  unfold failureState
  split
  · rfl
  · cases t <;> rfl

theorem inv_step (h : TunnelInv cfg s) {a : TunnelAct} (hgood : GoodStep cfg s a) {t : Tunnel}
    (hstep : (tunnelMachine cfg).step s a = some t) : TunnelInv cfg t := by
  dsimp only [tunnelMachine] at hstep
  split_ifs at hstep with hcallback
  obtain rfl := Option.some.inj hstep
  cases a with
  | connect created => exact inv_connect h created
  | send frame takes => exact inv_send h hgood takes
  | close code reason => exact inv_close h hgood
  | drop => exact ⟨⟨h.silent, h.ordered, h.complete, h.flushed, h.frames, h.bytes⟩, h.closed, h.attached, h.early, h.heard⟩
  | onOpen =>
      rw [isCallback, Bool.true_and, Bool.not_eq_true', Bool.not_eq_false] at hcallback
      exact inv_onOpen h hcallback
  | onText text first takes => exact inv_onText h text first takes
  | onBinary => exact inv_markOpen h
  | onClosed code reason => exact inv_finish h rfl
  | onFailure status t => exact inv_finish h (isTerminal_failureState status t)

/-- A terminal state is for good: nothing is accepted or written any more. -/
theorem terminal_step (hterm : s.state.isTerminal = true) (a : TunnelAct) {t : Tunnel}
    (hstep : (tunnelMachine cfg).step s a = some t) :
    t.state = s.state ∧ t.accepted = s.accepted ∧ t.written = s.written := by
  have hother : ∀ st : TunnelState, st.isTerminal = false → s.state ≠ st := fun st hst he => by
    rw [he, hst] at hterm
    cases hterm
  dsimp only [tunnelMachine] at hstep
  split_ifs at hstep
  obtain rfl := Option.some.inj hstep
  cases a with
  | connect created => simp [tunnelStep, connect, hother .idle rfl]
  | send frame takes => simp [tunnelStep, send, enqueue, hterm]
  | close code reason => simp [tunnelStep, close, clearQueue, hterm]
  | drop => exact ⟨rfl, rfl, rfl⟩
  | onOpen => simp [tunnelStep, onOpen, hother .connecting rfl]
  | onText text first takes =>
      dsimp only [tunnelStep, onText]
      split_ifs with _ hwaiting
      · exact ⟨rfl, rfl, rfl⟩
      · exact absurd (not_not.1 hwaiting) (hother .waiting rfl)
      · simp [markOpen, hother .paired rfl]
  | onBinary => simp [tunnelStep, markOpen, hother .paired rfl]
  | onClosed code reason => simp [tunnelStep, finish, clearQueue, hterm]
  | onFailure status t => simp [tunnelStep, finish, clearQueue, hterm]

end Steps

variable {cfg : Config} {s : Tunnel}

theorem inv_idle (cfg : Config) : TunnelInv cfg .idle :=
  ⟨⟨fun _ => rfl, List.prefix_rfl, fun _ => rfl, fun _ => rfl, le_max_left _ _, le_max_left _ _⟩,
    fun h => (by cases h), fun h => (by rcases h with h | h <;> cases h), fun _ _ => ⟨rfl, rfl⟩, fun h => (by cases h)⟩

/-- **Runs of good steps are orderly**, and end for good. -/
theorem orderly_of_goodSteps (h : Reach (tunnelMachine cfg) (GoodStep cfg) s) :
    Orderly cfg s ∧ ∀ a t, (tunnelMachine cfg).step s a = some t → s.state.isTerminal = true →
      t.state = s.state ∧ t.accepted = s.accepted ∧ t.written = s.written := by
  have hinv : TunnelInv cfg s := by
    refine h.invariant ?_ fun s a t hs hgood hstep => inv_step hs hgood hstep
    rintro s rfl
    exact inv_idle cfg
  exact ⟨hinv.toOrderly, fun a t hstep hterm => terminal_step hterm a hstep⟩

def shellTunnel : Config :=
  ⟨tunnelUrl (· = ' ') "https://h" (String.ofList (List.replicate 64 'a')), 4, 3, fun text =>
    decide (text = "\x7b\"type\":\"paired\"\x7d")⟩

def shellRun : List TunnelAct :=
  [.connect true, .send (.txt "ls") true, .onOpen, .send (.bin [13]) true,
    .onText "\x7b\"type\":\"paired\"\x7d" (some "80x24") fun _ => true, .send (.txt "é") true]

theorem orderly_shellRun :
    let s : Tunnel := ⟨.paired, true, [], 0, false, false, [.txt "ls", .bin [13], .txt "é"], some (.txt "80x24"),
      [.txt "80x24", .txt "ls", .bin [13], .txt "é"], true⟩
    Orderly shellTunnel s ∧ ∀ a t, (tunnelMachine shellTunnel).step s a = some t → s.state.isTerminal = true →
      t.state = s.state ∧ t.accepted = s.accepted ∧ t.written = s.written :=
  orderly_of_goodSteps ((Reach.start rfl).of_exec (s := .idle) shellRun (by decide +kernel) (by decide +kernel))

/-- Three letters of two bytes each in a queue of four bytes. -/
theorem not_orderly :
    ¬ ∀ cfg s, Reach (tunnelMachine cfg) anyStep s →
      Orderly cfg s ∧ ∀ a t, (tunnelMachine cfg).step s a = some t → s.state.isTerminal = true →
        t.state = s.state ∧ t.accepted = s.accepted ∧ t.written = s.written := by
  intro hall
  have hbytes := (hall shellTunnel _ (reach_of_exec (M := tunnelMachine shellTunnel) (s := .idle) rfl
    [.send (.txt "ééé") true] rfl)).1.bytes
  exact absurd hbytes (by decide +kernel)

end Obliance.Phone.TunnelSocket
