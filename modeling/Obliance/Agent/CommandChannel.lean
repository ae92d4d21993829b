import Obliance.Agent.WebSocket

/-!
# The read loop of the command channel (`command_channel.go`)

* `readLoop` : what the agent does with the bytes that arrive, and how it leaves;
* `Frame`, `Valid` : the frames a server may send, and their order;
* `messages` : the messages of such frames that are complete, put together from their fragments;
* `received` : what the loop hands to the JSON decoder, frame by frame;
* `delivered_frames`, `exit_frames` : the loop on the bytes of any frames;
* `agrees` : where the two lists are the same; `codec_and_messages` : what the loop makes of a valid stream.
-/

namespace Obliance.Agent.CommandChannel
open WebSocket

/-- What the loop does with a frame. -/
inductive Event where
  /-- `json.Unmarshal` of the payload. -/
  | json (payload : List UInt8)
  /-- `ws.SendPong`. -/
  | pong (payload : List UInt8)
  deriving DecidableEq, Repr

inductive Exit where
  | closed (code : UInt16)
  | readError
  | panic
  deriving DecidableEq, Repr

/-- `uint16(payload[0])<<8 | uint16(payload[1])`, when there are two bytes. -/
def closeCode : List UInt8 → UInt16
  | b0 :: b1 :: _ => b0.toUInt16 <<< 8 ||| b1.toUInt16
  | _ => 0

def handle (opcode : UInt8) (payload : List UInt8) : List Event :=
  if opcode = 0x9 then [.pong payload]
  else if opcode = 0x1 ∨ opcode = 0x2 then [.json payload]
  else []

def readLoop (bytes : List UInt8) : List Event × Exit :=
  match h : readFrame bytes with
  | .error => ([], .readError)
  | .panic => ([], .panic)
  | .frame opcode payload rest =>
      have : rest.length < bytes.length := readFrame_length h
      if opcode = 0x8 then ([], .closed (closeCode payload))
      else (handle opcode payload ++ (readLoop rest).1, (readLoop rest).2)
termination_by bytes.length

def Event.json? : Event → Option (List UInt8)
  | .json payload => some payload
  | .pong _ => none

/-- What the JSON decoder is given, in order. -/
def delivered (bytes : List UInt8) : List (List UInt8) := (readLoop bytes).1.filterMap Event.json?

/-! ## What a server may send -/

inductive FrameKind where
  | continuation
  | text
  | binary
  | close
  | ping
  | pong
  deriving DecidableEq, Repr

def FrameKind.opcode : FrameKind → UInt8
  | .continuation => 0x0
  | .text => 0x1
  | .binary => 0x2
  | .close => 0x8
  | .ping => 0x9
  | .pong => 0xA

def FrameKind.IsControl (kind : FrameKind) : Bool := kind = .close || kind = .ping || kind = .pong

structure Frame where
  fin : Bool
  kind : FrameKind
  payload : Slice

def Frame.bytes (f : Frame) : List UInt8 := serverFrame f.fin f.kind.opcode f.payload

/-- A control frame is whole and short. -/
def Frame.ControlOk (f : Frame) : Prop := f.kind.IsControl → f.fin ∧ f.payload.bytes.length ≤ 125

/-- The order of the frames: fragments follow the frame that starts their message, control frames may stand between
them, and nothing follows a close frame. `unfinished` says that a message has started and not ended. -/
def Valid : Bool → List Frame → Prop
  | _, [] => True
  | unfinished, f :: fs => f.ControlOk ∧ match f.kind with
      | .continuation => unfinished ∧ Valid (!f.fin) fs
      | .text | .binary => !unfinished ∧ Valid (!f.fin) fs
      | .close => fs = []
      | .ping | .pong => Valid unfinished fs

/-- The complete messages of frames, in order; `pending` holds the bytes of the message that has not ended. -/
def messages : Option (List UInt8) → List Frame → List (List UInt8)
  | _, [] => []
  | pending, f :: fs => match f.kind with
      | .continuation =>
          let buf := pending.getD [] ++ f.payload.bytes
          if f.fin then buf :: messages none fs else messages (some buf) fs
      | .text | .binary =>
          if f.fin then f.payload.bytes :: messages none fs else messages (some f.payload.bytes) fs
      | .close => []
      | .ping | .pong => messages pending fs

/-- Whether a message is left unfinished when the frames end. -/
def leftUnfinished : Bool → List Frame → Bool
  | unfinished, [] => unfinished
  | unfinished, f :: fs => match f.kind with
      | .continuation | .text | .binary => leftUnfinished (!f.fin) fs
      | .close => unfinished
      | .ping | .pong => leftUnfinished unfinished fs

/-- No byte of a message stands behind its first frame. -/
def ContinuationsEmpty (fs : List Frame) : Prop := ∀ f ∈ fs, f.kind = .continuation → f.payload.bytes = []

/-! ## The loop, frame by frame -/

/-- The payloads of the data frames before a close frame, each one alone. -/
def received : List Frame → List (List UInt8)
  | [] => []
  | f :: fs => match f.kind with
      | .text | .binary => f.payload.bytes :: received fs
      | .close => []
      | .continuation | .ping | .pong => received fs

def exit : List Frame → Exit
  | [] => .readError
  | f :: fs => if f.kind = .close then .closed (closeCode f.payload.bytes) else exit fs

variable {bytes rest payload : List UInt8} {opcode : UInt8} {f : Frame} {fs : List Frame}

theorem FrameKind.opcode_lt : ∀ kind : FrameKind, kind.opcode &&& 0x0F = kind.opcode
  | .continuation | .text | .binary | .close | .ping | .pong => rfl

theorem readLoop_frame (h : readFrame bytes = .frame opcode payload rest) :
    readLoop bytes = if opcode = 0x8 then ([], .closed (closeCode payload))
      else (handle opcode payload ++ (readLoop rest).1, (readLoop rest).2) := by
  rw [readLoop]
  split
  · next heq => cases h.symm.trans heq
  · next heq => cases h.symm.trans heq
  · next heq =>
    cases h.symm.trans heq
    rfl

theorem readLoop_error (h : readFrame bytes = .error) : readLoop bytes = ([], .readError) := by
  rw [readLoop]
  split
  · rfl
  · next heq => cases h.symm.trans heq
  · next heq => cases h.symm.trans heq

theorem readFrame_bytes (f : Frame) (rest : List UInt8) :
    readFrame (f.bytes ++ rest) = .frame f.kind.opcode f.payload.bytes rest := by
  rw [Frame.bytes, readFrame_serverFrame, f.kind.opcode_lt]

/-- One frame of the loop: a close frame ends it, a data frame is delivered, the others are not. -/
theorem delivered_cons (f : Frame) (rest : List UInt8) :
    delivered (f.bytes ++ rest) = match f.kind with
      | .text | .binary => f.payload.bytes :: delivered rest
      | .close => []
      | .continuation | .ping | .pong => delivered rest := by
  have hloop := readLoop_frame (readFrame_bytes f rest)
  unfold delivered
  rw [hloop]
  cases f.kind with
  | continuation => rfl
  | text => rfl
  | binary => rfl
  | close => rfl
  | ping => rfl
  | pong => rfl

/-- **The loop on the bytes of frames** gives the decoder the payload of each data frame, until a close frame. -/
theorem delivered_frames (fs : List Frame) : delivered (fs.flatMap Frame.bytes) = received fs := by
  induction fs with
  | nil =>
      have hempty : readLoop [] = ([], .readError) := readLoop_error rfl
      rw [List.flatMap_nil, delivered, hempty]
      rfl
  | cons f fs ih =>
      rw [List.flatMap_cons, delivered_cons, received, ih]

/-- How the loop ends on the bytes of frames. -/
theorem exit_frames (fs : List Frame) : (readLoop (fs.flatMap Frame.bytes)).2 = exit fs := by
  induction fs with
  | nil => rw [List.flatMap_nil, readLoop_error rfl, exit]
  | cons f fs ih =>
      rw [List.flatMap_cons, readLoop_frame (readFrame_bytes f _), exit, ← ih]
      cases f.kind with
      | continuation => rfl
      | text => rfl
      | binary => rfl
      | close => rfl
      | ping => rfl
      | pong => rfl

/-! ## Complete messages -/

theorem continuationsEmpty_cons : ContinuationsEmpty (f :: fs) ↔
    (f.kind = .continuation → f.payload.bytes = []) ∧ ContinuationsEmpty fs :=
  List.forall_mem_cons

theorem FrameKind.sort (kind : FrameKind) :
    kind = .continuation ∨ (kind = .text ∨ kind = .binary) ∨ kind = .close ∨ (kind = .ping ∨ kind = .pong) := by
  cases kind <;> simp

/-- A data frame starts a message, where none is unfinished. -/
theorem data_cons (hkind : f.kind = .text ∨ f.kind = .binary) (unfinished : Bool) (pending : Option (List UInt8)) :
    (Valid unfinished (f :: fs) → unfinished = false ∧ Valid (!f.fin) fs) ∧
      received (f :: fs) = f.payload.bytes :: received fs ∧
      messages pending (f :: fs) = (if f.fin then f.payload.bytes :: messages none fs
        else messages (some f.payload.bytes) fs) ∧
      leftUnfinished unfinished (f :: fs) = leftUnfinished (!f.fin) fs := by
  rcases hkind with hkind | hkind <;>
    simp [Valid, received, messages, leftUnfinished, hkind]

/-- A ping or a pong changes nothing. -/
theorem control_cons (hkind : f.kind = .ping ∨ f.kind = .pong) (unfinished : Bool) (pending : Option (List UInt8)) :
    (Valid unfinished (f :: fs) → Valid unfinished fs) ∧ received (f :: fs) = received fs ∧
      messages pending (f :: fs) = messages pending fs ∧
      leftUnfinished unfinished (f :: fs) = leftUnfinished unfinished fs := by
  rcases hkind with hkind | hkind <;>
    simp [Valid, received, messages, leftUnfinished, hkind]

/-- The messages that the frames carry are the payloads the loop delivers, and what the loop lacks is empty. -/
def Agrees (fs : List Frame) : Prop :=
  (Valid false fs → (received fs = messages none fs ↔ ContinuationsEmpty fs ∧ leftUnfinished false fs = false)) ∧
  ∀ first more, Valid true fs → (first :: received fs = messages (some (first ++ more)) fs ↔
    more = [] ∧ ContinuationsEmpty fs ∧ leftUnfinished true fs = false)

theorem agrees_continuation (hkind : f.kind = .continuation) (ih : Agrees fs) : Agrees (f :: fs) := by
  refine ⟨fun ⟨_, horder⟩ => ?_, fun first more ⟨_, horder⟩ => ?_⟩
  · rw [hkind] at horder
    exact absurd horder.1 (by decide)
  · rw [hkind] at horder
    simp only [received, messages, leftUnfinished, hkind, continuationsEmpty_cons, Option.getD_some,
      forall_const, List.append_assoc]
    cases hfin : f.fin with
    | true =>
        rw [hfin] at horder
        rw [if_pos rfl, List.cons.injEq, ih.1 horder.2, List.self_eq_append_right, List.append_eq_nil_iff,
          Bool.not_true]
        exact ⟨fun h => ⟨h.1.1, ⟨h.1.2, h.2.1⟩, h.2.2⟩, fun h => ⟨⟨h.1, h.2.1.1⟩, h.2.1.2, h.2.2⟩⟩
    | false =>
        rw [hfin] at horder
        rw [if_neg Bool.false_ne_true, ih.2 first _ horder.2, List.append_eq_nil_iff, Bool.not_false]
        exact ⟨fun h => ⟨h.1.1, ⟨h.1.2, h.2.1⟩, h.2.2⟩, fun h => ⟨⟨h.1, h.2.1.1⟩, h.2.1.2, h.2.2⟩⟩

theorem agrees_data (hkind : f.kind = .text ∨ f.kind = .binary) (ih : Agrees fs) : Agrees (f :: fs) := by
  have hne : f.kind ≠ .continuation := by rcases hkind with h | h <;> rw [h] <;> decide
  refine ⟨fun hvalid => ?_, fun first more hvalid => ?_⟩
  · obtain ⟨hvalid', hreceived, hmessages, hleft⟩ := @data_cons f fs hkind false none
    obtain ⟨-, hvalid⟩ := hvalid' hvalid
    rw [hreceived, hmessages, hleft, continuationsEmpty_cons, and_iff_right (fun h => absurd h hne)]
    cases hfin : f.fin with
    | true =>
        rw [hfin] at hvalid
        rw [if_pos rfl, List.cons.injEq, ih.1 hvalid, and_iff_right rfl, Bool.not_true]
    | false =>
        rw [hfin] at hvalid
        have hopen := ih.2 f.payload.bytes [] hvalid
        rw [List.append_nil, and_iff_right rfl] at hopen
        rw [if_neg Bool.false_ne_true, hopen, Bool.not_false]
  · obtain ⟨hvalid', -⟩ := @data_cons f fs hkind true none
    exact absurd (hvalid' hvalid).1 (by decide)

theorem agrees_close (hkind : f.kind = .close) : Agrees (f :: fs) := by
  refine ⟨fun ⟨_, horder⟩ => ?_, fun first more _ => ?_⟩
  · rw [hkind] at horder
    obtain rfl : fs = [] := horder
    simp [received, messages, leftUnfinished, hkind, ContinuationsEmpty]
  · simp [received, messages, leftUnfinished, hkind]

theorem agrees_control (hkind : f.kind = .ping ∨ f.kind = .pong) (ih : Agrees fs) : Agrees (f :: fs) := by
  have hne : f.kind ≠ .continuation := by rcases hkind with h | h <;> rw [h] <;> decide
  refine ⟨fun hvalid => ?_, fun first more hvalid => ?_⟩
  · obtain ⟨hvalid', hreceived, hmessages, hleft⟩ := @control_cons f fs hkind false none
    rw [hreceived, hmessages, hleft, continuationsEmpty_cons, and_iff_right (fun h => absurd h hne)]
    exact ih.1 (hvalid' hvalid)
  · obtain ⟨hvalid', hreceived, hmessages, hleft⟩ := @control_cons f fs hkind true (some (first ++ more))
    rw [hreceived, hmessages, hleft, continuationsEmpty_cons, and_iff_right (fun h => absurd h hne)]
    exact ih.2 first more (hvalid' hvalid)

theorem agrees (fs : List Frame) : Agrees fs := by
  induction fs with
  | nil =>
      refine ⟨fun _ => ?_, fun first more _ => ?_⟩
      · simp [received, messages, ContinuationsEmpty, leftUnfinished]
      · simp [messages, leftUnfinished]
  | cons f fs ih =>
      rcases f.kind.sort with hkind | hkind | hkind | hkind
      · exact agrees_continuation hkind ih
      · exact agrees_data hkind ih
      · exact agrees_close hkind
      · exact agrees_control hkind ih

/-- **The codec and the loop.** Every frame the agent writes is read back with the four bits of its opcode, its payload
and what follows. Of valid frames the loop delivers the payloads of the data frames before a close frame, in order;
these are the complete messages exactly when no continuation frame carries a byte and no message is left unfinished. -/
theorem codec_and_messages :
    (∀ (opcode : UInt8) (key : MaskKey) (payload : Slice) (rest : List UInt8),
      readFrame (writeFrame opcode key payload ++ rest) = .frame (opcode &&& 0x0F) payload.bytes rest ∧
        (opcode &&& 0x0F = opcode ↔ opcode < 16)) ∧
    ∀ fs, Valid false fs → delivered (fs.flatMap Frame.bytes) = received fs ∧
      (delivered (fs.flatMap Frame.bytes) = messages none fs ↔
        ContinuationsEmpty fs ∧ leftUnfinished false fs = false) := by
  refine ⟨fun opcode key payload rest => ⟨readFrame_writeFrame opcode key payload rest, opcode_low opcode⟩,
    fun fs hvalid => ⟨delivered_frames fs, ?_⟩⟩
  rw [delivered_frames]
  exact (agrees fs).1 hvalid

/-- A command in one frame, with a ping behind it: both bytes are delivered. -/
theorem codec_and_messages_whole :
    delivered ([⟨true, .text, ⟨[0x7B, 0x7D], by decide⟩⟩, ⟨true, .ping, ⟨[], by decide⟩⟩].flatMap Frame.bytes) =
      [[0x7B, 0x7D]] := by
  refine ((codec_and_messages.2 [⟨true, .text, ⟨[0x7B, 0x7D], by decide⟩⟩, ⟨true, .ping, ⟨[], by decide⟩⟩]
    ?_).2.2 ⟨?_, rfl⟩).trans rfl
  · exact ⟨by simp [Frame.ControlOk, FrameKind.IsControl], rfl, by simp [Frame.ControlOk], trivial⟩
  · simp [ContinuationsEmpty]

/-- The same command in two fragments. -/
def fragments : List Frame := [⟨false, .text, ⟨[0x7B], by decide⟩⟩, ⟨true, .continuation, ⟨[0x7D], by decide⟩⟩]

/-- **A message in two fragments is not delivered**: the decoder gets the first fragment alone. -/
theorem fragmented_lost : Valid false fragments ∧ messages none fragments = [[0x7B, 0x7D]] ∧
    delivered (fragments.flatMap Frame.bytes) = [[0x7B]] := by
  refine ⟨⟨?_, rfl, ?_, rfl, trivial⟩, rfl, ?_⟩
  · simp [Frame.ControlOk, FrameKind.IsControl]
  · simp [Frame.ControlOk, FrameKind.IsControl]
  · rw [delivered_frames]
    rfl

end Obliance.Agent.CommandChannel
