import Mathlib.Logic.Function.Basic
import Obliance.Lib.Base64
import Obliance.Lib.JsSet
import Obliance.Lib.Progress

/-!
# Live section streams (`agent/custom_section.go`)

One start of a stream, the process it starts and the goroutines that read it. A critical section of the registry,
a read, a wait and a message are one step each. A terminal has one channel, that of `stdout`.

* `startStep`, `readLoopStep` : the next step of `StartCustomSection` and of a `readLoop`;
* `streamMachine` : these in any order, with the process, the other streams and the closing of write ends;
* `Delivered` : one closed message, every byte before it, and no entry left;
* `Moves`, `step_moves` : everything a step can do;
* `Lawful` : how the start, the process, the readers and the closed messages go together in every run.
-/

namespace Obliance.Agent.CustomSection
open GuardedRun Base64

/-! ## The start and the readers -/

structure SectionRequest where
  streamId : String
  command : String
  runtime : String
  usePty : Bool
  deriving DecidableEq, Repr

/-- Where the process writes to; a `readLoop` is named by what it reads. -/
inductive Source where
  | stdout
  | stderr
  deriving DecidableEq, Repr

/-- `data` is the base64 text of the bytes. -/
inductive Message where
  | output (streamId : String) (data : List Char)
  | closed (streamId : String) (code : ℤ)
  deriving DecidableEq, Repr

/-- Where a `readLoop` stands: the step it does next. -/
inductive Reader where
  | idle
  | reading
  | waiting
  | closing (code : ℤ)
  | deleting
  | done
  deriving DecidableEq, Repr

/-- A pipe, or the terminal, and who reads it. -/
structure Channel where
  /-- All that was ever written. -/
  written : List UInt8
  unread : List UInt8
  /-- Some process still holds the write end. -/
  writable : Bool
  readable : Bool
  reader : Reader
  deriving DecidableEq, Repr

def Channel.new : Channel := ⟨[], [], true, true, .idle⟩

/-- What a read of `size` bytes leaves. -/
def Channel.take (ch : Channel) (size : ℕ) : Channel := { ch with unread := ch.unread.drop size }

def Channel.write (ch : Channel) (bytes : List UInt8) : Channel :=
  { ch with written := ch.written ++ bytes, unread := ch.unread ++ bytes }

def Channel.close (ch : Channel) : Channel := { ch with writable := false }

inductive Process where
  | absent
  | running (argv : List String)
  | exited (code : ℤ)
  deriving DecidableEq, Repr

inductive StartError where
  | alreadyRunning
  | startFailed
  deriving DecidableEq, Repr

/-- The text of the agent's own error; a failed start has that of the system. -/
def StartError.message : StartError → Option String
  | .alreadyRunning => some "stream already running"
  | .startFailed => none

/-- Where `StartCustomSection` stands. -/
inductive Starter where
  | check
  | start
  | spawn
  | spawnStderr
  | insert
  | returned (error : Option StartError)
  deriving DecidableEq, Repr

structure StreamState where
  starter : Starter
  process : Process
  channel : Source → Channel
  /-- What was handed to the command channel, with the reader that did. -/
  sent : List (Source × Message)
  /-- The keys of the registry. -/
  streams : List String

def StreamState.put (s : StreamState) (c : Source) (channel : Channel) : StreamState :=
  { s with channel := Function.update s.channel c channel }

def StreamState.setReader (s : StreamState) (c : Source) (reader : Reader) : StreamState :=
  s.put c { s.channel c with reader := reader }

section Steps
variable (windows : Bool) (req : SectionRequest) (s : StreamState)

def shellCommand (rt command : String) : List String :=
  if rt = "powershell" then ["powershell.exe", "-NoProfile", "-NonInteractive", "-Command", command]
  else if rt = "cmd" then ["cmd.exe", "/c", command]
  else if rt = "sh" then ["sh", "-c", command]
  else if windows then ["powershell.exe", "-NoProfile", "-NonInteractive", "-Command", command]
  else ["bash", "-lc", command]

def pty : Bool := req.usePty && !windows

/-- The channel behind the process's stdout or stderr. -/
def target (c : Source) : Source := if pty windows req then .stdout else c

/-- The next step of `StartCustomSection`; `starts` says whether the process can be started. -/
def startStep (starts : Bool) : Option StreamState :=
  match s.starter with
  | .check =>
      some { s with starter := if req.streamId ∈ s.streams then .returned (some .alreadyRunning) else .start }
  | .start =>
      if starts then
        some { s with starter := .spawn, process := .running (shellCommand windows req.runtime req.command) }
      else some { s with starter := .returned (some .startFailed) }
  | .spawn =>
      some { s.setReader .stdout .reading with starter := if pty windows req then .insert else .spawnStderr }
  | .spawnStderr => some { s.setReader .stderr .reading with starter := .insert }
  | .insert => some { s with starter := .returned none, streams := JsSet.add s.streams req.streamId }
  | .returned _ => none

def bufferSize : ℕ := 65536

/-- `Wait` closes what `StdoutPipe` and `StderrPipe` returned, and what is unread is lost. -/
def closePipes : StreamState :=
  if pty windows req then s
  else { s with channel := fun c => { s.channel c with unread := [], readable := false } }

/-- The next step of a `readLoop`. A read takes `size` bytes; `seen` says whether `ProcessState` is there when
the loop looks, two waits that race may leave it nil. -/
def readLoopStep (c : Source) (size : ℕ) (seen : Bool) : Option StreamState :=
  match (s.channel c).reader with
  | .idle | .done => none
  | .reading =>
      if (s.channel c).readable = false then some (s.setReader c .waiting)
      else if (s.channel c).unread ≠ [] then
        if 0 < size ∧ size ≤ bufferSize ∧ size ≤ (s.channel c).unread.length then
          some { s.put c ((s.channel c).take size) with
            sent := s.sent ++ [(c, .output req.streamId (encode ((s.channel c).unread.take size)))] }
        else none
      -- nothing to read: the loop blocks until the last write end is closed
      else if (s.channel c).writable then none
      else some (s.setReader c .waiting)
  | .waiting =>
      match s.process with
      | .exited code => some ((closePipes windows req s).setReader c (.closing (if seen then code else 0)))
      | .absent | .running _ => none
  | .closing code =>
      some { s.setReader c .deleting with sent := s.sent ++ [(c, .closed req.streamId code)] }
  | .deleting => some { s.setReader c .done with streams := JsSet.delete s.streams req.streamId }

inductive StreamOp where
  | starter (starts : Bool)
  | reader (c : Source) (size : ℕ) (seen : Bool)
  | write (c : Source) (bytes : List UInt8)
  /-- The last holder of a write end closes it: the process, its exit, or a process that inherited it. -/
  | closeEnd (c : Source)
  | exit (code : ℤ)
  /-- Another stream enters or leaves the registry. -/
  | other (streamId : String) (enters : Bool)
  deriving DecidableEq, Repr

def streamStep : StreamOp → Option StreamState
  | .starter starts => startStep windows req s starts
  | .reader c size seen => readLoopStep windows req s c size seen
  | .write c bytes =>
      match s.process with
      | .running _ =>
          if (s.channel (target windows req c)).writable then
            some (s.put (target windows req c) ((s.channel (target windows req c)).write bytes))
          else none
      | .absent | .exited _ => none
  | .closeEnd c =>
      if s.process = .absent then none
      else some (s.put (target windows req c) (s.channel (target windows req c)).close)
  | .exit code =>
      match s.process with
      | .running _ => some { s with process := .exited code }
      | .absent | .exited _ => none
  | .other streamId enters =>
      if streamId = req.streamId then none
      else some { s with
        streams := if enters then JsSet.add s.streams streamId else JsSet.delete s.streams streamId }

end Steps

/-- No start of the stream has begun; other streams, or an earlier one of this id, may be in the registry. -/
structure Fresh (s : StreamState) : Prop where
  starter : s.starter = .check
  process : s.process = .absent
  channel : s.channel = fun _ => .new
  sent : s.sent = []

def streamMachine (windows : Bool) (req : SectionRequest) : Machine StreamState StreamOp :=
  ⟨Fresh, streamStep windows req⟩

/-! ## What a stream is for -/

def Message.isClosed : Message → Bool
  | .output _ _ => false
  | .closed _ _ => true

def Message.bytes : Message → List UInt8
  | .output _ data => (decode data).getD []
  | .closed _ _ => []

def closes (sent : List (Source × Message)) : ℕ := sent.countP (·.2.isClosed)

/-- The messages before the first closed one. -/
def before (sent : List (Source × Message)) : List (Source × Message) := sent.takeWhile (!·.2.isClosed)

/-- The bytes of one pipe, in the order they were sent. -/
def collected (c : Source) (sent : List (Source × Message)) : List UInt8 :=
  (sent.filter (·.1 = c)).flatMap (·.2.bytes)

/-- The stream was delivered whole, was closed once, and can be opened again. -/
structure Delivered (req : SectionRequest) (s : StreamState) : Prop where
  once : closes s.sent = 1
  whole : ∀ c, collected c (before s.sent) = (s.channel c).written
  free : req.streamId ∉ s.streams

/-- The process has exited and nobody holds a write end of its pipes. -/
structure Ended (windows : Bool) (req : SectionRequest) (s : StreamState) : Prop where
  exited : ∃ code, s.process = .exited code
  unwritable : ∀ c, (s.channel (target windows req c)).writable = false

/-- The process has ended and every goroutine has returned. -/
structure Over (s : StreamState) : Prop where
  exited : ∃ code, s.process = .exited code
  starter : ∃ error, s.starter = .returned error
  readers : ∀ c, (s.channel c).reader = .idle ∨ (s.channel c).reader = .done

/-- A step of the agent itself. -/
def StreamOp.own : StreamOp → Bool
  | .starter _ | .reader _ _ _ => true
  | .write _ _ | .closeEnd _ | .exit _ | .other _ _ => false

/-- A process is only started on a terminal, and an entry is only deleted once it was inserted. -/
def KeepsStream (windows : Bool) (req : SectionRequest) (s : StreamState) : StreamOp → Prop
  | .starter starts => s.starter = .start ∧ starts = true → pty windows req = true
  | .reader c _ _ => (s.channel c).reader = .deleting → s.starter = .returned none
  | .write _ _ | .closeEnd _ | .exit _ | .other _ _ => True


/-! ## What a step can do -/

section Moves
variable (windows : Bool) (req : SectionRequest) (s : StreamState)

/-- The effects of a step, one constructor each. -/
inductive Moves : StreamOp → StreamState → Prop
  | refused {starts : Bool} (h : s.starter = .check) (hkey : req.streamId ∈ s.streams) :
      Moves (.starter starts) { s with starter := .returned (some .alreadyRunning) }
  | passed {starts : Bool} (h : s.starter = .check) (hkey : req.streamId ∉ s.streams) :
      Moves (.starter starts) { s with starter := .start }
  | started (h : s.starter = .start) : Moves (.starter true)
      { s with starter := .spawn, process := .running (shellCommand windows req.runtime req.command) }
  | failed (h : s.starter = .start) : Moves (.starter false) { s with starter := .returned (some .startFailed) }
  | spawned {starts : Bool} (h : s.starter = .spawn) : Moves (.starter starts)
      { s.setReader .stdout .reading with starter := if pty windows req then .insert else .spawnStderr }
  | spawnedStderr {starts : Bool} (h : s.starter = .spawnStderr) :
      Moves (.starter starts) { s.setReader .stderr .reading with starter := .insert }
  | inserted {starts : Bool} (h : s.starter = .insert) :
      Moves (.starter starts) { s with starter := .returned none, streams := JsSet.add s.streams req.streamId }
  | readFailed {c : Source} {size : ℕ} {seen : Bool} (h : (s.channel c).reader = .reading)
      (hreadable : (s.channel c).readable = false) : Moves (.reader c size seen) (s.setReader c .waiting)
  | read {c : Source} {size : ℕ} {seen : Bool} (h : (s.channel c).reader = .reading) (hpos : 0 < size)
      (hlen : size ≤ (s.channel c).unread.length) : Moves (.reader c size seen)
      { s.put c ((s.channel c).take size) with
        sent := s.sent ++ [(c, .output req.streamId (encode ((s.channel c).unread.take size)))] }
  | readEnd {c : Source} {size : ℕ} {seen : Bool} (h : (s.channel c).reader = .reading)
      (hunread : (s.channel c).unread = []) (hwritable : (s.channel c).writable = false) :
      Moves (.reader c size seen) (s.setReader c .waiting)
  | waited {c : Source} {size : ℕ} {seen : Bool} {code : ℤ} (h : (s.channel c).reader = .waiting)
      (hexited : s.process = .exited code) : Moves (.reader c size seen)
      ((closePipes windows req s).setReader c (.closing (if seen then code else 0)))
  | announced {c : Source} {size : ℕ} {seen : Bool} {code : ℤ} (h : (s.channel c).reader = .closing code) :
      Moves (.reader c size seen)
        { s.setReader c .deleting with sent := s.sent ++ [(c, .closed req.streamId code)] }
  | deleted {c : Source} {size : ℕ} {seen : Bool} (h : (s.channel c).reader = .deleting) :
      Moves (.reader c size seen)
        { s.setReader c .done with streams := JsSet.delete s.streams req.streamId }
  | wrote {c : Source} {bytes : List UInt8} {argv : List String} (hrunning : s.process = .running argv)
      (hwritable : (s.channel (target windows req c)).writable = true) : Moves (.write c bytes)
      (s.put (target windows req c) ((s.channel (target windows req c)).write bytes))
  | endClosed {c : Source} (h : s.process ≠ .absent) : Moves (.closeEnd c)
      (s.put (target windows req c) (s.channel (target windows req c)).close)
  | exited {code : ℤ} {argv : List String} (hrunning : s.process = .running argv) :
      Moves (.exit code) { s with process := .exited code }
  | other {streamId : String} {enters : Bool} {streams : List String} (hne : streamId ≠ req.streamId)
      (hmem : req.streamId ∈ streams ↔ req.streamId ∈ s.streams) :
      Moves (.other streamId enters) { s with streams := streams }

end Moves

section Cases
variable {windows : Bool} {req : SectionRequest} {s t : StreamState} {op : StreamOp}

theorem startStep_moves {starts : Bool} (h : startStep windows req s starts = some t) :
    Moves windows req s (.starter starts) t := by
  unfold startStep at h
  split at h
  case h_1 heq =>
    obtain rfl := Option.some.inj h
    by_cases hkey : req.streamId ∈ s.streams
    · rw [if_pos hkey]
      exact .refused heq hkey
    · rw [if_neg hkey]
      exact .passed heq hkey
  case h_2 heq =>
    cases starts with
    | true =>
        obtain rfl := Option.some.inj h
        exact .started heq
    | false =>
        obtain rfl := Option.some.inj h
        exact .failed heq
  case h_3 heq =>
    obtain rfl := Option.some.inj h
    exact .spawned heq
  case h_4 heq =>
    obtain rfl := Option.some.inj h
    exact .spawnedStderr heq
  case h_5 heq =>
    obtain rfl := Option.some.inj h
    exact .inserted heq
  case h_6 => cases h

theorem readLoopStep_moves {c : Source} {size : ℕ} {seen : Bool}
    (h : readLoopStep windows req s c size seen = some t) : Moves windows req s (.reader c size seen) t := by
  unfold readLoopStep at h
  split at h
  case h_1 | h_2 => cases h
  case h_3 heq =>
    split_ifs at h with hreadable hunread hsize hwritable
    · obtain rfl := Option.some.inj h
      exact .readFailed heq hreadable
    · obtain rfl := Option.some.inj h
      exact .read heq hsize.1 hsize.2.2
    · obtain rfl := Option.some.inj h
      exact .readEnd heq (not_not.1 hunread) (Bool.eq_false_iff.2 hwritable)
  case h_4 heq =>
    split at h
    case h_1 hexited =>
      obtain rfl := Option.some.inj h
      exact .waited heq hexited
    case h_2 | h_3 => cases h
  case h_5 heq =>
    obtain rfl := Option.some.inj h
    exact .announced heq
  case h_6 heq =>
    obtain rfl := Option.some.inj h
    exact .deleted heq

theorem step_moves (h : streamStep windows req s op = some t) : Moves windows req s op t := by
  cases op with
  | starter starts => exact startStep_moves h
  | reader c size seen => exact readLoopStep_moves h
  | write c bytes =>
      dsimp only [streamStep] at h
      split at h
      case h_1 argv hrunning =>
        split_ifs at h with hwritable
        obtain rfl := Option.some.inj h
        exact .wrote hrunning hwritable
      case h_2 | h_3 => cases h
  | closeEnd c =>
      dsimp only [streamStep] at h
      split_ifs at h with habsent
      obtain rfl := Option.some.inj h
      exact .endClosed habsent
  | exit code =>
      dsimp only [streamStep] at h
      split at h
      case h_1 argv hrunning =>
        obtain rfl := Option.some.inj h
        exact .exited hrunning
      case h_2 | h_3 => cases h
  | other streamId enters =>
      dsimp only [streamStep] at h
      split_ifs at h with hne henters
      · obtain rfl := Option.some.inj h
        exact .other hne (JsSet.mem_add.trans (or_iff_left (Ne.symm hne)))
      · obtain rfl := Option.some.inj h
        exact .other hne (JsSet.mem_delete.trans (and_iff_left (Ne.symm hne)))

end Cases

/-! ## Channels -/

section Channels
variable {s : StreamState} {c d : Source} {ch : Channel} {r : Reader}

@[simp] theorem put_self : (s.put c ch).channel c = ch := Function.update_self ..

theorem put_of_ne (h : d ≠ c) : (s.put c ch).channel d = s.channel d := Function.update_of_ne h ..

theorem setReader_reader (s : StreamState) (c : Source) (r : Reader) (d : Source) :
    ((s.setReader c r).channel d).reader = if d = c then r else (s.channel d).reader := by
  split_ifs with hd
  · rw [hd, StreamState.setReader, put_self]
  · rw [StreamState.setReader, put_of_ne hd]

/-- What `put` leaves as it was, a field of the channels at a time. -/
theorem put_field {β : Type} (f : Channel → β) (h : f ch = f (s.channel c)) (d : Source) :
    f ((s.put c ch).channel d) = f (s.channel d) := by
  by_cases hd : d = c
  · subst hd
    rw [put_self, h]
  · rw [put_of_ne hd]

theorem setReader_written (s : StreamState) (c : Source) (r : Reader) (d : Source) :
    ((s.setReader c r).channel d).written = (s.channel d).written := put_field Channel.written (by rfl) d

theorem setReader_unread (s : StreamState) (c : Source) (r : Reader) (d : Source) :
    ((s.setReader c r).channel d).unread = (s.channel d).unread := put_field Channel.unread (by rfl) d

theorem setReader_writable (s : StreamState) (c : Source) (r : Reader) (d : Source) :
    ((s.setReader c r).channel d).writable = (s.channel d).writable := put_field Channel.writable (by rfl) d

theorem setReader_readable (s : StreamState) (c : Source) (r : Reader) (d : Source) :
    ((s.setReader c r).channel d).readable = (s.channel d).readable := put_field Channel.readable (by rfl) d

theorem source_cases {P : Source → Prop} (hout : P .stdout) (herr : P .stderr) : ∀ c, P c
  | .stdout => hout
  | .stderr => herr

variable {windows : Bool} {req : SectionRequest}

@[simp] theorem closePipes_process : (closePipes windows req s).process = s.process := by
  unfold closePipes
  split_ifs <;> rfl

@[simp] theorem closePipes_starter : (closePipes windows req s).starter = s.starter := by
  unfold closePipes
  split_ifs <;> rfl

@[simp] theorem closePipes_sent : (closePipes windows req s).sent = s.sent := by
  unfold closePipes
  split_ifs <;> rfl

@[simp] theorem closePipes_reader : ((closePipes windows req s).channel c).reader = (s.channel c).reader := by
  unfold closePipes
  split_ifs <;> rfl

@[simp] theorem closePipes_writable :
    ((closePipes windows req s).channel c).writable = (s.channel c).writable := by
  unfold closePipes
  split_ifs <;> rfl

end Channels

/-! ## The phases of a stream -/

/-- The process has been started. -/
def Starter.started : Starter → Bool
  | .check | .start | .returned (some _) => false
  | .spawn | .spawnStderr | .insert | .returned none => true

/-- The goroutine that reads the channel has been started. -/
def Starter.spawned (pty : Bool) : Source → Starter → Bool
  | .stdout, .spawnStderr | .stdout, .insert | .stdout, .returned none => true
  | .stderr, .insert | .stderr, .returned none => !pty
  | _, _ => false

/-- The closed messages a reader has sent. -/
def Reader.announced : Reader → ℕ
  | .deleting | .done => 1
  | .idle | .reading | .waiting | .closing _ => 0

/-- How the start, the process, the readers and the closed messages go together. -/
structure Lawful (windows : Bool) (req : SectionRequest) (s : StreamState) : Prop where
  process : s.process = .absent ↔ s.starter.started = false
  readers : ∀ c, (s.channel c).reader = .idle ↔ s.starter.spawned (pty windows req) c = false
  counted : closes s.sent = (s.channel .stdout).reader.announced + (s.channel .stderr).reader.announced
  pipes : s.starter = .spawnStderr → pty windows req = false

section Phases
variable {windows : Bool} {req : SectionRequest} {s t : StreamState} {op : StreamOp}

theorem lawful_of_fresh (h : Fresh s) : Lawful windows req s where
  process := by simp [h.process, h.starter, Starter.started]
  readers c := by cases c <;> simp [h.channel, h.starter, Channel.new, Starter.spawned]
  counted := by simp [h.channel, h.sent, closes, Channel.new, Reader.announced]
  pipes hspawn := by simp [h.starter] at hspawn

theorem started_of_spawned {p : Bool} {starter : Starter} {c : Source} (h : starter.spawned p c = true) :
    starter.started = true := by
  cases starter with
  | returned e => cases e <;> cases c <;> first | rfl | cases h
  | check | start => cases c <;> cases h
  | spawn | spawnStderr | insert => rfl

theorem Lawful.started (h : Lawful windows req s) {c : Source} (hr : (s.channel c).reader ≠ .idle) :
    s.process ≠ .absent := by
  rw [Ne, h.readers c, Bool.not_eq_false] at hr
  rw [Ne, h.process, Bool.not_eq_false]
  exact started_of_spawned hr

/-- On a terminal only `stdout` is read. -/
theorem Lawful.stderr_idle (h : Lawful windows req s) (hpty : pty windows req = true) :
    (s.channel .stderr).reader = .idle := by
  rw [h.readers, hpty]
  cases s.starter with
  | returned e => cases e <;> rfl
  | check | start | spawn | spawnStderr | insert => rfl

/-- A reader that goes from one phase to another of the loop. -/
theorem Lawful.move (h : Lawful windows req s) {c : Source} {r : Reader}
    (hold : (s.channel c).reader ≠ .idle) (hnew : r ≠ .idle)
    (hprocess : t.process = s.process) (hstarter : t.starter = s.starter)
    (hreader : ∀ d, (t.channel d).reader = if d = c then r else (s.channel d).reader)
    (hsent : closes t.sent + (s.channel c).reader.announced = closes s.sent + r.announced) :
    Lawful windows req t where
  process := by rw [hprocess, hstarter, h.process]
  readers d := by
    rw [hreader, hstarter, ← h.readers]
    split_ifs with hd
    · subst hd
      exact iff_of_false hnew hold
    · rfl
  counted := by
    have hcounted := h.counted
    rw [hreader, hreader]
    cases c <;> simp only [if_true, reduceCtorEq, if_false] <;> omega
  pipes hspawn := h.pipes (hstarter.symm.trans hspawn)

theorem closes_append (sent : List (Source × Message)) (c : Source) (m : Message) :
    closes (sent ++ [(c, m)]) = closes sent + if m.isClosed then 1 else 0 := by
  rw [closes, List.countP_append, List.countP_singleton]
  rfl

/-- A start that goes on, with no goroutine begun. -/
theorem Lawful.goOn (h : Lawful windows req s) {next : Starter} {process : Process} {streams : List String}
    (hprocess : process = .absent ↔ next.started = false)
    (hspawned : ∀ c, next.spawned (pty windows req) c = s.starter.spawned (pty windows req) c)
    (hnext : next ≠ .spawnStderr) :
    Lawful windows req { s with starter := next, process := process, streams := streams } where
  process := hprocess
  readers c := (h.readers c).trans (by rw [hspawned])
  counted := h.counted
  pipes hspawn := absurd hspawn hnext

/-- A start that begins a goroutine. -/
theorem Lawful.spawn (h : Lawful windows req s) {next : Starter} {c : Source}
    (hstarted : s.starter.started = true) (hnext : next.started = true) (hidle : (s.channel c).reader = .idle)
    (hspawned : ∀ d, next.spawned (pty windows req) d = (d = c || s.starter.spawned (pty windows req) d))
    (hpipes : next = .spawnStderr → pty windows req = false) :
    Lawful windows req { s.setReader c .reading with starter := next } where
  process := by
    have hthere : s.process ≠ .absent := by rw [Ne, h.process, hstarted, Bool.not_eq_false]
    exact iff_of_false hthere (by rw [hnext]; decide)
  readers d := by
    show ((s.setReader c .reading).channel d).reader = .idle ↔ next.spawned (pty windows req) d = false
    rw [setReader_reader, hspawned]
    split_ifs with hd
    · simp [hd]
    · simpa [hd] using h.readers d
  counted := by
    have hcounted := h.counted
    show closes s.sent = ((s.setReader c .reading).channel .stdout).reader.announced +
      ((s.setReader c .reading).channel .stderr).reader.announced
    rw [setReader_reader, setReader_reader]
    cases c <;> rw [hidle] at hcounted <;> simpa [Reader.announced] using hcounted
  pipes := hpipes

theorem Lawful.put (h : Lawful windows req s) {c : Source} {channel : Channel}
    (hreader : channel.reader = (s.channel c).reader) : Lawful windows req (s.put c channel) where
  process := h.process
  readers d := by
    rw [put_field Channel.reader hreader]
    exact h.readers d
  counted := by
    rw [put_field Channel.reader hreader, put_field Channel.reader hreader]
    exact h.counted
  pipes := h.pipes

theorem Lawful.step (h : Lawful windows req s) (hm : Moves windows req s op t) : Lawful windows req t := by
  cases hm with
  | refused hstarter _ =>
      exact h.goOn (by rw [h.process, hstarter]; rfl) (by rw [hstarter]; intro c; cases c <;> rfl) (by simp)
  | passed hstarter _ =>
      exact h.goOn (by rw [h.process, hstarter]; rfl) (by rw [hstarter]; intro c; cases c <;> rfl) (by simp)
  | started hstarter =>
      exact h.goOn (by simp [Starter.started]) (by rw [hstarter]; intro c; cases c <;> rfl) (by simp)
  | failed hstarter =>
      exact h.goOn (by rw [h.process, hstarter]; rfl) (by rw [hstarter]; intro c; cases c <;> rfl) (by simp)
  | spawned hstarter =>
      refine h.spawn (by rw [hstarter]; rfl) ?_ ((h.readers _).2 (by rw [hstarter]; rfl)) (fun d => ?_) ?_
      · split_ifs <;> rfl
      · rw [hstarter]
        cases hpty : pty windows req <;> cases d <;> rfl
      · cases hpty : pty windows req <;> simp
  | spawnedStderr hstarter =>
      have hpty := h.pipes hstarter
      refine h.spawn (by rw [hstarter]; rfl) rfl ((h.readers _).2 (by rw [hstarter]; rfl)) (fun d => ?_) (by simp)
      rw [hstarter, hpty]
      cases d <;> rfl
  | inserted hstarter =>
      refine h.goOn ?_ (by rw [hstarter]; intro c; cases c <;> rfl) (by simp)
      rw [h.process, hstarter]
      rfl
  | readFailed hreader _ | readEnd hreader _ _ =>
      refine h.move (by rw [hreader]; simp) (by simp) rfl rfl (fun d => setReader_reader ..) ?_
      rw [hreader]
      rfl
  | @read c size seen hreader _ _ =>
      refine h.move (c := c) (r := .reading) (by rw [hreader]; simp) (by simp) rfl rfl (fun d => ?_) ?_
      · refine (put_field Channel.reader ?_ d).trans ?_
        · rfl
        · split_ifs with hd
          · rw [hd, hreader]
          · rfl
      · rw [hreader, closes_append]
        rfl
  | @waited c size seen code hreader _ =>
      refine h.move (r := .closing _) (by rw [hreader]; simp) (by simp) ?_ ?_
        (fun d => (setReader_reader ..).trans (by rw [closePipes_reader])) ?_
      · exact closePipes_process
      · exact closePipes_starter
      · rw [hreader]
        exact congrArg (closes · + 0) closePipes_sent
  | announced hreader =>
      refine h.move (by rw [hreader]; simp) (by simp) rfl rfl (fun d => setReader_reader ..) ?_
      rw [hreader, closes_append]
      rfl
  | deleted hreader =>
      refine h.move (by rw [hreader]; simp) (by simp) rfl rfl (fun d => setReader_reader ..) ?_
      rw [hreader]
      rfl
  | wrote _ _ | endClosed _ =>
      exact h.put rfl
  | exited hrunning =>
      have hthere := h.process
      rw [hrunning] at hthere
      exact ⟨by simpa using hthere, h.readers, h.counted, h.pipes⟩
  | other _ _ => exact ⟨h.process, h.readers, h.counted, h.pipes⟩

end Phases

end Obliance.Agent.CustomSection
