import Mathlib.Data.List.TakeWhile
import Obliance.Agent.CustomSection

/-!
# Which live section streams are delivered

* `Sound` : nothing is lost, kept by the steps that meet `KeepsStream`;
* `Spoilt` : a second closed message or an entry for good, left by any other step;
* `rank_lt`, `Ended.next` : once the process is gone the agent's own steps come to an end, with all goroutines
  returned;
* `delivers_once_iff` : a stream is delivered exactly when it has a terminal and its reader deletes the entry
  after the start has inserted it.
-/

namespace Obliance.Agent.CustomSection
open GuardedRun Base64

/-! ## Streams that lose nothing -/

/-- The loop has not come to the end of its channel. -/
def Reader.reads : Reader → Bool
  | .idle | .reading => true
  | .waiting | .closing _ | .deleting | .done => false

/-- What the guarded steps keep: every byte is sent or still to be read. -/
structure Sound (windows : Bool) (req : SectionRequest) (s : StreamState) : Prop where
  pty : s.process ≠ .absent → pty windows req = true
  kept : ∀ c, collected c (before s.sent) ++ (s.channel c).unread = (s.channel c).written
  readable : ∀ c, (s.channel c).readable = true
  drained : ∀ c, (s.channel c).reader.reads = false → (s.channel c).unread = [] ∧ (s.channel c).writable = false
  stderr : (s.channel .stderr).unread = []
  freed : (s.channel .stdout).reader = .done → s.starter = .returned none ∧ req.streamId ∉ s.streams

section Sound
variable {windows : Bool} {req : SectionRequest} {s t : StreamState} {op : StreamOp} {c : Source}

theorem collected_append (d : Source) (sent : List (Source × Message)) (m : Message) :
    collected d (sent ++ [(c, m)]) = collected d sent ++ if c = d then m.bytes else [] := by
  rw [collected, List.filter_append, List.flatMap_append, ← collected]
  by_cases hd : c = d <;> simp [hd]

theorem before_of_closes {sent : List (Source × Message)} (h : closes sent = 0) : before sent = sent := by
  refine List.takeWhile_eq_self_iff.2 fun m hm => ?_
  simpa using List.countP_eq_zero.1 h m hm

/-- Nothing after a closed message counts, and that message has no bytes. -/
theorem before_closed (sent : List (Source × Message)) (id : String) (code : ℤ) :
    before (sent ++ [(c, .closed id code)]) = before sent := by
  induction sent with
  | nil => rfl
  | cons m sent ih =>
      rw [before, before, List.cons_append, List.takeWhile_cons, List.takeWhile_cons]
      split_ifs
      · exact congrArg (m :: ·) ih
      · rfl

theorem sound_of_fresh (h : Fresh s) : Sound windows req s where
  pty hthere := absurd h.process hthere
  kept c := by simp [h.channel, h.sent, Channel.new, before, collected]
  readable c := by simp [h.channel, Channel.new]
  drained c hreads := by simp [h.channel, Channel.new, Reader.reads] at hreads
  stderr := by simp [h.channel, Channel.new]
  freed hdone := by simp [h.channel, Channel.new] at hdone

/-- A start that goes on. -/
theorem Sound.goOn (h : Sound windows req s) {next : Starter} {process : Process} {streams : List String}
    (hnot : s.starter ≠ .returned none) (hpty : process ≠ .absent → CustomSection.pty windows req = true) :
    Sound windows req { s with starter := next, process := process, streams := streams } :=
  ⟨hpty, h.kept, h.readable, h.drained, h.stderr, fun hdone => absurd (h.freed hdone).1 hnot⟩

/-- A reader that goes from one phase to another. -/
theorem Sound.setReader (h : Sound windows req s) {r : Reader} {starter : Starter}
    (hdrained : r.reads = false → (s.channel c).unread = [] ∧ (s.channel c).writable = false)
    {streams : List String} {sent : List (Source × Message)} (hsent : before sent = before s.sent)
    (hfreed : ((s.setReader c r).channel .stdout).reader = .done →
      starter = .returned none ∧ req.streamId ∉ streams) :
    Sound windows req { s.setReader c r with starter := starter, streams := streams, sent := sent } where
  pty := h.pty
  kept d := by
    show collected d (before sent) ++ ((s.setReader c r).channel d).unread = ((s.setReader c r).channel d).written
    rw [hsent, setReader_unread, setReader_written]
    exact h.kept d
  readable d := (setReader_readable s c r d).trans (h.readable d)
  drained d hreads := by
    show ((s.setReader c r).channel d).unread = [] ∧ ((s.setReader c r).channel d).writable = false
    rw [setReader_unread, setReader_writable]
    have hreader := setReader_reader s c r d
    by_cases hd : d = c
    · subst hd
      rw [if_pos rfl] at hreader
      exact hdrained (hreader ▸ hreads)
    · rw [if_neg hd] at hreader
      exact h.drained d (hreader ▸ hreads)
  stderr := (setReader_unread s c r .stderr).trans h.stderr
  freed := hfreed

/-- A loop that is not at its end: the entry of a finished stream is as it was. -/
theorem Sound.freed_of_ne (h : Sound windows req s) {r : Reader} (hr : r ≠ .done)
    (hdone : ((s.setReader c r).channel .stdout).reader = .done) :
    s.starter = .returned none ∧ req.streamId ∉ s.streams := by
  rw [setReader_reader] at hdone
  split_ifs at hdone with hd
  · exact absurd hdone hr
  · exact h.freed hdone

/-- On a terminal only `stdout` is read. -/
theorem Sound.stdout (h : Sound windows req s) (hlawful : Lawful windows req s)
    (hr : (s.channel c).reader ≠ .idle) : c = .stdout := by
  have hpty := h.pty (hlawful.started hr)
  cases c with
  | stdout => rfl
  | stderr => exact absurd (hlawful.stderr_idle hpty) hr

theorem Sound.read (h : Sound windows req s) (hlawful : Lawful windows req s)
    (hreader : (s.channel c).reader = .reading) (size : ℕ) : Sound windows req
      { s.put c ((s.channel c).take size) with
        sent := s.sent ++ [(c, .output req.streamId (encode ((s.channel c).unread.take size)))] } := by
  have hr : (s.channel c).reader ≠ .idle := by simp [hreader]
  obtain rfl := h.stdout hlawful hr
  have hidle := hlawful.stderr_idle (h.pty (hlawful.started hr))
  have hzero : closes s.sent = 0 := by rw [hlawful.counted, hreader, hidle]; rfl
  have hone : before (s.sent ++ [(.stdout, .output req.streamId (encode ((s.channel .stdout).unread.take size)))]) =
      s.sent ++ [(.stdout, .output req.streamId (encode ((s.channel .stdout).unread.take size)))] :=
    before_of_closes (by rw [closes_append, hzero]; rfl)
  have hout : (s.put .stdout ((s.channel .stdout).take size)).channel .stdout = (s.channel .stdout).take size :=
    put_self
  have herr : (s.put .stdout ((s.channel .stdout).take size)).channel .stderr = s.channel .stderr :=
    put_of_ne (by decide)
  refine ⟨h.pty, source_cases ?_ ?_, source_cases ?_ ?_, source_cases ?_ ?_, ?_, fun hdone => ?_⟩
  · have hkept := h.kept .stdout
    rw [before_of_closes hzero] at hkept
    dsimp only
    rw [hone, hout, collected_append, if_pos rfl, Message.bytes, decode_encode, Option.getD_some,
      List.append_assoc, Channel.take, List.take_append_drop]
    exact hkept
  · have hkept := h.kept .stderr
    rw [before_of_closes hzero] at hkept
    dsimp only
    rw [hone, herr, collected_append, if_neg (by decide), List.append_nil]
    exact hkept
  · exact (congrArg Channel.readable hout).trans (h.readable .stdout)
  · exact (congrArg Channel.readable herr).trans (h.readable .stderr)
  · intro hreads
    dsimp only at hreads
    rw [hout, Channel.take, hreader] at hreads
    cases hreads
  · dsimp only
    rw [herr]
    exact h.drained .stderr
  · exact (congrArg Channel.unread herr).trans h.stderr
  · dsimp only at hdone
    rw [hout, Channel.take, hreader] at hdone
    cases hdone

theorem Sound.write (h : Sound windows req s) {argv : List String} (hrunning : s.process = .running argv)
    (hwritable : (s.channel (target windows req c)).writable = true) (bytes : List UInt8) :
    Sound windows req (s.put (target windows req c) ((s.channel (target windows req c)).write bytes)) := by
  have htarget : target windows req c = .stdout := if_pos (h.pty (by rw [hrunning]; simp))
  rw [htarget] at hwritable ⊢
  have hout : (s.put .stdout ((s.channel .stdout).write bytes)).channel .stdout = (s.channel .stdout).write bytes :=
    put_self
  have herr : (s.put .stdout ((s.channel .stdout).write bytes)).channel .stderr = s.channel .stderr :=
    put_of_ne (by decide)
  refine ⟨h.pty, source_cases ?_ ?_, source_cases ?_ ?_, source_cases ?_ ?_, ?_, fun hdone => ?_⟩
  · rw [hout, Channel.write, ← h.kept .stdout]
    exact (List.append_assoc ..).symm
  · rw [herr]
    exact h.kept .stderr
  · rw [hout]
    exact h.readable .stdout
  · rw [herr]
    exact h.readable .stderr
  · intro hreads
    rw [hout] at hreads
    rw [(h.drained .stdout hreads).2] at hwritable
    cases hwritable
  · rw [herr]
    exact h.drained .stderr
  · rw [herr]
    exact h.stderr
  · rw [hout] at hdone
    exact h.freed hdone

theorem Sound.close (h : Sound windows req s) (c : Source) : Sound windows req (s.put c (s.channel c).close) where
  pty := h.pty
  kept d := by
    rw [put_field Channel.unread (by rfl), put_field Channel.written (by rfl)]
    exact h.kept d
  readable d := (put_field Channel.readable (by rfl) d).trans (h.readable d)
  drained d hreads := by
    rw [put_field Channel.reader (by rfl)] at hreads
    obtain ⟨hunread, hwritable⟩ := h.drained d hreads
    refine ⟨(put_field Channel.unread (by rfl) d).trans hunread, ?_⟩
    by_cases hd : d = c
    · rw [hd, put_self]
      rfl
    · rw [put_of_ne hd, hwritable]
  stderr := (put_field Channel.unread (by rfl) _).trans h.stderr
  freed hdone := h.freed ((put_field Channel.reader (by rfl) _).symm.trans hdone)

theorem Sound.step (h : Sound windows req s) (hlawful : Lawful windows req s) (hok : KeepsStream windows req s op)
    (hm : Moves windows req s op t) : Sound windows req t := by
  cases hm with
  | refused hstarter _ | passed hstarter _ | failed hstarter =>
      exact h.goOn (by rw [hstarter]; simp) h.pty
  | inserted hstarter => exact h.goOn (by rw [hstarter]; simp) h.pty
  | started hstarter => exact h.goOn (by rw [hstarter]; simp) fun _ => hok ⟨hstarter, rfl⟩
  | spawned hstarter =>
      refine h.setReader (by simp [Reader.reads]) rfl fun hdone => ?_
      exact absurd (h.freed_of_ne (by simp) hdone).1 (by rw [hstarter]; simp)
  | spawnedStderr hstarter =>
      refine h.setReader (by simp [Reader.reads]) rfl fun hdone => ?_
      exact absurd (h.freed_of_ne (by simp) hdone).1 (by rw [hstarter]; simp)
  | readFailed _ hreadable =>
      rw [h.readable] at hreadable
      cases hreadable
  | @read c size seen hreader _ _ => exact h.read hlawful hreader size
  | readEnd hreader hunread hwritable =>
      exact h.setReader (fun _ => ⟨hunread, hwritable⟩) rfl (h.freed_of_ne (by simp))
  | @waited c size seen code hreader _ =>
      have hpty := h.pty (hlawful.started (c := c) (by rw [hreader]; simp))
      rw [closePipes, if_pos hpty]
      exact h.setReader (fun _ => h.drained _ (by rw [hreader]; rfl)) rfl (h.freed_of_ne (by simp))
  | @announced c size seen code hreader =>
      exact h.setReader (fun _ => h.drained _ (by rw [hreader]; rfl)) (before_closed ..) (h.freed_of_ne (by simp))
  | @deleted c size seen hreader =>
      refine h.setReader (fun _ => h.drained _ (by rw [hreader]; rfl)) rfl fun _ => ⟨hok hreader, ?_⟩
      exact fun hmem => (JsSet.mem_delete.1 hmem).2 rfl
  | wrote hrunning hwritable => exact h.write hrunning hwritable _
  | endClosed _ => exact h.close _
  | exited hrunning =>
      exact ⟨fun _ => h.pty (by rw [hrunning]; simp), h.kept, h.readable, h.drained, h.stderr, h.freed⟩
  | other _ hmem =>
      refine ⟨h.pty, h.kept, h.readable, h.drained, h.stderr, fun hdone => ?_⟩
      obtain ⟨hstarter, hgone⟩ := h.freed hdone
      exact ⟨hstarter, fun hin => hgone (hmem.1 hin)⟩

/-- The start of a stream whose process has run, once it is over. -/
theorem Lawful.returned (h : Lawful windows req s) (hover : Over s) : s.starter = .returned none := by
  obtain ⟨code, hexited⟩ := hover.exited
  obtain ⟨error, hreturned⟩ := hover.starter
  have hstarted : ¬ s.starter.started = false := by rw [← h.process, hexited]; simp
  rw [hreturned] at hstarted ⊢
  cases error with
  | none => rfl
  | some e => exact absurd rfl hstarted

theorem Lawful.done (h : Lawful windows req s) (hover : Over s) {c : Source}
    (hspawned : Starter.spawned (pty windows req) c (.returned none) = true) : (s.channel c).reader = .done := by
  refine (hover.readers c).resolve_left ?_
  rw [h.readers c, h.returned hover, hspawned]
  decide

theorem Sound.delivered (h : Sound windows req s) (hlawful : Lawful windows req s) (hover : Over s) :
    Delivered req s := by
  have hdone : (s.channel .stdout).reader = .done := hlawful.done hover rfl
  have hidle := hlawful.stderr_idle (h.pty (hlawful.started (c := .stdout) (by rw [hdone]; simp)))
  refine ⟨?_, source_cases ?_ ?_, (h.freed hdone).2⟩
  · rw [hlawful.counted, hdone, hidle]
    rfl
  · rw [← h.kept .stdout, (h.drained .stdout (by rw [hdone]; rfl)).1, List.append_nil]
  · rw [← h.kept .stderr, h.stderr, List.append_nil]

end Sound

/-! ## Streams that are spoilt -/

/-- Two readers will announce the end, or the entry is there for good. -/
def Spoilt (windows : Bool) (req : SectionRequest) (s : StreamState) : Prop :=
  pty windows req = false ∧ s.process ≠ .absent ∨
    (s.channel .stdout).reader = .done ∧ (s.starter = .returned none → req.streamId ∈ s.streams)

section Spoilt
variable {windows : Bool} {req : SectionRequest} {s t : StreamState} {op : StreamOp} {c : Source}

/-- A step that breaks the rule spoils the stream. -/
theorem spoilt_of_not_keeps (h : Lawful windows req s) (hno : ¬ KeepsStream windows req s op)
    (hm : Moves windows req s op t) : Spoilt windows req t := by
  cases op with
  | starter starts =>
      obtain ⟨⟨hstarter, rfl⟩, hpty⟩ := Classical.not_imp.1 hno
      cases hm with
      | started _ => exact .inl ⟨Bool.eq_false_iff.2 hpty, by simp⟩
      | refused hs _ | passed hs _ | spawned hs | spawnedStderr hs | inserted hs =>
          rw [hstarter] at hs
          cases hs
  | reader c size seen =>
      obtain ⟨hreader, hstarter⟩ := Classical.not_imp.1 hno
      have hr : (s.channel c).reader ≠ .idle := by rw [hreader]; simp
      cases hm with
      | deleted _ =>
          cases hpty : pty windows req with
          | false => exact .inl ⟨hpty, h.started hr⟩
          | true =>
              cases c with
              | stdout => exact .inr ⟨by rw [setReader_reader, if_pos rfl], fun hs => absurd hs hstarter⟩
              | stderr => exact absurd (h.stderr_idle hpty) hr
      | readFailed hs _ | read hs _ _ | readEnd hs _ _ | waited hs _ | announced hs =>
          rw [hreader] at hs
          cases hs
  | write c bytes | closeEnd c | exit code | other id enters => exact absurd trivial hno

theorem process_step (hm : Moves windows req s op t) (h : s.process ≠ .absent) : t.process ≠ .absent := by
  cases hm with
  | waited _ _ =>
      show (closePipes windows req s).process ≠ .absent
      rwa [closePipes_process]
  | started _ | exited _ => simp
  | refused _ _ | passed _ _ | failed _ | spawned _ | spawnedStderr _ | inserted _ | readFailed _ _ | read _ _ _
  | readEnd _ _ _ | announced _ | deleted _ | wrote _ _ | endClosed _ | other _ _ => exact h

/-- A reader that has returned does no step, and only the reader of a terminal could delete the entry again. -/
theorem Lawful.not_reads (h : Lawful windows req s) (hpty : pty windows req = true)
    (hdone : (s.channel .stdout).reader = .done) {r : Reader} (hr : (s.channel c).reader = r) (hidle : r ≠ .idle) :
    r = .done := by
  cases c with
  | stdout => exact hr.symm.trans hdone
  | stderr => exact absurd (hr.symm.trans (h.stderr_idle hpty)) hidle

theorem Spoilt.step (h : Spoilt windows req s) (hlawful : Lawful windows req s) (hm : Moves windows req s op t) :
    Spoilt windows req t := by
  rcases h with ⟨hpty, hthere⟩ | ⟨hdone, hentry⟩
  · exact .inl ⟨hpty, process_step hm hthere⟩
  have hthere : s.process ≠ .absent := hlawful.started (c := .stdout) (by rw [hdone]; simp)
  cases hpty : pty windows req with
  | false => exact .inl ⟨hpty, process_step hm hthere⟩
  | true =>
      refine .inr ?_
      cases hm with
      | refused _ _ | passed _ _ | started _ | failed _ => exact ⟨hdone, fun hs => by cases hs⟩
      | spawned hstarter =>
          have hidle := (hlawful.readers .stdout).2 (by rw [hstarter]; rfl)
          rw [hdone] at hidle
          cases hidle
      | spawnedStderr hstarter =>
          have hpipes := hlawful.pipes hstarter
          rw [hpty] at hpipes
          cases hpipes
      | inserted _ => exact ⟨hdone, fun _ => JsSet.mem_add.2 (.inr rfl)⟩
      | readFailed hr _ | read hr _ _ | readEnd hr _ _ | waited hr _ | announced hr | deleted hr =>
          cases hlawful.not_reads hpty hdone hr (by simp)
      | wrote _ _ | endClosed _ => exact ⟨(put_field Channel.reader (by rfl) _).trans hdone, hentry⟩
      | exited _ => exact ⟨hdone, hentry⟩
      | other _ hmem => exact ⟨hdone, fun hs => hmem.2 (hentry hs)⟩

theorem Spoilt.not_delivered (h : Spoilt windows req s) (hlawful : Lawful windows req s) (hover : Over s) :
    ¬ Delivered req s := by
  intro hall
  rcases h with ⟨hpty, -⟩ | ⟨-, hentry⟩
  · have honce := hall.once
    rw [hlawful.counted, hlawful.done hover (c := .stdout) rfl, hlawful.done hover (c := .stderr) (by rw [hpty]; rfl)]
      at honce
    cases honce
  · exact hall.free (hentry (hlawful.returned hover))

end Spoilt

/-! ## Every stream comes to its end -/

def Starter.rank : Starter → ℕ
  | .check => 5
  | .start => 4
  | .spawn => 3
  | .spawnStderr => 2
  | .insert => 1
  | .returned _ => 0

def Reader.rank : Reader → ℕ
  | .idle => 5
  | .reading => 4
  | .waiting => 3
  | .closing _ => 2
  | .deleting => 1
  | .done => 0

def Channel.rank (ch : Channel) : ℕ := ch.reader.rank + ch.unread.length

/-- The steps of the agent that are left, if nothing more is written. -/
def rank (s : StreamState) : ℕ := s.starter.rank + (s.channel .stdout).rank + (s.channel .stderr).rank

section Rank
variable {windows : Bool} {req : SectionRequest} {s t : StreamState} {op : StreamOp} {c : Source}

theorem rank_put (ch : Channel) : rank (s.put c ch) + (s.channel c).rank = rank s + ch.rank := by
  cases c with
  | stdout =>
      rw [rank, put_self, put_of_ne (by decide), rank]
      show s.starter.rank + ch.rank + (s.channel .stderr).rank + _ = _
      omega
  | stderr =>
      rw [rank, put_self, put_of_ne (by decide), rank]
      show s.starter.rank + (s.channel .stdout).rank + ch.rank + _ = _
      omega

theorem rank_setReader (s : StreamState) (c : Source) (r : Reader) :
    rank (s.setReader c r) + (s.channel c).reader.rank = rank s + r.rank := by
  have hput : rank (s.setReader c r) + (s.channel c).rank =
      rank s + Channel.rank { s.channel c with reader := r } := rank_put _
  simp only [Channel.rank] at hput
  omega

theorem rank_starter_lt {next : Starter} (h : next.rank < s.starter.rank) :
    rank { s with starter := next } < rank s := by
  simp only [rank]
  omega

theorem rank_closePipes_le : rank (closePipes windows req s) ≤ rank s := by
  unfold closePipes
  split_ifs
  · exact Nat.le_refl _
  · simp only [rank, Channel.rank, List.length_nil]
    omega

/-- A reader that goes on to a later phase. -/
theorem rank_setReader_lt {r : Reader} (h : r.rank < (s.channel c).reader.rank) : rank (s.setReader c r) < rank s := by
  have hrank := rank_setReader s c r
  omega

theorem rank_lt (hlawful : Lawful windows req s) (hown : op.own = true) (hm : Moves windows req s op t) :
    rank t < rank s := by
  cases hm with
  | refused hs _ | passed hs _ | started hs | failed hs | inserted hs =>
      simp only [rank, hs, Starter.rank]
      omega
  | spawned hs =>
      have hidle := (hlawful.readers .stdout).2 (by rw [hs]; rfl)
      refine Nat.lt_trans (rank_starter_lt (s := s.setReader .stdout .reading) ?_)
        (rank_setReader_lt (by rw [hidle]; decide))
      show _ < s.starter.rank
      rw [hs]
      split_ifs <;> decide
  | spawnedStderr hs =>
      have hidle := (hlawful.readers .stderr).2 (by rw [hs]; rfl)
      refine Nat.lt_trans (rank_starter_lt (s := s.setReader .stderr .reading) ?_)
        (rank_setReader_lt (by rw [hidle]; decide))
      show _ < s.starter.rank
      rw [hs]
      decide
  | readFailed hr _ | readEnd hr _ _ => exact rank_setReader_lt (by rw [hr]; decide)
  | @read c size seen hr hpos hlen =>
      have hput : rank (s.put c ((s.channel c).take size)) + (s.channel c).rank =
          rank s + ((s.channel c).take size).rank := rank_put _
      have htake : ((s.channel c).take size).rank + size = (s.channel c).rank := by
        simp only [Channel.rank, Channel.take, List.length_drop]
        omega
      show rank (s.put c ((s.channel c).take size)) < rank s
      omega
  | @waited c size seen code hr _ =>
      have hle : rank (closePipes windows req s) ≤ rank s := rank_closePipes_le
      have hlt : rank ((closePipes windows req s).setReader c (.closing (if seen then code else 0))) <
          rank (closePipes windows req s) := rank_setReader_lt (by rw [closePipes_reader, hr]; show 2 < 3; decide)
      omega
  | @announced c size seen code hr =>
      show rank (s.setReader c .deleting) < rank s
      exact rank_setReader_lt (by rw [hr]; show 1 < 2; decide)
  | @deleted c size seen hr =>
      show rank (s.setReader c .done) < rank s
      exact rank_setReader_lt (by rw [hr]; decide)
  | wrote _ _ | endClosed _ | exited _ | other _ _ => cases hown

/-- The agent's own steps open nothing again and leave an exited process alone. -/
theorem Ended.step (h : Ended windows req s) (hlawful : Lawful windows req s) (hown : op.own = true)
    (hm : Moves windows req s op t) : Ended windows req t := by
  obtain ⟨code, hexited⟩ := h.exited
  cases hm with
  | refused _ _ | passed _ _ | failed _ | inserted _ => exact ⟨⟨code, hexited⟩, h.unwritable⟩
  | started hs =>
      have hprocess := hlawful.process.2 (by rw [hs]; rfl)
      rw [hexited] at hprocess
      cases hprocess
  | spawned _ | spawnedStderr _ | readFailed _ _ | readEnd _ _ _ | announced _ | deleted _ =>
      exact ⟨⟨code, hexited⟩, fun d => (setReader_writable ..).trans (h.unwritable d)⟩
  | read _ _ _ => exact ⟨⟨code, hexited⟩, fun d => (put_field Channel.writable (by rfl) _).trans (h.unwritable d)⟩
  | waited _ _ =>
      refine ⟨⟨code, ?_⟩, fun d => ?_⟩
      · exact closePipes_process.trans hexited
      · exact (setReader_writable ..).trans (closePipes_writable.trans (h.unwritable d))
  | wrote _ _ | endClosed _ | exited _ | other _ _ => cases hown

/-- Until everything has returned, some goroutine can do a step. -/
theorem Ended.next (h : Ended windows req s) (hlawful : Lawful windows req s) :
    Over s ∨ ∃ op, op.own = true ∧ (streamStep windows req s op).isSome := by
  obtain ⟨code, hexited⟩ := h.exited
  by_cases hover : Over s
  · exact .inl hover
  refine .inr ?_
  by_cases hstarter : ∃ error, s.starter = .returned error
  · have hreader : ∃ c, (s.channel c).reader ≠ .idle ∧ (s.channel c).reader ≠ .done := by
      by_contra hnone
      refine hover ⟨⟨code, hexited⟩, hstarter, fun c => ?_⟩
      by_contra hc
      exact hnone ⟨c, not_or.1 hc⟩
    obtain ⟨c, hidle, hdone⟩ := hreader
    refine ⟨.reader c 1 true, rfl, ?_⟩
    have htarget : target windows req c = c := by
      cases c with
      | stdout => exact ite_self _
      | stderr =>
          refine if_neg fun hpty => hidle (hlawful.stderr_idle hpty)
    have hwritable := h.unwritable c
    rw [htarget] at hwritable
    show (readLoopStep windows req s c 1 true).isSome
    unfold readLoopStep
    split
    case h_1 hr => exact absurd hr hidle
    case h_2 hr => exact absurd hr hdone
    case h_3 =>
      split_ifs with hreadable hunread hsize hopen
      · rfl
      · rfl
      · exact absurd ⟨Nat.one_pos, by decide, List.length_pos_iff.2 hunread⟩ hsize
      · rw [hwritable] at hopen
        cases hopen
      · rfl
    case h_4 => rw [hexited]; rfl
    case h_5 | h_6 => rfl
  · refine ⟨.starter true, rfl, ?_⟩
    show (startStep windows req s true).isSome
    unfold startStep
    split
    case h_6 error hs => exact absurd ⟨error, hs⟩ hstarter
    all_goals rfl

end Rank

/-- The agent's own steps come to an end, and before that one can always be done. -/
def Returns (windows : Bool) (req : SectionRequest) (s : StreamState) : Prop :=
  ∀ more t, (∀ op ∈ more, op.own = true) → (streamMachine windows req).exec s more = some t →
    more.length ≤ rank s ∧ (Over t ∨ ∃ op, op.own = true ∧ (streamStep windows req t op).isSome)

theorem Ended.returns {windows : Bool} {req : SectionRequest} {s : StreamState} (h : Ended windows req s)
    (hlawful : Lawful windows req s) : Returns windows req s := by
  intro more t hown ht
  have hlength := Machine.length_add_le (M := streamMachine windows req) (I := Lawful windows req) rank
    (fun u op v hu hstep => hu.step (step_moves hstep)) (fun u op v hu hop hstep => rank_lt hu hop (step_moves hstep))
    hlawful hown ht
  have hboth : Lawful windows req t ∧ Ended windows req t :=
    Machine.exec_of_admits (I := fun u => Lawful windows req u ∧ Ended windows req u)
      (fun u op v hu (hop : op.own = true) hstep =>
        ⟨hu.1.step (step_moves hstep), hu.2.step hu.1 hop (step_moves hstep)⟩)
      ⟨hlawful, h⟩ (Machine.admits_of_forall hown) ht
  exact ⟨Nat.le_of_add_right_le hlength, hboth.2.next hboth.1⟩

/-! ## The streams that are delivered -/

/-- **A stream is delivered whole and closed once** exactly when it runs on a terminal and its entry is deleted
after it was inserted; whatever the order, it comes to its end. -/
theorem delivers_once_iff (windows : Bool) (req : SectionRequest) {s t : StreamState} (hs : Fresh s)
    (ops : List StreamOp) (ht : (streamMachine windows req).exec s ops = some t) :
    (Over t → (Delivered req t ↔ (streamMachine windows req).Admits (KeepsStream windows req) s ops)) ∧
      (Ended windows req t → Returns windows req t) := by
  have hlawful : Lawful windows req t :=
    Machine.exec_of_admits (fun u op v hu (_ : anyStep u op) hstep => hu.step (step_moves hstep)) (lawful_of_fresh hs)
      (admits_anyStep _ ops s) ht
  refine ⟨fun hover => ⟨fun hdelivered => ?_, fun hkeeps => ?_⟩, fun hended => hended.returns hlawful⟩
  · refine (Machine.admits_or (B := Spoilt windows req) (fun u op v hu hstep => hu.step (step_moves hstep))
      (fun u op v hu hno hstep => spoilt_of_not_keeps hu hno (step_moves hstep))
      (fun u op v hu hspoilt hstep => hspoilt.step hu (step_moves hstep)) (lawful_of_fresh hs) ht).resolve_right ?_
    exact fun hspoilt => hspoilt.not_delivered hlawful hover hdelivered
  · have hboth : Lawful windows req t ∧ Sound windows req t :=
      Machine.exec_of_admits (I := fun u => Lawful windows req u ∧ Sound windows req u)
        (fun u op v hu hok hstep => ⟨hu.1.step (step_moves hstep), hu.2.step hu.1 hok (step_moves hstep)⟩)
        ⟨lawful_of_fresh hs, sound_of_fresh hs⟩ hkeeps ht
    exact hboth.2.delivered hlawful hover

instance decidableKeepsStream (windows : Bool) (req : SectionRequest) (s : StreamState) :
    ∀ op, Decidable (KeepsStream windows req s op)
  | .starter starts => inferInstanceAs (Decidable (s.starter = .start ∧ starts = true → pty windows req = true))
  | .reader c _ _ => inferInstanceAs (Decidable ((s.channel c).reader = .deleting → s.starter = .returned none))
  | .write _ _ | .closeEnd _ | .exit _ | .other _ _ => .isTrue trivial

def newStream : StreamState := ⟨.check, .absent, fun _ => .new, [], []⟩

theorem fresh_newStream : Fresh newStream := ⟨rfl, rfl, rfl, rfl⟩

/-- A process that writes two bytes and exits; its reader comes last. -/
def terminalRun : List StreamOp :=
  List.replicate 4 (.starter true) ++ [.write .stdout [104, 105], .exit 0, .closeEnd .stdout] ++
    List.replicate 5 (.reader .stdout 2 true)

theorem delivers_once_terminal : ∃ t, (streamMachine false ⟨"s1", "top", "bash", true⟩).exec newStream terminalRun = some t ∧
    Delivered ⟨"s1", "top", "bash", true⟩ t := by
  have hruns : ((streamMachine false ⟨"s1", "top", "bash", true⟩).exec newStream terminalRun).isSome = true := rfl
  obtain ⟨t, ht⟩ := Option.isSome_iff_exists.1 hruns
  refine ⟨t, ht, ?_⟩
  refine ((delivers_once_iff false ⟨"s1", "top", "bash", true⟩ fresh_newStream terminalRun ht).1 ?_).2 ?_
  · obtain rfl := Option.some.inj ht
    exact ⟨⟨0, rfl⟩, ⟨none, rfl⟩, source_cases (.inr rfl) (.inl rfl)⟩
  · decide +kernel

/-- The reader of `stdout` is at its end before the other has read what is in `stderr`. -/
def pipeRun : List StreamOp :=
  List.replicate 5 (.starter true) ++ [.write .stderr [120], .exit 0, .closeEnd .stdout, .closeEnd .stderr] ++
    List.replicate 4 (.reader .stdout 1 true) ++ List.replicate 4 (.reader .stderr 1 true)

theorem pipes_close_twice : ¬ ∀ windows req s t ops, Fresh s → (streamMachine windows req).exec s ops = some t →
    Over t → Delivered req t := by
  intro hall
  have hdelivered := hall false ⟨"s1", "make", "bash", false⟩ newStream _ pipeRun fresh_newStream rfl
    ⟨⟨0, rfl⟩, ⟨none, rfl⟩, source_cases (.inr rfl) (.inr rfl)⟩
  exact absurd hdelivered.once (by decide)

end Obliance.Agent.CustomSection
