import Mathlib.Data.List.Induction
import Obliance.Commands.Acks

/-!
# Acks of one device and the commands of the others

* `Foreign` : what another device owns, or what is attached to a command of another device and to none
  of the acking device;
* `tunnelRead` : the session of the row an ack reads, a row of the database or one made from an ack;
* `Crosses` : a terminal ack that names a command of another device with a waiter, a probe, a linked
  execution or a scenario step or node to resume, or one that fails a tunnel of another device's session;
* `SameElsewhere` : what a list of acks keeps while none of them crosses;
* `processAcks_isolated_iff` : a list of acks touches nothing foreign exactly when none crosses;
* `isolated_unchanged` : then the rows and waiters of the other devices are as they were.
-/

namespace Obliance.Commands
open KeyedTable

/-- The command a touched thing belongs to: its own, or the one its execution or run was created for. -/
def AttachedTo : Touch → CommandRow → Prop
  | .waiter id, c => c.id = id
  | .command id, c => c.id = id
  | .execution id, c => c.sourceType = some .scriptExecution ∧ c.sourceId = some id
  | .stepRun id, c => (∃ suffix, c.sourceType = some (.scenarioStep suffix)) ∧ c.sourceId = some id
  | .nodeRun id, c => c.sourceType = some .scenarioNode ∧ c.sourceId = some id
  | .session .., _ => False
  | .update .., _ => False

/-- The `device_id` of a remote session or an update row. -/
def Touch.deviceId : Touch → Option ℕ
  | .session dev _ => some dev
  | .update dev _ => some dev
  | _ => none

/-- It belongs to another device: a session or an update row by its column, the rest by the commands it
is attached to, none of them the acking device's. -/
def Foreign (db : AckDb) (deviceId : ℕ) (t : Touch) : Prop :=
  (∃ dev, t.deviceId = some dev ∧ dev ≠ deviceId) ∨
    ((∃ c ∈ db.commands, c.deviceId ≠ deviceId ∧ AttachedTo t c) ∧
      ∀ c ∈ db.commands, c.deviceId = deviceId → ¬ AttachedTo t c)

/-! ## The session of a row -/

/-- The session whose tunnel the row opens. -/
def CommandRow.tunnel (r : CommandRow) : Option String :=
  if r.type = .openRemoteTunnel then r.payload.sessionToken.filter (· ≠ "") else none

def CommandRow.isProbe (r : CommandRow) : Bool := decide (r.sourceType = some .diskHealthProbe)

/-- A terminal ack under the id. -/
def Ack.answers (a : Ack) (id : ℕ) : Bool :=
  match a.commandId with
  | .uuid id' _ => a.status.isTerminal && decide (id' = id)
  | .other _ => false

/-- A command the agent started by itself is kept if its type is. -/
def Ack.makesRow (a : Ack) : Bool := a.commandType.any fun type => decide (type ∉ noisyEphemeral)

/-- The session a row made from the ack is for: its result is the payload. -/
def Ack.tunnel (a : Ack) : Option String :=
  if a.commandType = some .openRemoteTunnel then
    ((a.result.map CommandResult.fields).getD .empty).sessionToken.filter (· ≠ "")
  else none

/-- The row made from the first of the answers that makes one: its session, and that it is no probe. -/
def madeRow (answers : List Ack) : Option (Option String × Bool) :=
  (answers.find? Ack.makesRow).map fun a => (a.tunnel, false)

/-- The row under an id once it has been answered: its session and whether it is a probe. A probe is
deleted with its first answer. -/
def rowAfter (db : AckDb) (id : ℕ) (answers : List Ack) : Option (Option String × Bool) :=
  match get CommandRow.id db.commands id with
  | none => madeRow answers
  | some c =>
      if c.isProbe then
        match answers with
        | [] => some (c.tunnel, true)
        | _ :: rest => madeRow rest
      else some (c.tunnel, false)

/-- The session of the row that a terminal ack reads under the id, made from the ack if there is none. -/
def tunnelRead (db : AckDb) (before : List Ack) (a : Ack) (id : ℕ) : Option String :=
  ((rowAfter db id (before.filter (·.answers id))).or (madeRow [a])).bind Prod.fst

/-! ## Acks that cross -/

/-- What a terminal ack does through the source of the row it read. -/
def RowTouch (db : AckDb) (row : CommandRow) (t : Touch) : Prop :=
  (row.sourceType = some .diskHealthProbe ∧ t = .command row.id) ∨
    (∃ e ∈ db.executions, t = .execution e.id ∧ AttachedTo t row) ∨
    scenarioCall row = some t

/-- What a terminal ack would do to the command it names. -/
def Resumes (db : AckDb) (canonical : Bool) (c : CommandRow) (t : Touch) : Prop :=
  (canonical = true ∧ c.id ∈ db.waiters ∧ t = .waiter c.id) ∨ RowTouch db c t

/-- A failure ack, after the acks before it, fails the tunnel of a session of another device that is
still being opened. -/
def EndsSession (db : AckDb) (deviceId : ℕ) (before : List Ack) (a : Ack) : Prop :=
  a.status = .failure ∧ ∃ id canonical, a.commandId = .uuid id canonical ∧
    ∃ s ∈ db.sessions, s.isOpening = true ∧ s.deviceId ≠ deviceId ∧
      tunnelRead db before a id = some s.token

/-- A terminal ack names a command of another device and resumes something foreign, or ends a session
of another device. -/
def Crosses (db : AckDb) (deviceId : ℕ) (before : List Ack) (a : Ack) : Prop :=
  (a.status.isTerminal = true ∧ ∃ c ∈ db.commands, ∃ canonical, a.commandId = .uuid c.id canonical ∧
    c.deviceId ≠ deviceId ∧ ∃ t, Resumes db canonical c t ∧ Foreign db deviceId t) ∨
  EndsSession db deviceId before a

/-- The database once the acks are processed, with what they touched. -/
def acked (db : AckDb) (deviceId tenantId : ℕ) (now : ℤ) (acks : List Ack) : AckDb :=
  processAcks { db with touched := [] } deviceId tenantId now acks

/-- Nothing foreign is updated, deleted, resolved or resumed. -/
def Isolated (db : AckDb) (deviceId tenantId : ℕ) (now : ℤ) (acks : List Ack) : Prop :=
  ∀ t ∈ (acked db deviceId tenantId now acks).touched, ¬ Foreign db deviceId t

/-! ## The touches of a statement -/

variable {db : AckDb} {t : Touch} {deviceId tenantId id : ℕ} {now : ℤ} {a : Ack} {row : CommandRow}

theorem mem_resolveWaiter {canonical : Bool} :
    t ∈ (resolveWaiter db id canonical a).touched ↔ t ∈ db.touched ∨
      (a.status.isTerminal = true ∧ canonical = true ∧ id ∈ db.waiters ∧ t = .waiter id) := by
  unfold resolveWaiter
  split
  · rename_i h
    simp only [Bool.and_eq_true, decide_eq_true_eq] at h
    simp [h]
  · rename_i h
    simp only [Bool.and_eq_true, decide_eq_true_eq] at h
    tauto

theorem mem_ackQueue : t ∈ (ackQueue db deviceId id a now).touched ↔ t ∈ db.touched ∨
    ((∃ r ∈ db.commands, r.id = id ∧ r.deviceId = deviceId) ∧ t = .command id) := by
  simp only [ackQueue, List.mem_append, List.mem_map, List.mem_filter, decide_eq_true_eq]
  refine or_congr_right ⟨?_, ?_⟩
  · rintro ⟨r, ⟨hr, hid, hd⟩, rfl⟩
    exact ⟨⟨r, hr, hid, hd⟩, by rw [hid]⟩
  · rintro ⟨⟨r, hr, hid, hd⟩, rfl⟩
    exact ⟨r, ⟨hr, hid, hd⟩, by rw [hid]⟩

theorem insertSynthetic_rest :
    (insertSynthetic db deviceId tenantId id a now).touched = db.touched ∧
      (insertSynthetic db deviceId tenantId id a now).waiters = db.waiters ∧
      (insertSynthetic db deviceId tenantId id a now).executions = db.executions ∧
      (insertSynthetic db deviceId tenantId id a now).sessions = db.sessions := by
  unfold insertSynthetic
  split
  · exact ⟨rfl, rfl, rfl, rfl⟩
  · split <;> exact ⟨rfl, rfl, rfl, rfl⟩

theorem failTunnel_rest :
    (failTunnel db row a now).commands = db.commands ∧ (failTunnel db row a now).waiters = db.waiters ∧
      (failTunnel db row a now).executions = db.executions := by
  unfold failTunnel
  split
  · exact ⟨rfl, rfl, rfl⟩
  · split <;> exact ⟨rfl, rfl, rfl⟩

/-- The ack fails the tunnel of the session. -/
def FailsTunnel (row : CommandRow) (a : Ack) (s : RemoteSession) : Prop :=
  a.status = .failure ∧ row.tunnel = some s.token ∧ s.isOpening = true

theorem failTunnel_eq_self (h : a.status = .failure → row.tunnel = none) :
    failTunnel db row a now = db := by
  unfold failTunnel
  split
  · rfl
  · rename_i token htoken
    refine if_neg fun hf => ?_
    have hnone := h hf.1
    rw [CommandRow.tunnel, if_pos hf.2, htoken] at hnone
    cases hnone

theorem failTunnel_of_tunnel (hf : a.status = .failure) {token : String} (h : row.tunnel = some token) :
    (failTunnel db row a now).sessions = (db.sessions.map fun s =>
        if decide (s.token = token) && s.isOpening then
          { s with status := .failed, endedAt := some now, endReason := "command_failure" }
        else s) ∧
      (failTunnel db row a now).touched = db.touched ++
        (db.sessions.filter fun s => decide (s.token = token) && s.isOpening).map fun s =>
          .session s.deviceId s.token := by
  unfold CommandRow.tunnel at h
  split at h
  · rename_i htype
    unfold failTunnel
    simp only [h, hf, htype, and_self, if_true]
  · cases h

theorem mem_failTunnel : t ∈ (failTunnel db row a now).touched ↔ t ∈ db.touched ∨
    ∃ s ∈ db.sessions, FailsTunnel row a s ∧ t = .session s.deviceId s.token := by
  by_cases hf : a.status = .failure
  · cases hrow : row.tunnel with
    | none =>
        rw [failTunnel_eq_self fun _ => hrow]
        refine ⟨.inl, fun h => h.elim id ?_⟩
        rintro ⟨s, -, ⟨-, htoken, -⟩, -⟩
        rw [hrow] at htoken
        cases htoken
    | some token =>
        rw [(failTunnel_of_tunnel hf hrow).2, List.mem_append, List.mem_map]
        simp only [List.mem_filter, Bool.and_eq_true, decide_eq_true_eq, FailsTunnel, hf, hrow, true_and,
          Option.some.injEq]
        refine or_congr_right ⟨?_, ?_⟩
        · rintro ⟨s, ⟨hs, htoken, hopen⟩, rfl⟩
          exact ⟨s, hs, ⟨htoken.symm, hopen⟩, rfl⟩
        · rintro ⟨s, hs, ⟨htoken, hopen⟩, rfl⟩
          exact ⟨s, ⟨hs, htoken.symm, hopen⟩, rfl⟩
  · rw [failTunnel_eq_self fun h => absurd h hf]
    refine ⟨.inl, fun h => h.elim id ?_⟩
    rintro ⟨s, -, ⟨hfail, -, -⟩, -⟩
    exact absurd hfail hf

/-- The sessions of the other devices are as they were if none of their tunnels fails. -/
theorem mem_sessions_failTunnel {s : RemoteSession} (hd : s.deviceId ≠ deviceId)
    (hno : ∀ s ∈ db.sessions, s.deviceId ≠ deviceId → ¬ FailsTunnel row a s) :
    s ∈ (failTunnel db row a now).sessions ↔ s ∈ db.sessions := by
  by_cases hf : a.status = .failure
  · cases hrow : row.tunnel with
    | none => rw [failTunnel_eq_self fun _ => hrow]
    | some token =>
        have hkept : ∀ s ∈ db.sessions, s.deviceId ≠ deviceId →
            ¬ (decide (s.token = token) && s.isOpening) = true := by
          intro s hs hd hhit
          rw [Bool.and_eq_true, decide_eq_true_eq] at hhit
          exact hno s hs hd ⟨hf, by rw [hrow, hhit.1], hhit.2⟩
        rw [(failTunnel_of_tunnel hf hrow).1, List.mem_map]
        constructor
        · rintro ⟨s', hs', rfl⟩
          split at hd
          · rename_i hhit
            exact absurd hhit (hkept s' hs' hd)
          · rename_i hhit
            rwa [if_neg hhit]
        · exact fun hs => ⟨s, hs, if_neg (hkept s hs hd)⟩
  · rw [failTunnel_eq_self fun h => absurd h hf]

theorem mem_ackUpdates (h : t ∈ (ackUpdates db deviceId row a now).touched) :
    t ∈ db.touched ∨ ∃ uid, t = .update deviceId uid := by
  refine (List.mem_append.1 h).imp_right fun h => ?_
  obtain ⟨u, hu, rfl⟩ := List.mem_map.1 h
  have hu := (List.mem_filter.1 hu).2
  rw [Bool.and_eq_true] at hu
  exact ⟨u.updateUid, by rw [of_decide_eq_true hu.1]⟩

theorem mem_deleteProbe : t ∈ (deleteProbe db row).touched ↔
    t ∈ db.touched ∨ (row.sourceType = some .diskHealthProbe ∧ t = .command row.id) := by
  unfold deleteProbe
  split
  · rename_i h
    simp [h]
  · rename_i h
    simp [h]

theorem mem_ackExecution : t ∈ (ackExecution db row a now).touched ↔
    t ∈ db.touched ∨ ∃ e ∈ db.executions, t = .execution e.id ∧ AttachedTo t row := by
  unfold ackExecution
  split
  · rename_i hnone
    refine ⟨.inl, fun h => h.elim id ?_⟩
    rintro ⟨e, -, rfl, -, hid⟩
    rw [hnone] at hid
    cases hid
  · rename_i execId hsome
    split
    · rename_i hsource
      simp only [List.mem_append, List.mem_map, List.mem_filter, decide_eq_true_eq]
      refine or_congr_right ⟨?_, ?_⟩
      · rintro ⟨e, ⟨he, hid⟩, rfl⟩
        exact ⟨e, he, rfl, hsource, by rw [hsome, hid]⟩
      · rintro ⟨e, he, rfl, -, hid⟩
        exact ⟨e, ⟨he, Option.some.inj (hid.symm.trans hsome)⟩, rfl⟩
    · rename_i hsource
      refine ⟨.inl, fun h => h.elim id ?_⟩
      rintro ⟨e, -, rfl, hs, -⟩
      exact absurd hs hsource

theorem ackExecution_ids :
    (ackExecution db row a now).executions.map ScriptExecution.id =
      db.executions.map ScriptExecution.id := by
  unfold ackExecution
  split
  · rfl
  · split
    · exact map_key_map (key_ite fun _ => rfl)
    · rfl

theorem mem_callScenario : t ∈ (callScenario db row).touched ↔
    t ∈ db.touched ∨ scenarioCall row = some t := by
  simp [callScenario, Option.mem_toList]

theorem deleteProbe_rest :
    (deleteProbe db row).waiters = db.waiters ∧ (deleteProbe db row).executions = db.executions ∧
      (deleteProbe db row).sessions = db.sessions := by
  unfold deleteProbe
  split <;> exact ⟨rfl, rfl, rfl⟩

theorem ackExecution_rest :
    (ackExecution db row a now).commands = db.commands ∧ (ackExecution db row a now).waiters = db.waiters ∧
      (ackExecution db row a now).sessions = db.sessions := by
  unfold ackExecution
  split
  · exact ⟨rfl, rfl, rfl⟩
  · split <;> exact ⟨rfl, rfl, rfl⟩

theorem followRow_waiters : (followRow db deviceId row a now).waiters = db.waiters := by
  unfold followRow
  split
  · exact ackExecution_rest.2.1.trans (deleteProbe_rest.1.trans failTunnel_rest.2.1)
  · rfl

theorem followRow_sessions :
    (followRow db deviceId row a now).sessions = (failTunnel db row a now).sessions := by
  unfold followRow
  split
  · exact ackExecution_rest.2.2.trans deleteProbe_rest.2.2
  · rename_i hterm
    rw [failTunnel_eq_self fun hf => absurd (by rw [hf]; rfl) hterm]
    rfl

theorem followRow_executions : (followRow db deviceId row a now).executions.map ScriptExecution.id =
    db.executions.map ScriptExecution.id := by
  unfold followRow
  split
  · exact ackExecution_ids.trans (congrArg _ (deleteProbe_rest.2.1.trans failTunnel_rest.2.2))
  · rfl

/-- Of the queue, only a probe that is answered leaves it. -/
theorem followRow_commands : (followRow db deviceId row a now).commands =
    if a.status.isTerminal = true ∧ row.sourceType = some .diskHealthProbe then
      remove CommandRow.id db.commands row.id
    else db.commands := by
  have hprobe : (deleteProbe (ackUpdates (failTunnel db row a now) deviceId row a now) row).commands =
      if row.sourceType = some .diskHealthProbe then remove CommandRow.id db.commands row.id
      else db.commands := by
    unfold deleteProbe
    split
    · exact congrArg (remove CommandRow.id · row.id) failTunnel_rest.1
    · exact failTunnel_rest.1
  unfold followRow
  split
  · rename_i hterm
    simp only [hterm, true_and]
    exact ackExecution_rest.1.trans hprobe
  · rename_i hterm
    rw [if_neg fun h => hterm h.1]
    rfl

/-- What follows a row touches the sessions whose tunnel fails, what its source says, and besides only
updates of the acking device. -/
theorem mem_followRow (h : t ∈ (followRow db deviceId row a now).touched) :
    t ∈ db.touched ∨ (∃ s ∈ db.sessions, FailsTunnel row a s ∧ t = .session s.deviceId s.token) ∨
      (∃ uid, t = .update deviceId uid) ∨ (a.status.isTerminal = true ∧ RowTouch db row t) := by
  unfold followRow at h
  split at h
  · rename_i hterm
    have hexec : (deleteProbe (ackUpdates (failTunnel db row a now) deviceId row a now) row).executions =
        db.executions := deleteProbe_rest.2.1.trans failTunnel_rest.2.2
    rw [mem_callScenario, mem_ackExecution, mem_deleteProbe, hexec] at h
    rcases h with ((h | hprobe) | hex) | hcall
    · rcases mem_ackUpdates h with h | hup
      · exact (mem_failTunnel.1 h).imp_right .inl
      · exact .inr (.inr (.inl hup))
    · exact .inr (.inr (.inr ⟨hterm, .inl hprobe⟩))
    · exact .inr (.inr (.inr ⟨hterm, .inr (.inl hex)⟩))
    · exact .inr (.inr (.inr ⟨hterm, .inr (.inr hcall)⟩))
  · exact (mem_ackUpdates h).imp_right fun h => .inr (.inl h)

theorem rowTouch_mem_followRow (hterm : a.status.isTerminal = true) (h : RowTouch db row t) :
    t ∈ (followRow db deviceId row a now).touched := by
  have hexec : (deleteProbe (ackUpdates (failTunnel db row a now) deviceId row a now) row).executions =
      db.executions := deleteProbe_rest.2.1.trans failTunnel_rest.2.2
  rw [followRow, if_pos hterm]
  rw [mem_callScenario, mem_ackExecution, mem_deleteProbe, hexec]
  rcases h with hprobe | hex | hcall
  · exact .inl (.inl (.inr hprobe))
  · exact .inl (.inr hex)
  · exact .inr hcall

theorem session_mem_followRow {s : RemoteSession} (hs : s ∈ db.sessions) (h : FailsTunnel row a s) :
    .session s.deviceId s.token ∈ (followRow db deviceId row a now).touched := by
  rw [followRow, if_pos (by rw [h.1]; rfl), mem_callScenario, mem_ackExecution, mem_deleteProbe]
  exact .inl (.inl (.inl (List.mem_append_left _ (mem_failTunnel.2 (.inr ⟨s, hs, h, rfl⟩)))))

/-! ## The row an ack reads -/

variable {canonical : Bool}

theorem updateQueue_keyed (h : Keyed CommandRow.id db.commands) :
    Keyed CommandRow.id (updateQueue db.commands deviceId id a now) := by
  refine nodup_map (fun r => ?_) h
  split <;> rfl

theorem resolveWaiter_rest : (resolveWaiter db id canonical a).commands = db.commands ∧
    (resolveWaiter db id canonical a).executions = db.executions ∧
    (resolveWaiter db id canonical a).sessions = db.sessions := by
  unfold resolveWaiter
  split <;> exact ⟨rfl, rfl, rfl⟩

/-- A row of the queue after the first statements: an old one, acked if it is the acking device's, or
the synthetic one. -/
theorem mem_ackStart {r : CommandRow} (h : r ∈ (ackStart db deviceId tenantId now id canonical a).commands) :
    (∃ c ∈ db.commands, (c.id = id ∧ c.deviceId = deviceId ∧ r = c.acked a now) ∨
        (¬ (c.id = id ∧ c.deviceId = deviceId) ∧ r = c)) ∨
      (r.id = id ∧ r.deviceId = deviceId ∧ r.sourceType = none ∧ ∀ c ∈ db.commands, c.id ≠ id) := by
  have hupd : ∀ r ∈ updateQueue db.commands deviceId id a now, ∃ c ∈ db.commands,
      (c.id = id ∧ c.deviceId = deviceId ∧ r = c.acked a now) ∨
        (¬ (c.id = id ∧ c.deviceId = deviceId) ∧ r = c) := by
    intro r hr
    obtain ⟨c, hc, rfl⟩ := List.mem_map.1 hr
    refine ⟨c, hc, ?_⟩
    split
    · rename_i h
      exact .inl ⟨h.1, h.2, rfl⟩
    · rename_i h
      exact .inr ⟨h, rfl⟩
  have hids : ∀ c ∈ db.commands, ∃ r ∈ updateQueue db.commands deviceId id a now, r.id = c.id := by
    intro c hc
    refine ⟨_, List.mem_map_of_mem hc, ?_⟩
    split <;> rfl
  unfold ackStart insertSynthetic at h
  split at h
  · exact .inl (hupd r (by simpa only [ackQueue, resolveWaiter_rest.1] using h))
  · split at h
    · rename_i hnew
      rw [Bool.and_eq_true] at hnew
      simp only [ackQueue, resolveWaiter_rest.1, List.mem_append, List.mem_singleton] at h hnew
      rcases h with h | rfl
      · exact .inl (hupd r h)
      · refine .inr ⟨rfl, rfl, rfl, fun c hc hid => ?_⟩
        obtain ⟨r', hr', hid'⟩ := hids c hc
        exact get_eq_none_iff.1 (Option.isNone_iff_eq_none.1 hnew.2) r' hr' (hid'.trans hid)
    · exact .inl (hupd r (by simpa only [ackQueue, resolveWaiter_rest.1] using h))

theorem keyed_ackStart (h : Keyed CommandRow.id db.commands) :
    Keyed CommandRow.id (ackStart db deviceId tenantId now id canonical a).commands := by
  have hupd : Keyed CommandRow.id
      (ackQueue (resolveWaiter db id canonical a) deviceId id a now).commands := by
    simp only [ackQueue, resolveWaiter_rest.1]
    exact updateQueue_keyed h
  unfold ackStart insertSynthetic
  split
  · exact hupd
  · split
    · rename_i hnew
      rw [Bool.and_eq_true] at hnew
      exact nodup_append hupd (Option.isNone_iff_eq_none.1 hnew.2)
    · exact hupd

/-- The row of another device is read as it is. -/
theorem foreign_mem_ackStart {c : CommandRow} (hc : c ∈ db.commands) (hd : c.deviceId ≠ deviceId) :
    c ∈ (ackStart db deviceId tenantId now id canonical a).commands := by
  have hupd : c ∈ (ackQueue (resolveWaiter db id canonical a) deviceId id a now).commands := by
    simp only [ackQueue, resolveWaiter_rest.1]
    exact List.mem_map.2 ⟨c, hc, if_neg fun h => hd h.2⟩
  unfold ackStart insertSynthetic
  split
  · exact hupd
  · split
    · exact List.mem_append_left _ hupd
    · exact hupd

/-! ## The session of the row an ack reads -/

/-- What the acks leave of a row: its session and whether it is a probe. -/
def CommandRow.shape (r : CommandRow) : Option String × Bool := (r.tunnel, r.isProbe)

/-- The next answer deletes a probe, and makes a row where there is none. -/
def nextRow (row : Option (Option String × Bool)) (a : Ack) : Option (Option String × Bool) :=
  if row.any Prod.snd then none else row.or (madeRow [a])

theorem madeRow_append (l : List Ack) : madeRow (l ++ [a]) = (madeRow l).or (madeRow [a]) := by
  unfold madeRow
  rw [List.find?_append, Option.map_or]

theorem any_madeRow (l : List Ack) : (madeRow l).any Prod.snd = false := by
  unfold madeRow
  cases l.find? Ack.makesRow <;> rfl

theorem nextRow_madeRow (l : List Ack) : nextRow (madeRow l) a = madeRow (l ++ [a]) := by
  rw [nextRow, any_madeRow, if_neg Bool.false_ne_true, madeRow_append]

theorem rowAfter_nil : rowAfter db id [] = (get CommandRow.id db.commands id).map CommandRow.shape := by
  unfold rowAfter
  cases get CommandRow.id db.commands id with
  | none => rfl
  | some c => cases hp : c.isProbe <;> simp [CommandRow.shape, hp]

theorem rowAfter_append (answers : List Ack) :
    rowAfter db id (answers ++ [a]) = nextRow (rowAfter db id answers) a := by
  unfold rowAfter
  cases get CommandRow.id db.commands id with
  | none => exact (nextRow_madeRow answers).symm
  | some c =>
      cases hp : c.isProbe with
      | false => simp [hp, nextRow]
      | true =>
          cases answers with
          | nil => simp [hp, nextRow, madeRow]
          | cons b rest => simpa [hp] using (nextRow_madeRow rest).symm

theorem get_ackQueue {id' : ℕ} :
    (get CommandRow.id (ackQueue db deviceId id a now).commands id').map CommandRow.shape =
      (get CommandRow.id db.commands id').map CommandRow.shape := by
  have hid : ∀ r : CommandRow, (if r.id = id ∧ r.deviceId = deviceId then r.acked a now else r).id = r.id := by
    intro r
    split <;> rfl
  have hshape : ∀ r : CommandRow,
      (if r.id = id ∧ r.deviceId = deviceId then r.acked a now else r).shape = r.shape := by
    intro r
    split <;> rfl
  simp only [ackQueue, updateQueue]
  rw [get_map hid, Option.map_map]
  exact Option.map_congr fun r _ => hshape r

/-- The row is inserted where a terminal ack finds none and is of a type that is kept. -/
theorem get_insertSynthetic {id' : ℕ} :
    (get CommandRow.id (insertSynthetic db deviceId tenantId id a now).commands id').map CommandRow.shape =
      if a.status.isTerminal = true ∧ id' = id then
        ((get CommandRow.id db.commands id').map CommandRow.shape).or (madeRow [a])
      else (get CommandRow.id db.commands id').map CommandRow.shape := by
  unfold insertSynthetic
  cases htype : a.commandType with
  | none =>
      have hnone : madeRow [a] = none := by simp [madeRow, Ack.makesRow, htype]
      rw [hnone, Option.or_none, ite_self]
  | some type =>
      dsimp only
      split
      · rename_i hnew
        simp only [Bool.and_eq_true, decide_eq_true_eq] at hnew
        obtain ⟨⟨hterm, hkept⟩, hnone⟩ := hnew
        rw [Option.isNone_iff_eq_none] at hnone
        rw [get_append_fresh hnone]
        by_cases hid : id' = id
        · subst hid
          rw [if_pos rfl, if_pos ⟨hterm, rfl⟩, hnone]
          simp [madeRow, Ack.makesRow, htype, hkept, CommandRow.shape, CommandRow.tunnel, CommandRow.isProbe,
            Ack.tunnel]
        · rw [if_neg hid, if_neg fun h => hid h.2]
      · rename_i hold
        split
        · rename_i h
          obtain ⟨hterm, rfl⟩ := h
          simp only [Bool.and_eq_true, decide_eq_true_eq, hterm, true_and, Option.isNone_iff_eq_none,
            not_and] at hold
          by_cases hkept : type ∉ noisyEphemeral
          · obtain ⟨c, hc⟩ := Option.ne_none_iff_exists'.1 (hold hkept)
            rw [hc]
            rfl
          · have hmade : madeRow [a] = none := by simp [madeRow, Ack.makesRow, htype, hkept]
            rw [hmade, Option.or_none]
        · rfl

/-- The row a terminal ack reads. -/
theorem get_ackStart {id' : ℕ} :
    (get CommandRow.id (ackStart db deviceId tenantId now id canonical a).commands id').map
        CommandRow.shape =
      if a.status.isTerminal = true ∧ id' = id then
        ((get CommandRow.id db.commands id').map CommandRow.shape).or (madeRow [a])
      else (get CommandRow.id db.commands id').map CommandRow.shape := by
  rw [ackStart, get_insertSynthetic, get_ackQueue, resolveWaiter_rest.1]

theorem get_followRow {id' : ℕ} :
    (get CommandRow.id (followRow db deviceId row a now).commands id').map CommandRow.shape =
      if a.status.isTerminal = true ∧ row.isProbe = true ∧ id' = row.id then none
      else (get CommandRow.id db.commands id').map CommandRow.shape := by
  have hprobe : row.isProbe = true ↔ row.sourceType = some .diskHealthProbe := decide_eq_true_iff
  rw [followRow_commands]
  by_cases h : a.status.isTerminal = true ∧ row.sourceType = some .diskHealthProbe
  · rw [if_pos h]
    by_cases hid : id' = row.id
    · rw [if_pos ⟨h.1, hprobe.2 h.2, hid⟩, hid, get_remove_self]
      rfl
    · rw [if_neg fun h => hid h.2.2, get_remove_ne hid]
  · rw [if_neg h, if_neg fun h' => h ⟨h'.1, hprobe.1 h'.2.1⟩]

theorem nextRow_eq (r : Option (Option String × Bool)) :
    nextRow r a = if (r.or (madeRow [a])).any Prod.snd then none else r.or (madeRow [a]) := by
  cases r with
  | none => rw [Option.none_or, any_madeRow, if_neg Bool.false_ne_true]; rfl
  | some r => rfl

theorem get_processAck {id' : ℕ} :
    (get CommandRow.id (processAck db deviceId tenantId now a).commands id').map CommandRow.shape =
      if a.answers id' = true then nextRow ((get CommandRow.id db.commands id').map CommandRow.shape) a
      else (get CommandRow.id db.commands id').map CommandRow.shape := by
  cases hack : a.commandId with
  | other text => simp only [processAck, Ack.answers, hack, Bool.false_eq_true, if_false]
  | uuid id canonical =>
      have hanswers : a.answers id' = true ↔ a.status.isTerminal = true ∧ id' = id := by
        simp only [Ack.answers, hack, Bool.and_eq_true, decide_eq_true_eq]
        exact and_congr_right fun _ => eq_comm
      have hstart : ∀ i, (get CommandRow.id (ackStart db deviceId tenantId now id canonical a).commands i).map
          CommandRow.shape = if a.status.isTerminal = true ∧ i = id then
            ((get CommandRow.id db.commands i).map CommandRow.shape).or (madeRow [a])
          else (get CommandRow.id db.commands i).map CommandRow.shape := fun _ => get_ackStart
      simp only [processAck, hack]
      generalize ackStart db deviceId tenantId now id canonical a = s at hstart
      by_cases h : a.status.isTerminal = true ∧ id' = id
      · obtain ⟨hterm, rfl⟩ := h
        have hread := hstart id'
        rw [if_pos ⟨hterm, rfl⟩] at hread
        rw [if_pos (hanswers.2 ⟨hterm, rfl⟩), nextRow_eq, ← hread]
        cases hrow : readRow s id' with
        | none =>
            have hnone : get CommandRow.id s.commands id' = none := hrow
            rw [hnone]
            rfl
        | some row =>
            have hsome : get CommandRow.id s.commands id' = some row := hrow
            dsimp only
            rw [get_followRow, hsome]
            simp only [hterm, key_of_get hsome, true_and, and_true, Option.map_some, Option.any_some]
            rfl
      · have hsame := hstart id'
        rw [if_neg h] at hsame
        rw [if_neg fun ha => h (hanswers.1 ha), ← hsame]
        cases hrow : readRow s id with
        | none => rfl
        | some row =>
            have hid : row.id = id := key_of_get hrow
            dsimp only
            rw [get_followRow, if_neg fun hd => h ⟨hd.1, hd.2.2.trans hid⟩]

/-- After a list of acks the row under an id is the one its answers leave. -/
theorem get_processAcks (acks : List Ack) :
    (get CommandRow.id (processAcks db deviceId tenantId now acks).commands id).map CommandRow.shape =
      rowAfter db id (acks.filter (·.answers id)) := by
  induction acks using List.reverseRecOn with
  | nil => exact rowAfter_nil.symm
  | append_singleton acks a ih =>
      rw [processAcks, List.foldl_append, List.foldl_cons, List.foldl_nil, ← processAcks, get_processAck, ih,
        List.filter_append]
      by_cases h : a.answers id = true
      · have hlast : [a].filter (·.answers id) = [a] := List.filter_eq_self.2 fun b hb =>
          List.mem_singleton.1 hb ▸ h
        rw [if_pos h, hlast, rowAfter_append]
      · have hlast : [a].filter (·.answers id) = [] := List.filter_eq_nil_iff.2 fun b hb =>
          List.mem_singleton.1 hb ▸ h
        rw [if_neg h, hlast, List.append_nil]

/-! ## One ack -/

/-- The database before the acks and the one after some of them, none of which crossed. -/
structure SameElsewhere (db₀ : AckDb) (deviceId : ℕ) (db : AckDb) : Prop where
  keyed : Keyed CommandRow.id db.commands
  foreign : ∀ c, c.deviceId ≠ deviceId → (c ∈ db.commands ↔ c ∈ db₀.commands)
  own : ∀ c ∈ db.commands, c.deviceId = deviceId → c.sourceType = none ∨
    ∃ c₀ ∈ db₀.commands, c₀.deviceId = deviceId ∧ c₀.id = c.id ∧ c₀.sourceType = c.sourceType ∧
      c₀.sourceId = c.sourceId
  waiters : ∀ c ∈ db₀.commands, c.deviceId ≠ deviceId → (c.id ∈ db.waiters ↔ c.id ∈ db₀.waiters)
  sessions : ∀ s : RemoteSession, s.deviceId ≠ deviceId → (s ∈ db.sessions ↔ s ∈ db₀.sessions)
  executions : db.executions.map ScriptExecution.id = db₀.executions.map ScriptExecution.id

variable {db₀ : AckDb}

/-- A touch named after the id of a command of another device is foreign. -/
theorem foreign_of_id (h : Keyed CommandRow.id db.commands) {c : CommandRow} (hc : c ∈ db.commands)
    (hd : c.deviceId ≠ deviceId) (ht : t = .waiter c.id ∨ t = .command c.id) : Foreign db deviceId t := by
  refine .inr ⟨⟨c, hc, hd, ?_⟩, fun c' hc' hd' hatt => ?_⟩
  · rcases ht with rfl | rfl <;> rfl
  · have hid : c'.id = c.id := by rcases ht with rfl | rfl <;> exact hatt
    exact hd (h.eq_of_key hc' hc hid ▸ hd')

/-- What an own row's source touches is attached to a command of the acking device. -/
theorem not_foreign_of_own (h : SameElsewhere db₀ deviceId db) (hrow : row ∈ db.commands)
    (hd : row.deviceId = deviceId) (ht : RowTouch db row t) : ¬ Foreign db₀ deviceId t := by
  -- a touch by a source needs one, so the row is not synthetic
  obtain ⟨c₀, hc₀, hd₀, hid, hsource, hsid⟩ : ∃ c₀ ∈ db₀.commands, c₀.deviceId = deviceId ∧ c₀.id = row.id ∧
      c₀.sourceType = row.sourceType ∧ c₀.sourceId = row.sourceId := by
    refine (h.own row hrow hd).resolve_left fun hnone => ?_
    rcases ht with ⟨hs, -⟩ | ⟨e, -, rfl, hs, -⟩ | hcall
    · rw [hnone] at hs
      cases hs
    · rw [hnone] at hs
      cases hs
    · rw [scenarioCall, hnone] at hcall
      cases hcall
  have hatt : AttachedTo t c₀ := by
    rcases ht with ⟨-, rfl⟩ | ⟨e, -, rfl, hs, hx⟩ | hcall
    · exact hid
    · exact ⟨hsource.trans hs, hsid.trans hx⟩
    · unfold scenarioCall at hcall
      split at hcall
      · rename_i suffix x hs hx
        rw [← Option.some.inj hcall]
        exact ⟨⟨suffix, hsource.trans hs⟩, hsid.trans hx⟩
      · rename_i x hs hx
        rw [← Option.some.inj hcall]
        exact ⟨hsource.trans hs, hsid.trans hx⟩
      · cases hcall
  rintro (⟨dev, hdev, -⟩ | ⟨-, hnot⟩)
  · cases t with
    | session dev token => exact hatt
    | update dev uid => exact hatt
    | _ => cases hdev
  · exact hnot c₀ hc₀ hd₀ hatt

theorem SameElsewhere.rowTouch (h : SameElsewhere db₀ deviceId db) :
    RowTouch db row t ↔ RowTouch db₀ row t := by
  have hex : (∃ e ∈ db.executions, t = .execution e.id ∧ AttachedTo t row) ↔
      ∃ e ∈ db₀.executions, t = .execution e.id ∧ AttachedTo t row := by
    have hmem : ∀ x, (∃ e ∈ db.executions, e.id = x) ↔ ∃ e ∈ db₀.executions, e.id = x := by
      intro x
      rw [← List.mem_map, ← List.mem_map, h.executions]
    constructor
    · rintro ⟨e, he, rfl, hatt⟩
      obtain ⟨e', he', hid⟩ := (hmem e.id).1 ⟨e, he, rfl⟩
      exact ⟨e', he', by rw [hid], hatt⟩
    · rintro ⟨e, he, rfl, hatt⟩
      obtain ⟨e', he', hid⟩ := (hmem e.id).2 ⟨e, he, rfl⟩
      exact ⟨e', he', by rw [hid], hatt⟩
  unfold RowTouch
  rw [hex]

theorem ackStart_waiters :
    (ackStart db deviceId tenantId now id canonical a).waiters = (resolveWaiter db id canonical a).waiters :=
  insertSynthetic_rest.2.1

theorem ackStart_executions :
    (ackStart db deviceId tenantId now id canonical a).executions = db.executions :=
  insertSynthetic_rest.2.2.1.trans resolveWaiter_rest.2.1

theorem ackStart_sessions :
    (ackStart db deviceId tenantId now id canonical a).sessions = db.sessions :=
  insertSynthetic_rest.2.2.2.trans resolveWaiter_rest.2.2

theorem mem_ackStart_touched : t ∈ (ackStart db deviceId tenantId now id canonical a).touched ↔
    (t ∈ db.touched ∨ (a.status.isTerminal = true ∧ canonical = true ∧ id ∈ db.waiters ∧ t = .waiter id)) ∨
      ((∃ r ∈ db.commands, r.id = id ∧ r.deviceId = deviceId) ∧ t = .command id) := by
  rw [ackStart, insertSynthetic_rest.1, mem_ackQueue, mem_resolveWaiter, resolveWaiter_rest.1]

section Step
variable {before : List Ack} (h₀ : Keyed CommandRow.id db₀.commands) (h : SameElsewhere db₀ deviceId db)
  (hid : a.commandId = .uuid id canonical) (hno : ¬ Crosses db₀ deviceId before a)
include h₀ h hid hno

/-- The waiter of another device's command is not the one of this ack. -/
theorem waiter_of_not_crosses {c : CommandRow} (hc : c ∈ db₀.commands) (hd : c.deviceId ≠ deviceId)
    (hterm : a.status.isTerminal = true) (hcan : canonical = true) (hw : id ∈ db.waiters) : c.id ≠ id := by
  rintro rfl
  exact hno (.inl ⟨hterm, c, hc, canonical, hid, hd, .waiter c.id,
    .inl ⟨hcan, (h.waiters c hc hd).1 hw, rfl⟩, foreign_of_id h₀ hc hd (.inl rfl)⟩)

theorem ackStart_same :
    SameElsewhere db₀ deviceId (ackStart db deviceId tenantId now id canonical a) := by
  refine ⟨keyed_ackStart h.keyed, fun c hd => ?_, fun r hr hd => ?_, fun c hc hd => ?_, ?_, ?_⟩
  · rw [← h.foreign c hd]
    refine ⟨fun hc => ?_, fun hc => foreign_mem_ackStart hc hd⟩
    rcases mem_ackStart hc with ⟨c', hc', ⟨-, hd', rfl⟩ | ⟨-, rfl⟩⟩ | ⟨-, hd', -⟩
    · exact absurd hd' hd
    · exact hc'
    · exact absurd hd' hd
  · rcases mem_ackStart hr with ⟨c, hc, ⟨-, hd', rfl⟩ | ⟨-, rfl⟩⟩ | ⟨-, -, hnone, -⟩
    · exact h.own c hc hd'
    · exact h.own r hc hd
    · exact .inl hnone
  · rw [ackStart_waiters, ← h.waiters c hc hd]
    unfold resolveWaiter
    split
    · rename_i hw
      simp only [Bool.and_eq_true, decide_eq_true_eq] at hw
      have hne := waiter_of_not_crosses h₀ h hid hno hc hd hw.1.1 hw.1.2 hw.2
      simp [hne]
    · exact Iff.rfl
  · rw [ackStart_sessions]
    exact h.sessions
  · rw [ackStart_executions, h.executions]

theorem ackStart_touched (ht : t ∈ (ackStart db deviceId tenantId now id canonical a).touched) :
    t ∈ db.touched ∨ ¬ Foreign db₀ deviceId t := by
  -- a touch of the id itself is foreign only when a command of another device has it
  have hforeign : ∀ t, t = Touch.waiter id ∨ t = .command id → Foreign db₀ deviceId t →
      ∃ c ∈ db₀.commands, c.deviceId ≠ deviceId ∧ c.id = id := by
    rintro t ht (⟨dev, hdev, -⟩ | ⟨⟨c, hc, hd, hatt⟩, -⟩)
    · rcases ht with rfl | rfl <;> cases hdev
    · exact ⟨c, hc, hd, by rcases ht with rfl | rfl <;> exact hatt⟩
  rcases mem_ackStart_touched.1 ht with (ht | ⟨hterm, hcan, hw, rfl⟩) | ⟨⟨r, hr, hrid, hrd⟩, rfl⟩
  · exact .inl ht
  · refine .inr fun hf => ?_
    obtain ⟨c, hc, hd, hcid⟩ := hforeign _ (.inl rfl) hf
    exact waiter_of_not_crosses h₀ h hid hno hc hd hterm hcan hw hcid
  · refine .inr fun hf => ?_
    obtain ⟨c, hc, hd, hcid⟩ := hforeign _ (.inr rfl) hf
    have heq := h.keyed.eq_of_key ((h.foreign c hd).2 hc) hr (hcid.trans hrid.symm)
    exact hd (heq ▸ hrd)

omit h₀ h in
/-- The row an ack reads does not fail the tunnel of a session of another device. -/
theorem not_failsTunnel_of_not_crosses (hrows : (get CommandRow.id db.commands id).map CommandRow.shape =
      rowAfter db₀ id (before.filter (·.answers id)))
    (hrow : readRow (ackStart db deviceId tenantId now id canonical a) id = some row) {s : RemoteSession}
    (hs : s ∈ db₀.sessions) (hd : s.deviceId ≠ deviceId) : ¬ FailsTunnel row a s := by
  rintro ⟨hfail, htunnel, hopen⟩
  have hread : (get CommandRow.id (ackStart db deviceId tenantId now id canonical a).commands id).map
      CommandRow.shape = (rowAfter db₀ id (before.filter (·.answers id))).or (madeRow [a]) := by
    rw [get_ackStart, if_pos ⟨by rw [hfail]; rfl, rfl⟩, hrows]
  have hsome : get CommandRow.id (ackStart db deviceId tenantId now id canonical a).commands id = some row :=
    hrow
  refine hno (.inr ⟨hfail, id, canonical, hid, s, hs, hopen, hd, ?_⟩)
  rw [tunnelRead, ← hread, hsome]
  exact htunnel

/-- An ack that does not cross touches nothing foreign. -/
theorem processAck_same (hrows : ∀ i, (get CommandRow.id db.commands i).map CommandRow.shape =
      rowAfter db₀ i (before.filter (·.answers i))) :
    SameElsewhere db₀ deviceId (processAck db deviceId tenantId now a) ∧
      ∀ t ∈ (processAck db deviceId tenantId now a).touched, t ∈ db.touched ∨ ¬ Foreign db₀ deviceId t := by
  have hs : SameElsewhere db₀ deviceId (ackStart db deviceId tenantId now id canonical a) :=
    ackStart_same h₀ h hid hno
  have hst : ∀ t ∈ (ackStart db deviceId tenantId now id canonical a).touched,
      t ∈ db.touched ∨ ¬ Foreign db₀ deviceId t := fun _ ht => ackStart_touched h₀ h hid hno ht
  have htunnel : ∀ row, readRow (ackStart db deviceId tenantId now id canonical a) id = some row →
      ∀ s ∈ db₀.sessions, s.deviceId ≠ deviceId → ¬ FailsTunnel row a s := fun _ hrow _ =>
    not_failsTunnel_of_not_crosses hid hno (hrows id) hrow
  simp only [processAck, hid]
  generalize ackStart db deviceId tenantId now id canonical a = s at hs hst htunnel
  cases hrow : readRow s id with
  | none => exact ⟨hs, hst⟩
  | some row =>
      dsimp only
      have hmem : row ∈ s.commands := mem_of_get hrow
      have hrid : row.id = id := key_of_get hrow
      -- the row of another device has no source to follow
      have hfollow : a.status.isTerminal = true → ∀ t, RowTouch s row t → ¬ Foreign db₀ deviceId t := by
        intro hterm t ht hf
        by_cases hd : row.deviceId = deviceId
        · exact not_foreign_of_own hs hmem hd ht hf
        · exact hno (.inl ⟨hterm, row, (hs.foreign row hd).1 hmem, canonical, by rw [hid, hrid], hd, t,
            .inr (hs.rowTouch.1 ht), hf⟩)
      have hsession : ∀ s' ∈ s.sessions, s'.deviceId ≠ deviceId → ¬ FailsTunnel row a s' := fun s' hs' hd =>
        htunnel row hrow s' ((hs.sessions s' hd).1 hs') hd
      refine ⟨⟨?_, fun c hd => ?_, fun c hc hd => ?_, fun c hc hd => ?_, fun s' hd => ?_, ?_⟩, fun t ht => ?_⟩
      · rw [followRow_commands]
        split
        · exact nodup_remove hs.keyed
        · exact hs.keyed
      · rw [followRow_commands, ← hs.foreign c hd]
        split
        · rename_i hprobe
          rw [mem_remove]
          refine ⟨And.left, fun hc => ⟨hc, fun hcid => ?_⟩⟩
          obtain rfl := hs.keyed.eq_of_key hc hmem hcid
          exact hfollow hprobe.1 _ (.inl ⟨hprobe.2, rfl⟩)
            (foreign_of_id h₀ ((hs.foreign c hd).1 hc) hd (.inr rfl))
        · exact Iff.rfl
      · rw [followRow_commands] at hc
        split at hc
        · exact hs.own c (mem_remove.1 hc).1 hd
        · exact hs.own c hc hd
      · rw [followRow_waiters, hs.waiters c hc hd]
      · rw [followRow_sessions, mem_sessions_failTunnel hd hsession, hs.sessions s' hd]
      · rw [followRow_executions, hs.executions]
      · rcases mem_followRow ht with ht | ⟨s', hs', hfails, rfl⟩ | ⟨uid, rfl⟩ | ⟨hterm, ht⟩
        · exact hst t ht
        · refine .inr ?_
          rintro (⟨dev, heq, hne⟩ | ⟨⟨c, -, -, hatt⟩, -⟩)
          · cases heq
            exact hsession s' hs' hne hfails
          · exact hatt
        · refine .inr ?_
          rintro (⟨dev, heq, hne⟩ | ⟨⟨c, -, -, hatt⟩, -⟩)
          · cases heq
            exact hne rfl
          · exact hatt
        · exact .inr (hfollow hterm t ht)

end Step

section Crossing
variable {before : List Ack} (h : SameElsewhere db₀ deviceId db)
include h

/-- An ack that resumes something foreign touches it. -/
theorem processAck_resumes (hterm : a.status.isTerminal = true) {c : CommandRow} (hc : c ∈ db₀.commands)
    (hid : a.commandId = .uuid c.id canonical) (hd : c.deviceId ≠ deviceId)
    (hres : Resumes db₀ canonical c t) : t ∈ (processAck db deviceId tenantId now a).touched := by
  have hmem := (h.foreign c hd).2 hc
  have hrow : readRow (ackStart db deviceId tenantId now c.id canonical a) c.id = some c :=
    (get_eq_some_iff (keyed_ackStart h.keyed)).2 ⟨foreign_mem_ackStart hmem hd, rfl⟩
  simp only [processAck, hid, hrow]
  rcases hres with ⟨hcan, hw, rfl⟩ | hrt
  · refine (frame_followRow _ deviceId c a now).touched _ (mem_ackStart_touched.2 (.inl (.inr ?_)))
    exact ⟨hterm, hcan, (h.waiters c hc hd).2 hw, rfl⟩
  · refine rowTouch_mem_followRow hterm ?_
    have := h.rowTouch.2 hrt
    simpa only [RowTouch, ackStart_executions] using this

/-- An ack that fails a tunnel touches its session. -/
theorem processAck_endsSession (hrows : (get CommandRow.id db.commands id).map CommandRow.shape =
      rowAfter db₀ id (before.filter (·.answers id))) (hfail : a.status = .failure)
    (hid : a.commandId = .uuid id canonical) {s : RemoteSession} (hs : s ∈ db₀.sessions)
    (hopen : s.isOpening = true) (hd : s.deviceId ≠ deviceId)
    (hread : tunnelRead db₀ before a id = some s.token) :
    .session s.deviceId s.token ∈ (processAck db deviceId tenantId now a).touched := by
  have hshape : (get CommandRow.id (ackStart db deviceId tenantId now id canonical a).commands id).map
      CommandRow.shape = (rowAfter db₀ id (before.filter (·.answers id))).or (madeRow [a]) := by
    rw [get_ackStart, if_pos ⟨by rw [hfail]; rfl, rfl⟩, hrows]
  rw [tunnelRead, ← hshape, Option.bind_map] at hread
  obtain ⟨row, hrow, htunnel⟩ := Option.bind_eq_some_iff.1 hread
  have hrow : readRow (ackStart db deviceId tenantId now id canonical a) id = some row := hrow
  simp only [processAck, hid, hrow]
  refine session_mem_followRow ?_ ⟨hfail, htunnel, hopen⟩
  rw [ackStart_sessions]
  exact (h.sessions s hd).2 hs

/-- An ack that crosses touches something foreign. -/
theorem processAck_crosses (hrows : ∀ i, (get CommandRow.id db.commands i).map CommandRow.shape =
      rowAfter db₀ i (before.filter (·.answers i))) (hc : Crosses db₀ deviceId before a) :
    ∃ t ∈ (processAck db deviceId tenantId now a).touched, Foreign db₀ deviceId t := by
  rcases hc with ⟨hterm, c, hc, canonical, hid, hd, t, hres, hf⟩ |
    ⟨hfail, id, canonical, hid, s, hs, hopen, hd, hread⟩
  · exact ⟨t, processAck_resumes h hterm hc hid hd hres, hf⟩
  · exact ⟨_, processAck_endsSession h (hrows id) hfail hid hs hopen hd hread, .inl ⟨_, rfl, hd⟩⟩

end Crossing

/-! ## A list of acks -/

/-- None of the acks crosses, after the ones before it. -/
def NoneCrosses (db : AckDb) (deviceId : ℕ) (before acks : List Ack) : Prop :=
  ∀ first a rest, acks = first ++ a :: rest → ¬ Crosses db deviceId (before ++ first) a

theorem noneCrosses_cons {before acks : List Ack} : NoneCrosses db deviceId before (a :: acks) ↔
    ¬ Crosses db deviceId before a ∧ NoneCrosses db deviceId (before ++ [a]) acks := by
  constructor
  · refine fun h => ⟨?_, fun first b rest heq => ?_⟩
    · simpa only [List.append_nil] using h [] a acks rfl
    · have := h (a :: first) b rest (by rw [heq]; rfl)
      rwa [List.append_assoc]
  · rintro ⟨ha, hrest⟩ first b rest heq
    cases first with
    | nil =>
        obtain ⟨rfl, rfl⟩ := List.cons.inj heq
        rwa [List.append_nil]
    | cons b' first =>
        obtain ⟨rfl, htail⟩ := List.cons.inj heq
        have := hrest first b rest htail
        rwa [List.append_assoc] at this

theorem processAcks_touched_iff (h₀ : Keyed CommandRow.id db₀.commands) (before acks : List Ack)
    (hdb : db = acked db₀ deviceId tenantId now before) (h : SameElsewhere db₀ deviceId db)
    (ht : ∀ t ∈ db.touched, ¬ Foreign db₀ deviceId t) :
    (∀ t ∈ (processAcks db deviceId tenantId now acks).touched, ¬ Foreign db₀ deviceId t) ↔
      NoneCrosses db₀ deviceId before acks := by
  induction acks generalizing db before with
  | nil => exact ⟨fun _ _ _ _ heq => absurd heq (by simp), fun _ => ht⟩
  | cons a acks ih =>
      have hrows : ∀ i, (get CommandRow.id db.commands i).map CommandRow.shape =
          rowAfter db₀ i (before.filter (·.answers i)) := fun i => by
        rw [hdb, acked, get_processAcks]
        rfl
      have hnext : processAck db deviceId tenantId now a = acked db₀ deviceId tenantId now (before ++ [a]) := by
        rw [hdb, acked, acked, processAcks, processAcks, List.foldl_append]
        rfl
      rw [noneCrosses_cons]
      by_cases hc : Crosses db₀ deviceId before a
      · refine ⟨fun hall => ?_, fun hall => absurd hc hall.1⟩
        obtain ⟨t, hmem, hf⟩ := processAck_crosses h hrows hc
        exact absurd hf (hall t ((frame_processAcks _ deviceId tenantId now acks).touched t hmem))
      · cases hid : a.commandId with
        | other text =>
            have hstep : processAck db deviceId tenantId now a = db := by rw [processAck, hid]
            rw [processAcks, List.foldl_cons, hstep]
            exact (ih (before ++ [a]) (hstep.symm.trans hnext) h ht).trans ⟨fun hall => ⟨hc, hall⟩, And.right⟩
        | uuid id canonical =>
            obtain ⟨hsame, htouched⟩ := processAck_same h₀ h hid hc hrows
            exact (ih (before ++ [a]) hnext hsame fun t hmem => (htouched t hmem).elim (ht t) fun hn => hn).trans
              ⟨fun hall => ⟨hc, hall⟩, And.right⟩

/-- Device 1 is polled while device 2's script and privacy check are under way; a session of each is
being opened. -/
def twoDevices : AckDb where
  commands := [
    ⟨8, 1, 1, .openRemoteTunnel, ⟨none, some "s1", none, []⟩, .sent, none, none, none, none, none, none⟩,
    ⟨9, 2, 1, .runScript, .empty, .sent, none, none, none, none, some .scriptExecution, some 5⟩]
  waiters := [9]
  sessions := [⟨"s1", 1, .waiting, none, none⟩, ⟨"s2", 2, .connecting, none, none⟩]
  executions := [⟨5, .running, none, none, none, none⟩]
  updates := []
  touched := []

/-- Device 1 says that its own tunnel failed, and that it runs the other command. -/
def ownAcks : List Ack :=
  [⟨.uuid 8 true, none, .failure, none⟩, ⟨.uuid 9 true, none, .ackRunning, none⟩]

/-- A command that device 1 made up, with the token of device 2's session, ends that session. -/
example : .session 2 "s2" ∈ (acked twoDevices 1 1 100 [⟨.uuid 7 true, some .openRemoteTunnel, .failure,
    some ⟨none, none, none, none, ⟨none, some "s2", none, []⟩⟩⟩]).touched := by
  decide

/-- Isolated acks leave the commands, waiters, sessions, executions and updates of the other devices
alone. -/
theorem isolated_unchanged {acks : List Ack} (hkey : Keyed CommandRow.id db.commands)
    (h : Isolated db deviceId tenantId now acks) :
    (∀ c ∈ db.commands, c.deviceId ≠ deviceId →
      c ∈ (acked db deviceId tenantId now acks).commands ∧
        (c.id ∈ db.waiters → c.id ∈ (acked db deviceId tenantId now acks).waiters)) ∧
    (∀ s ∈ db.sessions, s.deviceId ≠ deviceId → s ∈ (acked db deviceId tenantId now acks).sessions) ∧
    (∀ e ∈ db.executions, Foreign db deviceId (.execution e.id) →
      e ∈ (acked db deviceId tenantId now acks).executions) ∧
    ∀ u ∈ db.updates, u.deviceId ≠ deviceId → u ∈ (acked db deviceId tenantId now acks).updates := by
  have hframe := frame_processAcks { db with touched := [] } deviceId tenantId now acks
  refine ⟨fun c hc hd => ⟨?_, fun hw => ?_⟩, fun s hs hd => ?_, fun e he hf => ?_, fun u hu hd => ?_⟩
  · exact (hframe.commands c hc).resolve_right fun ht => h _ ht (foreign_of_id hkey hc hd (.inr rfl))
  · exact (hframe.waiters c.id hw).resolve_right fun ht => h _ ht (foreign_of_id hkey hc hd (.inl rfl))
  · exact (hframe.sessions s hs).resolve_right fun ht => h _ ht (.inl ⟨_, rfl, hd⟩)
  · exact (hframe.executions e he).resolve_right fun ht => h _ ht hf
  · exact (hframe.updates u hu).resolve_right fun ht => h _ ht (.inl ⟨_, rfl, hd⟩)

end Obliance.Commands
