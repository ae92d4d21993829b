import Obliance.Scenario.Accountable

/-!
# Where the tasks and rows of a run come from (`services/scenarioGraph.service.ts`)

* `Quiet s t` : rows keep what says whose they are, and no task comes to a node;
* `Thread.Known`, `EngineRows` : what a task says of its run and node run is so;
* `Moves`, `engineStep_moves` : a step of the engine is quiet, or one of the few at a node;
* `EngineRows.moves` : every step keeps what the tasks say.
-/

namespace Obliance.Scenario
open GuardedRun KeyedTable Obliance.Commands

/-! ## Quiet steps -/

/-- The task is at no node. -/
def Thread.idle : Thread → Bool
  | .execute _ _ _ | .executor _ _ _ | .enqueue _ _ _ _ _ => false
  | _ => true

/-- Rows are rewritten or deleted, new tasks are at no node. -/
structure Quiet (s t : EngineState) : Prop where
  nextId : t.nextId = s.nextId
  runs : ∀ r ∈ t.runs, ∃ r₀ ∈ s.runs, r₀.id = r.id ∧ r₀.tenantId = r.tenantId ∧ r₀.scenarioId = r.scenarioId ∧
    r₀.deviceId = r.deviceId
  nodeRuns : ∀ nr ∈ t.nodeRuns, ∃ nr₀ ∈ s.nodeRuns, nr₀.id = nr.id ∧ nr₀.runId = nr.runId
  commands : ∀ c ∈ t.commands, ∃ c₀ ∈ s.commands, c₀.sourceType = c.sourceType ∧ c₀.sourceId = c.sourceId ∧
    c₀.deviceId = c.deviceId
  threads : ∀ th ∈ t.threads, th ∈ s.threads ∨ th.idle = true

section Quiet
variable {s t u : EngineState}

theorem Quiet.trans (h : Quiet s t) (h' : Quiet t u) : Quiet s u where
  nextId := h'.nextId.trans h.nextId
  runs r hr := by
    obtain ⟨r', hr', h₁⟩ := h'.runs r hr
    obtain ⟨r₀, hr₀, h₂⟩ := h.runs r' hr'
    exact ⟨r₀, hr₀, h₂.1.trans h₁.1, h₂.2.1.trans h₁.2.1, h₂.2.2.1.trans h₁.2.2.1, h₂.2.2.2.trans h₁.2.2.2⟩
  nodeRuns nr hnr := by
    obtain ⟨nr', hnr', h₁⟩ := h'.nodeRuns nr hnr
    obtain ⟨nr₀, hnr₀, h₂⟩ := h.nodeRuns nr' hnr'
    exact ⟨nr₀, hnr₀, h₂.1.trans h₁.1, h₂.2.trans h₁.2⟩
  commands c hc := by
    obtain ⟨c', hc', h₁⟩ := h'.commands c hc
    obtain ⟨c₀, hc₀, h₂⟩ := h.commands c' hc'
    exact ⟨c₀, hc₀, h₂.1.trans h₁.1, h₂.2.1.trans h₁.2.1, h₂.2.2.trans h₁.2.2⟩
  threads th hth := by
    rcases h'.threads th hth with hth | hidle
    · exact h.threads th hth
    · exact .inr hidle

/-- The rows are the same. -/
theorem Quiet.of_rows (hnext : t.nextId = s.nextId) (hruns : t.runs = s.runs) (hnodeRuns : t.nodeRuns = s.nodeRuns)
    (hcommands : t.commands = s.commands) (hthreads : ∀ th ∈ t.threads, th ∈ s.threads ∨ th.idle = true) :
    Quiet s t where
  nextId := hnext
  runs r hr := ⟨r, hruns ▸ hr, rfl, rfl, rfl, rfl⟩
  nodeRuns nr hnr := ⟨nr, hnodeRuns ▸ hnr, rfl, rfl⟩
  commands c hc := ⟨c, hcommands ▸ hc, rfl, rfl, rfl⟩
  threads := hthreads

theorem Quiet.refl (s : EngineState) : Quiet s s := .of_rows rfl rfl rfl rfl fun _ hth => .inl hth

theorem idle_of_mem_set {threads : List Thread} {i : ℕ} {a : Thread} (ha : a.idle = true) :
    ∀ th ∈ threads.set i a, th ∈ threads ∨ th.idle = true := by
  intro th hth
  rcases List.mem_or_eq_of_mem_set hth with hth | rfl
  · exact .inl hth
  · exact .inr ha

theorem idle_of_mem_append {threads : List Thread} {a : Thread} (ha : a.idle = true) :
    ∀ th ∈ threads ++ [a], th ∈ threads ∨ th.idle = true := by
  intro th hth
  rcases List.mem_append.1 hth with hth | hth
  · exact .inl hth
  · rw [List.mem_singleton.1 hth]
    exact .inr ha

theorem quiet_setThread (s : EngineState) (i : ℕ) {a : Thread} (ha : a.idle = true) : Quiet s (s.setThread i a) :=
  .of_rows rfl rfl rfl rfl (idle_of_mem_set ha)

theorem quiet_modifyRun (s : EngineState) (id : ℕ) {f : RunRow → RunRow}
    (hf : ∀ r, (f r).id = r.id ∧ (f r).tenantId = r.tenantId ∧ (f r).scenarioId = r.scenarioId ∧
      (f r).deviceId = r.deviceId) : Quiet s (s.modifyRun id f) where
  nextId := rfl
  runs r hr := by
    obtain ⟨r₀, hr₀, rfl⟩ := mem_modify.1 hr
    refine ⟨r₀, hr₀, ?_⟩
    split
    · exact ⟨(hf r₀).1.symm, (hf r₀).2.1.symm, (hf r₀).2.2.1.symm, (hf r₀).2.2.2.symm⟩
    · exact ⟨rfl, rfl, rfl, rfl⟩
  nodeRuns nr hnr := ⟨nr, hnr, rfl, rfl⟩
  commands c hc := ⟨c, hc, rfl, rfl, rfl⟩
  threads _ hth := .inl hth

theorem quiet_nodeRuns (s : EngineState) {f : NodeRunRow → NodeRunRow}
    (hf : ∀ nr, (f nr).id = nr.id ∧ (f nr).runId = nr.runId) : Quiet s { s with nodeRuns := s.nodeRuns.map f } where
  nextId := rfl
  runs r hr := ⟨r, hr, rfl, rfl, rfl, rfl⟩
  nodeRuns nr hnr := by
    obtain ⟨nr₀, hnr₀, rfl⟩ := List.mem_map.1 hnr
    exact ⟨nr₀, hnr₀, (hf nr₀).1.symm, (hf nr₀).2.symm⟩
  commands c hc := ⟨c, hc, rfl, rfl, rfl⟩
  threads _ hth := .inl hth

theorem quiet_commands (s : EngineState) {f : CommandRow → CommandRow}
    (hf : ∀ c, (f c).sourceType = c.sourceType ∧ (f c).sourceId = c.sourceId ∧ (f c).deviceId = c.deviceId) :
    Quiet s { s with commands := s.commands.map f } where
  nextId := rfl
  runs r hr := ⟨r, hr, rfl, rfl, rfl, rfl⟩
  nodeRuns nr hnr := ⟨nr, hnr, rfl, rfl⟩
  commands c hc := by
    obtain ⟨c₀, hc₀, rfl⟩ := List.mem_map.1 hc
    exact ⟨c₀, hc₀, (hf c₀).1.symm, (hf c₀).2.1.symm, (hf c₀).2.2.symm⟩
  threads _ hth := .inl hth

/-! ## Steps at no node -/

variable {i nodeRunId : ℕ} {now : ℤ} {r : NodeResult} {v : Visit} {byAck : Bool}

theorem Quiet.of_startAck (s : EngineState) (nodeRunId : ℕ) (r : NodeResult) : Quiet s (startAck s nodeRunId r) := by
  rcases startAck_cases s nodeRunId r with ⟨fanOuts, heq⟩ | ⟨fanOuts, result, heq⟩ <;> rw [heq]
  · exact .of_rows rfl rfl rfl rfl fun _ hth => .inl hth
  · exact .of_rows rfl rfl rfl rfl (idle_of_mem_append rfl)

theorem Quiet.of_readAck : Quiet s (readAck s i nodeRunId r) := by
  unfold readAck
  split
  · exact quiet_setThread s i rfl
  · split
    · exact quiet_setThread s i rfl
    · split <;> exact quiet_setThread s i rfl

theorem Quiet.of_writeNodeRun {outcome : NodeOutcome} {next : Next} :
    Quiet s (writeNodeRun s i v r outcome next byAck now) := by
  have hset : Quiet s (s.setThread i (.mirror v r next byAck)) := quiet_setThread s i rfl
  refine (hset.trans (quiet_nodeRuns _ (f := fun nr => if nr.id = v.nodeRunId then
    { nr with status := outcome.status, result := r, finishedAt := some now } else nr) fun nr => ?_)).trans
      (.of_rows rfl rfl rfl rfl fun _ hth => .inl hth)
  split <;> exact ⟨rfl, rfl⟩

theorem Quiet.of_mirrorResult {next : Next} (hnext : (next.thread v r.exitCode byAck).idle = true) :
    Quiet s (mirrorResult s i v r next byAck) :=
  (quiet_setThread s i hnext).trans (quiet_modifyRun _ _ fun _ => ⟨rfl, rfl, rfl, rfl⟩)

theorem idle_next (next : Next) (exitCode : Option ℤ) : (next.thread v exitCode byAck).idle = true := by
  cases next <;> rfl

theorem Quiet.of_mark {runId : ℕ} {failure : Option String} : Quiet s (markRun (s.setThread i .done) runId failure) := by
  refine (quiet_setThread s i rfl).trans (quiet_modifyRun _ _ fun r => ?_)
  cases failure <;> exact ⟨rfl, rfl, rfl, rfl⟩

theorem Quiet.of_ackCommand {deviceId : ℕ} {a : Ack} : Quiet s (ackCommand s deviceId a now) := by
  rcases ackCommand_cases s deviceId a now with heq | ⟨id, s', rfl, hack⟩
  · rw [heq]
    exact .refl s
  · have hqueue : Quiet s { s with commands := updateQueue s.commands deviceId id a now } := by
      refine quiet_commands s fun c => ?_
      split <;> exact ⟨rfl, rfl, rfl⟩
    rcases hack with heq | ⟨nodeRunId, r, heq⟩ <;> rw [heq]
    · exact hqueue
    · exact hqueue.trans (.of_startAck _ _ _)

theorem Quiet.of_expire : Quiet s (expireCommands s now) := by
  refine (quiet_commands s fun c => ?_).trans (.of_rows rfl rfl rfl rfl fun _ hth => .inl hth)
  split <;> exact ⟨rfl, rfl, rfl⟩

theorem Quiet.of_notifyTimeout (h : notifyTimeout s = some t) : Quiet s t := by
  obtain ⟨rest, s', rfl, hack⟩ := notifyTimeout_cases h
  have hrest : Quiet s { s with timedOut := rest } := .of_rows rfl rfl rfl rfl fun _ hth => .inl hth
  rcases hack with rfl | ⟨nodeRunId, r, rfl⟩
  · exact hrest
  · exact hrest.trans (.of_startAck _ _ _)

theorem Quiet.of_rearm : Quiet s (rearmWaitTimers s now) :=
  rearmWaitTimers_induction Quiet.refl Quiet.trans Quiet.of_startAck
    (fun _ _ _ => .of_rows rfl rfl rfl rfl fun _ hth => .inl hth) s now

theorem Quiet.of_failThread {message : String} (h : failThread s i message = some t) : Quiet s t := by
  unfold failThread at h
  split at h <;> cases h <;> exact quiet_setThread s i rfl

theorem Quiet.of_editGraph {db : GraphDb} : Quiet s (editGraph s db) where
  nextId := rfl
  runs r hr := by
    obtain ⟨r₀, hr₀, rfl⟩ := List.mem_map.1 hr
    exact ⟨r₀, hr₀, rfl, rfl, rfl, rfl⟩
  nodeRuns nr hnr := ⟨nr, List.mem_of_mem_filter hnr, rfl, rfl⟩
  commands c hc := ⟨c, hc, rfl, rfl, rfl⟩
  threads _ hth := .inl hth

end Quiet

/-! ## What a task says of its run -/

/-- The run and the node run of a task at a node are used, and the node run is one of the run. -/
def Thread.Known (s : EngineState) : Thread → Prop
  | .execute runId _ _ => runId < s.nextId
  | .executor run _ nodeRunId | .enqueue run _ nodeRunId _ _ =>
      run.id < s.nextId ∧ nodeRunId < s.nextId ∧ ∀ nr ∈ s.nodeRuns, nr.id = nodeRunId → nr.runId = run.id
  | _ => True

structure EngineRows (s : EngineState) : Prop extends RowsUsed s where
  threads : ∀ th ∈ s.threads, th.Known s

section Rows
variable {s t : EngineState} {i : ℕ} {now : ℤ}

theorem Thread.known_of_idle {th : Thread} (h : th.idle = true) : th.Known s := by
  cases th <;> trivial

/-- What a task says stays so when ids are used up and rows of new node runs are inserted. -/
theorem Thread.Known.mono {th : Thread} (h : th.Known s) (hnext : s.nextId ≤ t.nextId)
    (hrows : ∀ nr ∈ t.nodeRuns, nr.id < s.nextId → ∃ nr₀ ∈ s.nodeRuns, nr₀.id = nr.id ∧ nr₀.runId = nr.runId) :
    th.Known t := by
  have hnode {run : RunRow} {nodeRunId : ℕ} (hk : run.id < s.nextId ∧ nodeRunId < s.nextId ∧
      ∀ nr ∈ s.nodeRuns, nr.id = nodeRunId → nr.runId = run.id) : run.id < t.nextId ∧ nodeRunId < t.nextId ∧
      ∀ nr ∈ t.nodeRuns, nr.id = nodeRunId → nr.runId = run.id := by
    refine ⟨hk.1.trans_le hnext, hk.2.1.trans_le hnext, fun nr hnr hid => ?_⟩
    obtain ⟨nr₀, hnr₀, hid₀, hrun₀⟩ := hrows nr hnr (hid ▸ hk.2.1)
    exact hrun₀ ▸ hk.2.2 nr₀ hnr₀ (hid₀.trans hid)
  cases th with
  | execute runId nodeId cause => exact h.trans_le hnext
  | executor run node nodeRunId => exact hnode h
  | enqueue run node nodeRunId command targets => exact hnode h
  | ack | complete | mirror | advance | stamp | mark | cancelRun | cancelNodes | cancelCommands | done => trivial

theorem EngineRows.quiet (h : EngineRows s) (hq : Quiet s t) : EngineRows t where
  runs r hr := by
    obtain ⟨r₀, hr₀, hid, -⟩ := hq.runs r hr
    exact hid ▸ hq.nextId.symm ▸ h.runs r₀ hr₀
  nodeRuns nr hnr := by
    obtain ⟨nr₀, hnr₀, hid, hrun⟩ := hq.nodeRuns nr hnr
    exact hid ▸ hrun ▸ hq.nextId.symm ▸ h.nodeRuns nr₀ hnr₀
  commands c hc id hid := by
    obtain ⟨c₀, hc₀, -, hsource, -⟩ := hq.commands c hc
    exact hq.nextId.symm ▸ h.commands c₀ hc₀ id (hsource ▸ hid)
  threads th hth := by
    rcases hq.threads th hth with hth | hidle
    · exact (h.threads th hth).mono hq.nextId.ge fun nr hnr _ => hq.nodeRuns nr hnr
    · exact Thread.known_of_idle hidle

/-- A task goes on, at a node or not, with the rows as they are. -/
theorem EngineRows.set (h : EngineRows s) {db : GraphDb} {fanOuts : ℕ → Option PendingFanOut} {advanced : List ℕ}
    {a : Thread} (ha : a.Known s) :
    EngineRows { s with db := db, threads := s.threads.set i a, fanOuts := fanOuts, advanced := advanced } where
  runs := h.runs
  nodeRuns := h.nodeRuns
  commands := h.commands
  threads th hth := by
    rcases List.mem_or_eq_of_mem_set hth with hth | rfl
    · exact (h.threads th hth).mono le_rfl fun nr hnr _ => ⟨nr, hnr, rfl, rfl⟩
    · exact ha.mono le_rfl fun nr hnr _ => ⟨nr, hnr, rfl, rfl⟩

/-- `executeNode` inserts a node run, the task goes on at its node. -/
theorem EngineRows.executeNode (h : EngineRows s) {run : RunRow} (hrun : run ∈ s.runs) {node : NodeRow} {nr : NodeRunRow}
    (hid : nr.id = s.nextId) (hrunId : nr.runId = run.id) {runs : List RunRow} {caused : List ℕ}
    (hruns : ∀ r ∈ runs, ∃ r₀ ∈ s.runs, r₀.id = r.id) :
    EngineRows { s with
      runs := runs, threads := s.threads.set i (.executor run node s.nextId), nodeRuns := s.nodeRuns ++ [nr]
      nextId := s.nextId + 1, caused := caused } where
  runs r hr := by
    obtain ⟨r₀, hr₀, heq⟩ := hruns r hr
    exact heq ▸ (h.runs r₀ hr₀).trans (Nat.lt_succ_self _)
  nodeRuns nr' hnr' := by
    rcases List.mem_append.1 hnr' with hold | hnew
    · exact ⟨(h.nodeRuns nr' hold).1.trans (Nat.lt_succ_self _), (h.nodeRuns nr' hold).2.trans (Nat.lt_succ_self _)⟩
    · obtain rfl := List.mem_singleton.1 hnew
      exact ⟨hid ▸ Nat.lt_succ_self _, hrunId ▸ (h.runs run hrun).trans (Nat.lt_succ_self _)⟩
  commands c hc id hsource := (h.commands c hc id hsource).trans (Nat.lt_succ_self _)
  threads th hth := by
    have hold : ∀ nr' ∈ s.nodeRuns ++ [nr], nr'.id < s.nextId → ∃ nr₀ ∈ s.nodeRuns, nr₀.id = nr'.id ∧
        nr₀.runId = nr'.runId := by
      intro nr' hnr' hlt
      rcases List.mem_append.1 hnr' with hold | hnew
      · exact ⟨nr', hold, rfl, rfl⟩
      · rw [List.mem_singleton.1 hnew, hid] at hlt
        exact absurd hlt (lt_irrefl _)
    rcases List.mem_or_eq_of_mem_set hth with hth | rfl
    · exact (h.threads th hth).mono (Nat.le_succ _) hold
    · refine ⟨(h.runs run hrun).trans (Nat.lt_succ_self _), Nat.lt_succ_self _, fun nr' hnr' heq => ?_⟩
      rcases List.mem_append.1 hnr' with hbefore | hnew
      · exact absurd heq (h.nodeRuns nr' hbefore).1.ne
      · rw [List.mem_singleton.1 hnew, hrunId]

/-- A command is inserted for a node run. -/
theorem EngineRows.enqueueCommand (h : EngineRows s) {run : RunRow} {nodeRunId deviceId : ℕ} {command : CommandTemplate}
    (hused : nodeRunId < s.nextId) : EngineRows (enqueueCommand s run nodeRunId deviceId command now) where
  runs r hr := (h.runs r hr).trans (Nat.lt_succ_self _)
  nodeRuns nr hnr := ⟨(h.nodeRuns nr hnr).1.trans (Nat.lt_succ_self _), (h.nodeRuns nr hnr).2.trans (Nat.lt_succ_self _)⟩
  commands c hc id hsource := by
    rcases List.mem_append.1 hc with hc | hc
    · exact (h.commands c hc id hsource).trans (Nat.lt_succ_self _)
    · rw [List.mem_singleton.1 hc] at hsource
      obtain rfl := Option.some.inj hsource
      exact hused.trans (Nat.lt_succ_self _)
  threads th hth := (h.threads th hth).mono (Nat.le_succ _) fun nr hnr _ => ⟨nr, hnr, rfl, rfl⟩

/-- A run is inserted, with a task that executes its first node or none. -/
theorem EngineRows.insertRun (h : EngineRows s) {run : RunRow} (hid : run.id = s.nextId) {threads : List Thread}
    (hthreads : ∀ th ∈ threads, th.idle = true ∨ ∃ nodeId cause, th = .execute s.nextId nodeId cause) :
    EngineRows { s with runs := s.runs ++ [run], nextId := s.nextId + 1, threads := s.threads ++ threads } where
  runs r hr := by
    rcases List.mem_append.1 hr with hr | hr
    · exact (h.runs r hr).trans (Nat.lt_succ_self _)
    · rw [List.mem_singleton.1 hr, hid]
      exact Nat.lt_succ_self _
  nodeRuns nr hnr := ⟨(h.nodeRuns nr hnr).1.trans (Nat.lt_succ_self _), (h.nodeRuns nr hnr).2.trans (Nat.lt_succ_self _)⟩
  commands c hc id hsource := (h.commands c hc id hsource).trans (Nat.lt_succ_self _)
  threads th hth := by
    rcases List.mem_append.1 hth with hth | hth
    · exact (h.threads th hth).mono (Nat.le_succ _) fun nr hnr _ => ⟨nr, hnr, rfl, rfl⟩
    · rcases hthreads th hth with hidle | ⟨nodeId, cause, rfl⟩
      · exact Thread.known_of_idle hidle
      · exact Nat.lt_succ_self _

end Rows

/-! ## What a step can do -/

/-- A quiet step, or one of the steps at a node. -/
inductive Moves (s : EngineState) : EngineState → Prop
  | quiet {t : EngineState} (h : Quiet s t) : Moves s t
  /-- `_advance` along an edge of the run's scenario. -/
  | goTo (i runId : ℕ) (cause : Option ℕ) (advanced : List ℕ) {run : RunRow} {e : EdgeRow}
      (hrun : s.run runId = some run) (he : e ∈ s.db.edges) (hscenario : e.scenarioId = run.scenarioId) :
      Moves s { s with threads := s.threads.set i (.execute runId e.targetNodeId cause), advanced := advanced }
  /-- `executeNode` -/
  | enter (i nodeId : ℕ) (cause : Option ℕ) (runs : List RunRow) (caused : List ℕ) {run : RunRow} {node : NodeRow}
      {nr : NodeRunRow} (hth : s.threads[i]? = some (.execute run.id nodeId cause)) (hrun : run ∈ s.runs)
      (hnode : s.db.node nodeId = some node) (hid : nr.id = s.nextId) (hrunId : nr.runId = run.id)
      (hruns : ∀ r ∈ runs, ∃ r₀ ∈ s.runs, r₀.id = r.id ∧ r₀.tenantId = r.tenantId ∧ r₀.scenarioId = r.scenarioId ∧
        r₀.deviceId = r.deviceId) :
      Moves s { s with
        runs := runs, threads := s.threads.set i (.executor run node s.nextId), nodeRuns := s.nodeRuns ++ [nr]
        nextId := s.nextId + 1, caused := caused }
  /-- An executor with commands to enqueue. -/
  | send (i nodeRunId : ℕ) (command : CommandTemplate) (fanOuts : ℕ → Option PendingFanOut) {run : RunRow}
      {node : NodeRow} (hth : s.threads[i]? = some (.executor run node nodeRunId))
      (htype : runsCommands node.type = true) :
      Moves s { s with
        threads := s.threads.set i (.enqueue run node nodeRunId command (targetsOf s.db run node))
        fanOuts := fanOuts }
  | command (i nodeRunId target : ℕ) (rest : List ℕ) (command : CommandTemplate) (now : ℤ) {run : RunRow}
      {node : NodeRow} (hth : s.threads[i]? = some (.enqueue run node nodeRunId command (target :: rest))) :
      Moves s (enqueueCommand (s.setThread i (.enqueue run node nodeRunId command rest)) run nodeRunId target
        command now)
  /-- `startRun` -/
  | started (threads : List Thread) {run : RunRow} (hid : run.id = s.nextId)
      (hthreads : ∀ th ∈ threads, th.idle = true ∨ ∃ nodeId cause, th = .execute s.nextId nodeId cause) :
      Moves s { s with runs := s.runs ++ [run], nextId := s.nextId + 1, threads := s.threads ++ threads }

section Moves
variable {s t : EngineState} {i : ℕ} {now : ℤ}

/-- Commands are enqueued by the two command nodes, to the targets of the node, which leave the tables alone. -/
theorem startExecutor_enqueue {db db' : GraphDb} {run : RunRow} {node : NodeRow} {command : CommandTemplate}
    {targets : List ℕ} (h : startExecutor db run node now = some (db', .enqueue command targets)) :
    db' = db ∧ runsCommands node.type = true ∧ targets = targetsOf db run node := by
  unfold startExecutor at h
  split at h
  case h_3 htype =>
    simp only [execRunScript, Option.some.injEq, Prod.mk.injEq] at h
    obtain ⟨rfl, h⟩ := h
    split at h
    · cases h
    · split at h
      · cases h
      · split at h
        · cases h
        · cases h
          exact ⟨rfl, by simp [runsCommands, htype], rfl⟩
  case h_7 htype =>
    simp only [execRunCommand, Option.some.injEq, Prod.mk.injEq] at h
    obtain ⟨rfl, h⟩ := h
    split at h
    · cases h
    · split at h
      · cases h
      · cases h
        exact ⟨rfl, by simp [runsCommands, htype], rfl⟩
  case h_2 =>
    simp only [execCooldown, Option.some.injEq, Prod.mk.injEq] at h
    obtain ⟨-, h⟩ := h
    split_ifs at h
  case h_5 =>
    simp only [Option.some.injEq, Prod.mk.injEq] at h
    obtain ⟨-, h⟩ := h
    split_ifs at h
  case h_8 =>
    simp only [execTagDevice, Option.some.injEq] at h
    split_ifs at h <;> cases (Prod.mk.inj h).2
  case h_9 =>
    simp only [execMoveDevice, Option.some.injEq] at h
    split_ifs at h <;> cases (Prod.mk.inj h).2
  case h_10 =>
    simp only [execBranchOnDevice, Option.some.injEq, Prod.mk.injEq] at h
    obtain ⟨-, h⟩ := h
    split at h <;> cases h
  all_goals cases h

theorem runExecutor_moves {run : RunRow} {node : NodeRow} {nodeRunId : ℕ}
    (hth : s.threads[i]? = some (.executor run node nodeRunId)) :
    Moves s (runExecutor s i run node nodeRunId now) := by
  have hset (db : GraphDb) {a : Thread} (ha : a.idle = true) : Quiet s ({ s with db := db }.setThread i a) :=
    .of_rows rfl rfl rfl rfl (idle_of_mem_set ha)
  unfold runExecutor
  dsimp only
  cases hstep : startExecutor s.db run node now with
  | none => exact .quiet (quiet_setThread s i rfl)
  | some next =>
      obtain ⟨db, step⟩ := next
      cases step with
      | enqueue command targets =>
          obtain ⟨rfl, htype, rfl⟩ := startExecutor_enqueue hstep
          dsimp only
          split
          · exact .send i nodeRunId command _ hth htype
          · exact .send i nodeRunId command s.fanOuts hth htype
      | done exitCode => exact .quiet (hset db rfl)
      | terminate success exitCode message => cases success <;> exact .quiet (hset db rfl)
      | sleep delayMs => exact .quiet ((hset db rfl).trans (.of_rows rfl rfl rfl rfl fun _ hth => .inl hth))
      | pass => exact .quiet (hset db rfl)
      | throws message => exact .quiet (hset db rfl)

theorem executeNode_moves {runId nodeId : ℕ} {cause : Option ℕ}
    (hth : s.threads[i]? = some (.execute runId nodeId cause)) :
    Moves s (executeNode s i runId nodeId cause now) := by
  unfold executeNode
  split
  · exact .quiet (quiet_setThread s i rfl)
  · rename_i run hrun
    have hid : run.id = runId := key_of_get hrun
    split
    · exact .quiet (quiet_setThread s i rfl)
    · split
      · exact .quiet (quiet_setThread s i rfl)
      · rename_i node hnode
        dsimp only
        split
        · exact .quiet (quiet_setThread s i rfl)
        · refine .enter i nodeId cause _ _ (hid ▸ hth) (mem_of_get hrun) hnode rfl hid.symm fun r hr => ?_
          obtain ⟨r₀, hr₀, rfl⟩ := mem_modify.1 hr
          refine ⟨r₀, hr₀, ?_⟩
          split <;> exact ⟨rfl, rfl, rfl, rfl⟩

theorem advance_moves {v : Visit} {exitCode : Option ℤ} {byAck : Bool} : Moves s (advance s i v exitCode byAck) := by
  have hset (advanced : List ℕ) {a : Thread} (ha : a.idle = true) :
      Quiet s ({ s with advanced := advanced }.setThread i a) := .of_rows rfl rfl rfl rfl (idle_of_mem_set ha)
  unfold advance
  dsimp only
  split
  · exact .quiet (hset _ rfl)
  · rename_i run hrun
    split
    · exact .quiet (hset _ rfl)
    · split
      · exact .quiet (hset _ rfl)
      · rename_i e hedge
        obtain ⟨he, hscenario, -⟩ := pickNextEdge_mem hedge
        exact .goTo i v.runId _ _ hrun he hscenario

theorem runTask_moves {task : Thread} (hth : s.threads[i]? = some task) (h : runTask s i now task = some t) :
    Moves s t := by
  cases task with
  | ack nodeRunId r => exact Option.some.inj h ▸ .quiet .of_readAck
  | complete v r outcome next byAck => exact Option.some.inj h ▸ .quiet .of_writeNodeRun
  | mirror v r next byAck => exact Option.some.inj h ▸ .quiet (.of_mirrorResult (idle_next next _))
  | advance v exitCode byAck => exact Option.some.inj h ▸ advance_moves
  | execute runId nodeId cause => exact Option.some.inj h ▸ executeNode_moves hth
  | executor run node nodeRunId => exact Option.some.inj h ▸ runExecutor_moves hth
  | stamp run node nodeRunId => exact Option.some.inj h ▸ .quiet (.of_rows rfl rfl rfl rfl (idle_of_mem_set rfl))
  | enqueue run node nodeRunId command targets =>
      cases targets with
      | nil => exact Option.some.inj h ▸ .quiet (quiet_setThread s i rfl)
      | cons target rest => exact Option.some.inj h ▸ .command i nodeRunId target rest command now hth
  | mark runId failure => exact Option.some.inj h ▸ .quiet .of_mark
  | cancelRun runId =>
      exact Option.some.inj h ▸ .quiet ((quiet_setThread s i rfl).trans (quiet_modifyRun _ _ fun _ => ⟨rfl, rfl, rfl, rfl⟩))
  | cancelNodes runId =>
      refine Option.some.inj h ▸ .quiet ((quiet_nodeRuns s fun nr => ?_).trans
        (.of_rows rfl rfl rfl rfl (idle_of_mem_set rfl)))
      split <;> exact ⟨rfl, rfl⟩
  | cancelCommands nodeRunIds =>
      refine Option.some.inj h ▸ .quiet ((quiet_setThread s i rfl).trans (quiet_commands _ fun c => ?_))
      split <;> exact ⟨rfl, rfl, rfl⟩
  | done => cases h

theorem startRun_moves {scenarioId deviceId : ℕ} {opts : StartOpts} {denial : Option String} {record : Bool} :
    Moves s (startRun s scenarioId deviceId opts denial record) := by
  rcases startRun_cases s scenarioId deviceId opts denial record with
    heq | ⟨run, hid, heq⟩ | ⟨run, th, hid, hth, heq⟩ <;> rw [heq]
  · exact .quiet (.refl s)
  · have hmove := Moves.started [] hid fun _ hth => absurd hth List.not_mem_nil
    rw [List.append_nil] at hmove
    exact hmove
  · refine .started [th] hid fun th' hth' => ?_
    rw [List.mem_singleton.1 hth']
    rcases hth with ⟨message, rfl⟩ | ⟨nodeId, rfl⟩
    · exact .inl rfl
    · exact .inr ⟨nodeId, none, rfl⟩

/-- **What a step of the engine can do.** -/
theorem engineStep_moves {op : EngineOp} (h : engineStep s op = some t) : Moves s t := by
  cases op with
  | startRun scenarioId deviceId opts denial record => exact Option.some.inj h ▸ startRun_moves
  | run i now =>
      obtain ⟨task, hth, htask⟩ := Option.bind_eq_some_iff.1 h
      exact runTask_moves hth htask
  | fail i message => exact .quiet (.of_failThread h)
  | ack deviceId a now => exact Option.some.inj h ▸ .quiet .of_ackCommand
  | expire now => exact Option.some.inj h ▸ .quiet .of_expire
  | notifyTimeout => exact .quiet (.of_notifyTimeout h)
  | fire nodeRunId =>
      simp only [engineStep] at h
      split at h
      · refine Option.some.inj h ▸ .quiet (Quiet.trans ?_ (.of_startAck _ _ _))
        exact .of_rows rfl rfl rfl rfl fun _ hth => .inl hth
      · cases h
  | cancelRun runId tenantId =>
      cases h
      unfold startCancel
      split
      · exact .quiet (.refl s)
      · split
        · exact .quiet (.of_rows rfl rfl rfl rfl (idle_of_mem_append rfl))
        · exact .quiet (.refl s)
  | edit db => exact Option.some.inj h ▸ .quiet .of_editGraph
  | restart => exact Option.some.inj h ▸ .quiet (.of_rows rfl rfl rfl rfl fun _ hth => absurd hth List.not_mem_nil)
  | rearm now =>
      simp only [engineStep] at h
      split at h
      · cases h
      · exact Option.some.inj h ▸ .quiet .of_rearm

end Moves

/-- Every step keeps what the tasks say of their runs. -/
theorem EngineRows.moves {s t : EngineState} (h : EngineRows s) (hmoves : Moves s t) : EngineRows t := by
  have hknown {i : ℕ} {th : Thread} (hth : s.threads[i]? = some th) : th.Known s :=
    h.threads th (List.mem_of_getElem? hth)
  cases hmoves with
  | quiet hq => exact h.quiet hq
  | goTo i runId cause advanced hrun he hscenario =>
      have hid := key_of_get hrun
      exact h.set (a := .execute _ _ _) (hid ▸ h.runs _ (mem_of_get hrun))
  | enter i nodeId cause runs caused hth hrun hnode hid hrunId hruns =>
      exact h.executeNode hrun hid hrunId fun r hr =>
        let ⟨r₀, hr₀, heq, _⟩ := hruns r hr
        ⟨r₀, hr₀, heq⟩
  | send i nodeRunId command fanOuts hth htype =>
      have hrow := hknown hth
      exact h.set (a := .enqueue _ _ _ _ _) hrow
  | command i nodeRunId target rest command now hth =>
      have hrow := hknown hth
      exact (h.set (i := i) (a := .enqueue _ _ _ command rest) hrow).enqueueCommand hrow.2.1
  | started threads hid hthreads => exact h.insertRun hid hthreads

end Obliance.Scenario
