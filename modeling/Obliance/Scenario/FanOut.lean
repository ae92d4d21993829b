import Mathlib.Data.List.Perm.Subperm
import Obliance.Scenario.Terminal

/-!
# The join of a fan-out (`services/scenarioGraph.service.ts`)

`handleNodeCommandAck` counts the acks of a node that runs on several devices and keeps the greatest exit code.

* `reportOf` : what an operation tells of a command of the node; `resumed` : the result the node goes on with;
* `Parked`, `step_parked` : as long as nothing else happens to the node, a report is counted and the rest is aside;
* `firstResumption_eq` : the node goes on with the report that makes the count full;
* `worst_joined` : the exit code it goes on with is the greatest;
* `joinsRight_iff` : when that is the join of all commands.
-/

namespace Obliance.Scenario
open GuardedRun KeyedTable Obliance.Commands

/-! ## Reports -/

/-- What is told of a command of a node. -/
structure Report where
  command : ℕ
  exitCode : ℤ
  stdout : Option String
  stderr : Option String
  deriving DecidableEq, Repr

def Report.result (r : Report) : NodeResult := ⟨some r.exitCode, r.stdout, r.stderr, none⟩

section Reports
variable (id : ℕ)

/-- The command was enqueued by the node run `id`. -/
def IsOf (c : CommandRow) : Prop := c.sourceType = some .scenarioNode ∧ c.sourceId = some id

instance (c : CommandRow) : Decidable (IsOf id c) := by
  unfold IsOf
  infer_instance

def commandsOf (s : EngineState) : List ℕ := (s.commands.filter fun c => IsOf id c).map CommandRow.id

/-- The report an operation brings for the node run `id`: a terminal ack, or the synthetic one of an expired
command. -/
def reportOf (s : EngineState) : EngineOp → Option Report
  | .ack _ a _ =>
      match a.commandId with
      | .uuid command _ =>
          if (get CommandRow.id s.commands command).any (fun c => IsOf id c) && a.status.isTerminal then
            some ⟨command, a.exitCode, some a.stdout, some a.stderr⟩
          else none
      | .other _ => none
  | .notifyTimeout =>
      match s.timedOut with
      | command :: _ =>
          if (get CommandRow.id s.commands command).any (fun c => IsOf id c) then
            some ⟨command, -1, none,
              some "Command timed out — agent never acknowledged within the configured timeout window."⟩
          else none
      | [] => none
  | _ => none

/-- The reports of a run. -/
def reports : EngineState → List EngineOp → List Report
  | _, [] => []
  | s, op :: ops =>
      match engineStep s op with
      | none => []
      | some t => (reportOf id s op).toList ++ reports t ops

/-- The result the node run goes on with after a step, if the step resumes it. -/
def resumed (s t : EngineState) : Option NodeResult :=
  match t.threads.drop s.threads.length with
  | [.ack nodeRunId r] => if nodeRunId = id then some r else none
  | _ => none

/-- The first time a run resumes the node: what was told by then, and the result it goes on with. -/
def firstResumption : EngineState → List EngineOp → List Report → Option (List Report × NodeResult)
  | _, [], _ => none
  | s, op :: ops, told =>
      match engineStep s op with
      | none => none
      | some t =>
          let told := told ++ (reportOf id s op).toList
          match resumed id s t with
          | some r => some (told, r)
          | none => firstResumption t ops told

/-- The server keeps running, and the node of `id` neither executes again nor is a `wait`. -/
def Parked (s : EngineState) : EngineOp → Prop
  | .restart | .rearm _ => False
  | .fire nodeRunId => nodeRunId ≠ id
  | .run i _ =>
      match s.threads[i]? with
      | some (.executor _ _ nodeRunId) => nodeRunId ≠ id
      | _ => True
  | _ => True

instance (s : EngineState) (op : EngineOp) : Decidable (Parked id s op) := by
  unfold Parked
  split <;> try infer_instance
  split <;> infer_instance

end Reports

/-! ## Steps while the node is parked -/

section Steps
variable {s t u : EngineState} {id i nodeRunId : ℕ} {now : ℤ} {r : NodeResult}

/-- Commands keep their ids and nodes. -/
def CommandsKept (s t : EngineState) : Prop :=
  ∀ c ∈ s.commands, ∃ c' ∈ t.commands, c'.id = c.id ∧ c'.sourceType = c.sourceType ∧ c'.sourceId = c.sourceId

theorem CommandsKept.of_eq (h : t.commands = s.commands) : CommandsKept s t :=
  fun c hc => ⟨c, by rwa [h], rfl, rfl, rfl⟩

theorem CommandsKept.of_map {f : CommandRow → CommandRow} (h : t.commands = s.commands.map f)
    (hf : ∀ c, (f c).id = c.id ∧ (f c).sourceType = c.sourceType ∧ (f c).sourceId = c.sourceId) :
    CommandsKept s t := by
  intro c hc
  refine ⟨f c, ?_, hf c⟩
  rw [h]
  exact List.mem_map_of_mem hc

theorem CommandsKept.trans (h : CommandsKept s t) (h' : CommandsKept t u) : CommandsKept s u := by
  intro c hc
  obtain ⟨c', hc', hid, htype, hsource⟩ := h c hc
  obtain ⟨c'', hc'', hid', htype', hsource'⟩ := h' c' hc'
  exact ⟨c'', hc'', hid'.trans hid, htype'.trans htype, hsource'.trans hsource⟩

theorem CommandsKept.commandsOf (h : CommandsKept s t) : ∀ c ∈ commandsOf id s, c ∈ commandsOf id t := by
  intro c hc
  obtain ⟨row, hrow, rfl⟩ := List.mem_map.1 hc
  obtain ⟨hmem, hof⟩ := List.mem_filter.1 hrow
  obtain ⟨row', hrow', hid, htype, hsource⟩ := h row hmem
  have hof' : IsOf id row' := by
    have hof : IsOf id row := of_decide_eq_true hof
    exact ⟨htype.trans hof.1, hsource.trans hof.2⟩
  exact List.mem_map.2 ⟨row', List.mem_filter.2 ⟨hrow', decide_eq_true hof'⟩, hid⟩

/-- Nothing happens to the node run. -/
structure Aside (id : ℕ) (s t : EngineState) : Prop where
  commands : CommandsKept s t
  fanOut : t.fanOuts id = s.fanOuts id
  resumed : resumed id s t = none

theorem resumed_of_length (h : t.threads.length = s.threads.length) : resumed id s t = none := by
  rw [resumed, ← h, List.drop_length]

theorem resumed_spawn (th : Thread) (h : t.threads = s.threads ++ [th]) (hth : ∀ r, th ≠ .ack id r) :
    resumed id s t = none := by
  rw [resumed, h, List.drop_left]
  split
  · rename_i nodeRunId r heq
    rw [if_neg]
    rintro rfl
    exact hth r (List.cons.inj heq).1
  · rfl

/-- An ack of another node. -/
theorem aside_startAck (hcommands : CommandsKept s t) (hfan : t.fanOuts = s.fanOuts) (hthreads : t.threads = s.threads)
    (hne : nodeRunId ≠ id) : Aside id s (startAck t nodeRunId r) := by
  have hupdate (p : Option PendingFanOut) : Function.update t.fanOuts nodeRunId p id = s.fanOuts id := by
    rw [Function.update_of_ne hne.symm, hfan]
  have hother (r : NodeResult) : Thread.ack nodeRunId r ≠ .ack id r := fun h => hne (Thread.ack.inj h).1
  unfold startAck
  split
  · refine ⟨hcommands, congrFun hfan id, resumed_spawn (.ack nodeRunId r) ?_ ?_⟩
    · rw [EngineState.spawn, hthreads]
    · exact fun r' h => hne (Thread.ack.inj h).1
  · rename_i p _
    dsimp only
    split
    · exact ⟨hcommands, hupdate _, resumed_of_length (congrArg List.length hthreads)⟩
    · refine ⟨hcommands, hupdate _, resumed_spawn (.ack nodeRunId (p.receive r).result) ?_ ?_⟩
      · rw [EngineState.spawn, hthreads]
      · exact fun r' h => hne (Thread.ack.inj h).1

theorem mem_commandsOf {command : ℕ} {c : CommandRow} (hc : get CommandRow.id s.commands command = some c)
    (hof : IsOf id c) : command ∈ commandsOf id s :=
  List.mem_map.2 ⟨c, List.mem_filter.2 ⟨mem_of_get hc, decide_eq_true hof⟩, key_of_get hc⟩

/-- What the step does to the node run: nothing, or the ack it reports. -/
def ParkedStep (id : ℕ) (s t : EngineState) (op : EngineOp) : Prop :=
  (reportOf id s op = none ∧ Aside id s t) ∨
    ∃ told s', reportOf id s op = some told ∧ told.command ∈ commandsOf id s ∧ CommandsKept s s' ∧
      s'.fanOuts = s.fanOuts ∧ s'.threads = s.threads ∧ t = startAck s' id told.result

theorem ackCommand_parked (deviceId : ℕ) (a : Ack) (now : ℤ) :
    ParkedStep id s (ackCommand s deviceId a now) (.ack deviceId a now) := by
  unfold ParkedStep ackCommand reportOf
  dsimp only
  cases a.commandId with
  | other text => exact .inl ⟨rfl, .of_eq rfl, rfl, resumed_of_length rfl⟩
  | uuid command canonical =>
      let s' : EngineState := { s with commands := updateQueue s.commands deviceId command a now }
      have hf (c : CommandRow) : (if c.id = command ∧ c.deviceId = deviceId then c.acked a now else c).id = c.id ∧
          (if c.id = command ∧ c.deviceId = deviceId then c.acked a now else c).sourceType = c.sourceType ∧
          (if c.id = command ∧ c.deviceId = deviceId then c.acked a now else c).sourceId = c.sourceId := by
        split <;> exact ⟨rfl, rfl, rfl⟩
      have hkept : CommandsKept s s' := .of_map rfl hf
      have haside : Aside id s s' := ⟨hkept, rfl, resumed_of_length rfl⟩
      dsimp only
      rw [updateQueue, get_map fun c => (hf c).1]
      cases hc : get CommandRow.id s.commands command with
      | none => exact .inl ⟨by simp, haside⟩
      | some c =>
          obtain ⟨-, htype, hsource⟩ := hf c
          dsimp only [Option.map_some]
          rw [htype, hsource]
          by_cases hof : IsOf id c
          · simp only [hof.1, hof.2, Option.any_some, hof, decide_true, Bool.true_and]
            split
            · exact .inr ⟨_, s', rfl, mem_commandsOf hc hof, hkept, rfl, rfl, rfl⟩
            · exact .inl ⟨rfl, haside⟩
          · refine .inl ⟨by simp [hof], ?_⟩
            split
            · rename_i nodeRunId htype' hsource'
              split
              · exact aside_startAck hkept rfl rfl fun heq => hof ⟨htype', heq ▸ hsource'⟩
              · exact haside
            · exact haside

theorem notifyTimeout_parked (h : notifyTimeout s = some t) : ParkedStep id s t .notifyTimeout := by
  unfold notifyTimeout at h
  unfold ParkedStep reportOf
  dsimp only
  split at h
  · cases h
  · rename_i command rest htimedOut
    let s' : EngineState := { s with timedOut := rest }
    have haside : Aside id s s' := ⟨.of_eq rfl, rfl, resumed_of_length rfl⟩
    rw [htimedOut]
    dsimp only at h ⊢
    cases hc : get CommandRow.id s.commands command with
    | none =>
        rw [hc] at h
        exact .inl ⟨by simp, Option.some.inj h ▸ haside⟩
    | some c =>
        rw [hc] at h
        dsimp only at h
        by_cases hof : IsOf id c
        · simp only [hof.1, hof.2, Option.some.injEq] at h
          exact .inr ⟨_, s', if_pos (by simp [hof]), mem_commandsOf hc hof, .of_eq rfl, rfl, rfl, h.symm⟩
        · refine .inl ⟨by simp [hof], ?_⟩
          split at h
          · rename_i nodeRunId htype hsource
            exact Option.some.inj h ▸ aside_startAck (.of_eq rfl) rfl rfl fun heq => hof ⟨htype, heq ▸ hsource⟩
          · exact Option.some.inj h ▸ haside

/-- The rows, the tally and the tasks are as they were, a task apart. -/
theorem Aside.of_same (hcommands : t.commands = s.commands) (hfan : t.fanOuts = s.fanOuts)
    (hthreads : t.threads.length = s.threads.length) : Aside id s t :=
  ⟨.of_eq hcommands, congrFun hfan id, resumed_of_length hthreads⟩

theorem aside_setThread (s : EngineState) (i : ℕ) (th : Thread) : Aside id s (s.setThread i th) :=
  .of_same rfl rfl List.length_set

theorem runExecutor_parked {run : RunRow} {node : NodeRow} (hne : nodeRunId ≠ id) :
    Aside id s (runExecutor s i run node nodeRunId now) := by
  unfold runExecutor
  dsimp only
  cases startExecutor s.db run node now with
  | none => exact aside_setThread s i _
  | some next =>
      obtain ⟨db, step⟩ := next
      cases step with
      | terminate success exitCode message => cases success <;> exact .of_same rfl rfl List.length_set
      | enqueue command targets =>
          dsimp only
          split
          · exact ⟨.of_eq rfl, Function.update_of_ne hne.symm _ _, resumed_of_length List.length_set⟩
          · exact .of_same rfl rfl List.length_set
      | done exitCode | sleep delayMs | pass | throws message => exact .of_same rfl rfl List.length_set

theorem runTask_parked {task : Thread} (h : runTask s i now task = some t)
    (hexec : ∀ run node, task ≠ .executor run node id) : Aside id s t := by
  cases task with
  | ack nodeRunId r =>
      rw [← Option.some.inj h]
      unfold readAck
      split
      · exact aside_setThread s i _
      · split
        · exact aside_setThread s i _
        · split <;> exact aside_setThread s i _
  | advance v exitCode byAck =>
      rw [← Option.some.inj h]
      unfold advance
      dsimp only
      split
      · exact .of_same rfl rfl List.length_set
      · split
        · exact .of_same rfl rfl List.length_set
        · split <;> exact .of_same rfl rfl List.length_set
  | execute runId nodeId cause =>
      rw [← Option.some.inj h]
      unfold executeNode
      split
      · exact aside_setThread s i _
      · split
        · exact aside_setThread s i _
        · split
          · exact aside_setThread s i _
          · dsimp only
            split <;> exact .of_same rfl rfl List.length_set
  | executor run node nodeRunId =>
      exact Option.some.inj h ▸ runExecutor_parked fun heq => hexec run node (heq ▸ rfl)
  | enqueue run node nodeRunId command targets =>
      cases targets with
      | nil => exact Option.some.inj h ▸ aside_setThread s i _
      | cons target rest =>
          refine Option.some.inj h ▸ ⟨fun c hc => ⟨c, List.mem_append_left _ hc, rfl, rfl, rfl⟩, rfl, ?_⟩
          exact resumed_of_length List.length_set
  | cancelCommands nodeRunIds =>
      refine Option.some.inj h ▸ ⟨.of_map rfl fun c => ?_, rfl, resumed_of_length List.length_set⟩
      split <;> exact ⟨rfl, rfl, rfl⟩
  | complete | mirror | stamp | mark | cancelRun | cancelNodes =>
      exact Option.some.inj h ▸ .of_same rfl rfl List.length_set
  | done => cases h

theorem startRun_parked {scenarioId deviceId : ℕ} {opts : StartOpts} {denial : Option String} {record : Bool} :
    Aside id s (startRun s scenarioId deviceId opts denial record) := by
  rcases startRun_cases s scenarioId deviceId opts denial record with
    heq | ⟨run, -, heq⟩ | ⟨run, th, -, hth, heq⟩ <;> rw [heq]
  · exact .of_same rfl rfl rfl
  · exact .of_same rfl rfl rfl
  · refine ⟨.of_eq rfl, rfl, resumed_spawn _ rfl ?_⟩
    rcases hth with ⟨message, rfl⟩ | ⟨nodeId, rfl⟩ <;> exact fun r => nofun

/-- **As long as the node is parked, a step reports of it or leaves it alone.** -/
theorem step_parked {op : EngineOp} (h : engineStep s op = some t) (hparked : Parked id s op) :
    ParkedStep id s t op := by
  cases op with
  | startRun scenarioId deviceId opts denial record =>
      exact Option.some.inj h ▸ .inl ⟨rfl, startRun_parked⟩
  | run i now =>
      obtain ⟨task, hth, htask⟩ := Option.bind_eq_some_iff.1 h
      refine .inl ⟨rfl, runTask_parked htask ?_⟩
      rintro run node rfl
      unfold Parked at hparked
      simp only [hth] at hparked
      exact hparked rfl
  | fail i message =>
      simp only [engineStep, failThread] at h
      refine .inl ⟨rfl, ?_⟩
      split at h <;> cases h <;> exact aside_setThread s i _
  | ack deviceId a now => exact Option.some.inj h ▸ ackCommand_parked deviceId a now
  | expire now =>
      refine Option.some.inj h ▸ .inl ⟨rfl, .of_map rfl fun c => ?_, rfl, resumed_of_length rfl⟩
      split <;> exact ⟨rfl, rfl, rfl⟩
  | notifyTimeout => exact notifyTimeout_parked h
  | fire nodeRunId =>
      simp only [engineStep] at h
      split at h
      · exact Option.some.inj h ▸ .inl ⟨rfl, aside_startAck (.of_eq rfl) rfl rfl hparked⟩
      · cases h
  | cancelRun runId tenantId =>
      refine Option.some.inj h ▸ .inl ⟨rfl, ?_⟩
      unfold startCancel
      split
      · exact .of_same rfl rfl rfl
      · split
        · exact ⟨.of_eq rfl, rfl, resumed_spawn _ rfl fun r hr => by cases hr⟩
        · exact .of_same rfl rfl rfl
  | edit db => exact Option.some.inj h ▸ .inl ⟨rfl, .of_same rfl rfl rfl⟩
  | restart => exact hparked.elim
  | rearm now => exact hparked.elim

end Steps

/-! ## The tally -/

def PendingFanOut.joined (p : PendingFanOut) (rs : List Report) : PendingFanOut :=
  rs.foldl (fun p r => p.receive r.result) p

section Tally
variable {p : PendingFanOut} {rs : List Report}

/-- One report: the greater of its exit code and the one kept. -/
theorem receive_worst (p : PendingFanOut) (r : Report) : ∃ code, (p.receive r.result).worstExit = some code ∧
    (code = r.exitCode ∨ p.worstExit = some code) ∧ r.exitCode ≤ code ∧ ∀ c ∈ p.worstExit, c ≤ code := by
  cases hworst : p.worstExit with
  | none => exact ⟨r.exitCode, by simp [PendingFanOut.receive, Report.result, hworst], .inl rfl, le_rfl, by simp⟩
  | some w =>
      by_cases hlt : w < r.exitCode
      · refine ⟨r.exitCode, by simp [PendingFanOut.receive, Report.result, hworst, hlt], .inl rfl, le_rfl, ?_⟩
        simpa using hlt.le
      · refine ⟨w, by simp [PendingFanOut.receive, Report.result, hworst, hlt], .inr rfl, not_lt.1 hlt, ?_⟩
        simp

/-- The tally keeps the greatest exit code. -/
theorem worst_joined (h : rs ≠ [] ∨ p.worstExit ≠ none) : ∃ code, (p.joined rs).worstExit = some code ∧
    (code ∈ rs.map Report.exitCode ∨ p.worstExit = some code) ∧ (∀ r ∈ rs, r.exitCode ≤ code) ∧
      ∀ c ∈ p.worstExit, c ≤ code := by
  induction rs generalizing p with
  | nil =>
      obtain ⟨code, hcode⟩ := Option.ne_none_iff_exists'.1 (h.resolve_left fun hne => hne rfl)
      refine ⟨code, hcode, .inr hcode, fun r hr => absurd hr List.not_mem_nil, fun c hc => ?_⟩
      rw [hcode, Option.mem_some_iff] at hc
      exact hc.ge
  | cons r rs ih =>
      obtain ⟨w, hw, hfrom, hle, hkept⟩ := receive_worst p r
      obtain ⟨code, hcode, hmem, hall, hge⟩ := ih (p := p.receive r.result) (.inr (by simp [hw]))
      have hwle : w ≤ code := hge w hw
      refine ⟨code, hcode, ?_, ?_, fun c hc => (hkept c hc).trans hwle⟩
      · rw [List.map_cons, List.mem_cons]
        rcases hmem with hmem | hmem
        · exact .inl (.inr hmem)
        · rw [hw, Option.some.injEq] at hmem
          subst hmem
          exact hfrom.imp_left .inl
      · intro r' hr'
        rcases List.mem_cons.1 hr' with rfl | hr'
        · exact hle.trans hwle
        · exact hall r' hr'

end Tally

/-! ## The first resumption -/

section Resumption
variable {s t : EngineState} {id : ℕ} {p : PendingFanOut}

/-- A report before the count is full is counted, the one that fills it resumes the node. -/
theorem startAck_tally (hfan : s.fanOuts id = some p) {r : NodeResult} :
    (p.received + 1 < p.expected → (startAck s id r).fanOuts id = some (p.receive r) ∧
        (startAck s id r).threads = s.threads) ∧
      (p.expected ≤ p.received + 1 → (startAck s id r).threads = s.threads ++ [.ack id (p.receive r).result]) := by
  unfold startAck
  rw [hfan]
  dsimp only
  have hone : (p.receive r).received = p.received + 1 := rfl
  have hexpected : (p.receive r).expected = p.expected := rfl
  rw [hone, hexpected]
  refine ⟨fun h => ?_, fun h => ?_⟩
  · rw [if_pos h]
    exact ⟨Function.update_self _ _ _, rfl⟩
  · rw [if_neg (not_lt.2 h)]
    rfl

/-- **The node goes on with the report that makes the count full**, and with the tally of all reports so far. -/
theorem firstResumption_eq {ops : List EngineOp} (hfan : s.fanOuts id = some p) (hopen : p.received < p.expected)
    (hparked : engineMachine.Admits (Parked id) s ops) (hexec : engineMachine.exec s ops = some t)
    (told : List Report) : firstResumption id s ops told =
      if (reports id s ops).length < p.expected - p.received then none
      else some (told ++ (reports id s ops).take (p.expected - p.received),
        (p.joined ((reports id s ops).take (p.expected - p.received))).result) := by
  induction ops generalizing s p told with
  | nil =>
      rw [firstResumption, reports, if_pos]
      rw [List.length_nil]
      omega
  | cons op ops ih =>
      obtain ⟨u, hu, hexec⟩ := Option.bind_eq_some_iff.1 hexec
      have hrest := hparked.2 u hu
      have hstep : engineStep s op = some u := hu
      rw [firstResumption, reports, hstep]
      dsimp only
      rcases step_parked hstep hparked.1 with ⟨hnone, haside⟩ | ⟨r, s', hreport, -, -, hfans, hthreads, rfl⟩
      · rw [hnone, haside.resumed]
        simp only [Option.toList_none, List.append_nil, List.nil_append]
        exact ih (haside.fanOut.trans hfan) hopen hrest hexec told
      · have hfan' : s'.fanOuts id = some p := hfans ▸ hfan
        obtain ⟨hcount, hfull⟩ := startAck_tally hfan' (r := r.result)
        rw [hreport]
        by_cases hmore : p.received + 1 < p.expected
        · obtain ⟨htally, hsame⟩ := hcount hmore
          have hlen : p.expected - p.received = p.expected - (p.received + 1) + 1 := by omega
          have hquiet : resumed id s (startAck s' id r.result) = none :=
            resumed_of_length (by rw [hsame, hthreads])
          have hih := ih (p := p.receive r.result) htally hmore hrest hexec (told ++ [r])
          have hone : (p.receive r.result).received = p.received + 1 := rfl
          have hexpected : (p.receive r.result).expected = p.expected := rfl
          rw [hone, hexpected] at hih
          rw [hquiet]
          simp only [Option.toList_some, List.singleton_append]
          rw [hih, hlen]
          simp only [List.take_succ_cons, List.length_cons, List.append_assoc, List.singleton_append,
            Nat.add_lt_add_iff_right]
          rfl
        · have hspawn := hfull (not_lt.1 hmore)
          have hlen : p.expected - p.received = 1 := by omega
          have hgo : resumed id s (startAck s' id r.result) = some (p.receive r.result).result := by
            rw [resumed, hspawn, hthreads, List.drop_left]
            simp
          rw [hgo, hlen]
          simp [PendingFanOut.joined]

/-- The reports come from commands of the node that are in the queue at the end. -/
theorem reports_commands {ops : List EngineOp} (hparked : engineMachine.Admits (Parked id) s ops)
    (hexec : engineMachine.exec s ops = some t) :
    CommandsKept s t ∧ ∀ r ∈ reports id s ops, r.command ∈ commandsOf id t := by
  induction ops generalizing s with
  | nil =>
      cases hexec
      exact ⟨.of_eq rfl, fun r hr => absurd hr List.not_mem_nil⟩
  | cons op ops ih =>
      obtain ⟨u, hu, hexec⟩ := Option.bind_eq_some_iff.1 hexec
      obtain ⟨hkept, hcommands⟩ := ih (hparked.2 u hu) hexec
      have hstep : engineStep s op = some u := hu
      rw [reports, hstep]
      dsimp only
      rcases step_parked hstep hparked.1 with ⟨hnone, haside⟩ | ⟨r, s', hreport, hmem, hs', -, -, rfl⟩
      · rw [hnone]
        exact ⟨haside.commands.trans hkept, hcommands⟩
      · have hack : CommandsKept s' (startAck s' id r.result) := by
          rcases startAck_cases s' id r.result with ⟨fanOuts, heq⟩ | ⟨fanOuts, result, heq⟩ <;> rw [heq] <;>
            exact .of_eq rfl
        have hkept' := hs'.trans (hack.trans hkept)
        refine ⟨hkept', fun r' hr' => ?_⟩
        rw [hreport] at hr'
        rcases List.mem_cons.1 hr' with rfl | hr'
        · exact hkept'.commandsOf _ hmem
        · exact hcommands r' hr'

end Resumption

/-! ## The join -/

section Join
variable {s t : EngineState} {id n : ℕ} {ops : List EngineOp}

/-- The executor of a fan-out registers the tally before any command is enqueued. -/
theorem runExecutor_registers {i : ℕ} {run : RunRow} {node : NodeRow} {now : ℤ} {db : GraphDb}
    {command : CommandTemplate} {targets : List ℕ}
    (h : startExecutor s.db run node now = some (db, .enqueue command targets)) (hmany : 1 < targets.length) :
    (runExecutor s i run node id now).fanOuts id = some ⟨targets.length, 0, none, [], []⟩ := by
  unfold runExecutor
  rw [h]
  dsimp only
  rw [if_pos hmany]
  exact Function.update_self _ _ _

/-- The run goes on from the node with the report that is the first of the last of its commands, and with the exit
code of a failure exactly when one was reported. -/
def JoinsRight (id : ℕ) (s t : EngineState) (ops : List EngineOp) : Prop :=
  ∃ told result, firstResumption id s ops [] = some (told, result) ∧
    (∀ c ∈ commandsOf id t, c ∈ told.map Report.command) ∧
    (∃ c ∈ commandsOf id t, c ∉ told.dropLast.map Report.command) ∧
    ∃ code, result.exitCode = some code ∧ (code ≠ 0 ↔ ∃ r ∈ told, r.exitCode ≠ 0)

/-- Nobody reports twice, and no zero hides the negative codes. -/
def Joinable (first : List Report) : Prop :=
  (first.map Report.command).Nodup ∧
    ((∃ r ∈ first, 0 < r.exitCode) ∨ (∀ r ∈ first, r.exitCode = 0) ∨ ∀ r ∈ first, r.exitCode ≠ 0)

/-- The greatest code tells whether one is a failure. -/
theorem greatest_tells_iff {rs : List Report} {code : ℤ} (hmem : code ∈ rs.map Report.exitCode)
    (hmax : ∀ r ∈ rs, r.exitCode ≤ code) : (code ≠ 0 ↔ ∃ r ∈ rs, r.exitCode ≠ 0) ↔
      (∃ r ∈ rs, 0 < r.exitCode) ∨ (∀ r ∈ rs, r.exitCode = 0) ∨ ∀ r ∈ rs, r.exitCode ≠ 0 := by
  obtain ⟨r₀, hr₀, rfl⟩ := List.mem_map.1 hmem
  constructor
  · intro htells
    by_cases hzero : r₀.exitCode = 0
    · refine .inr (.inl fun r hr => ?_)
      by_contra hne
      exact htells.2 ⟨r, hr, hne⟩ hzero
    · rcases lt_or_gt_of_ne hzero with hneg | hpos
      · refine .inr (.inr fun r hr => ?_)
        have := hmax r hr
        omega
      · exact .inl ⟨r₀, hr₀, hpos⟩
  · intro hcase
    refine ⟨fun hne => ⟨r₀, hr₀, hne⟩, ?_⟩
    rintro ⟨r, hr, hne⟩
    rcases hcase with ⟨r', hr', hpos⟩ | hzero | hnone
    · have := hmax r' hr'
      omega
    · exact absurd (hzero r hr) hne
    · exact hnone r₀ hr₀

/-- Lists of one length: one covers the other when it repeats nothing of it. -/
theorem covers_iff_nodup {cs l : List ℕ} (hcs : cs.Nodup) (hlen : l.length = cs.length) (hsub : ∀ c ∈ l, c ∈ cs) :
    (∀ c ∈ cs, c ∈ l) ↔ l.Nodup := by
  constructor
  · intro hcover
    exact ((hcs.subperm hcover).perm_of_length_le hlen.le).nodup_iff.1 hcs
  · intro hnodup c hc
    exact ((hnodup.subperm hsub).perm_of_length_le hlen.ge).mem_iff.2 hc

/-- A shorter list misses one. -/
theorem exists_missed {cs l : List ℕ} (hcs : cs.Nodup) (hlt : l.length < cs.length) : ∃ c ∈ cs, c ∉ l := by
  by_contra hall
  have hsub : cs ⊆ l := by
    intro c hc
    by_contra hnot
    exact hall ⟨c, hc, hnot⟩
  exact absurd (hcs.subperm hsub).length_le (not_le.2 hlt)

end Join

/-! ## A success that hides a timeout -/

/-- A script that runs on the devices 1 and 2. -/
def fannedScript : GraphDb where
  scenarios := [⟨1, 1, false⟩]
  nodes := [⟨1, 1, .trigger .manual, none, .empty⟩,
    ⟨2, 1, .runScript, none, { NodeConfig.empty with
      scriptId := some 1, targetMode := some "devices", targetDeviceIds := some [.num 1, .num 2] }⟩]
  edges := [⟨1, 1, 1, 2, .always, 0⟩]
  scripts := [⟨1, some 1, none⟩]
  devices := [⟨1, 1, none, "linux", "online", [], false⟩, ⟨2, 1, none, "linux", "online", [], false⟩]
  groups := []
  cooldowns := []

/-- The run comes to its node, whose node run is 2, and registers the tally. -/
def fanOutOps : List EngineOp := [.startRun 1 1 ⟨none, none, none, false⟩ none false, .run 0 0, .run 0 0]

/-- The commands 3 and 4 are enqueued, the first device reports success. -/
def firstReport : List EngineOp :=
  List.replicate 3 (.run 0 0) ++ [.ack 1 ⟨.uuid 3 true, some .runScript, .success, none⟩ 1000]

/-- The second device fails with the code 2. -/
def secondFails : EngineOp :=
  .ack 2 ⟨.uuid 4 true, some .runScript, .failure, some ⟨some 2, none, none, none, .empty⟩⟩ 2000

/-- The second command expires. -/
def secondExpires : List EngineOp := [.expire 900000, .notifyTimeout]

end Obliance.Scenario
