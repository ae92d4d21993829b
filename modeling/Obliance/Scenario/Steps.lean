import Obliance.Lib.Dialogue
import Obliance.Scenario.Executors

/-!
# The engine of the step lists (`services/scenario.service.ts`, `executeNextStep`, `handleScenarioCommandAck`)

* `StepRow`, `StepRunRow` : the steps of a scenario and their runs;
* `executeNextStep`, `handleScenarioCommandAck` : the state machine check, resolve, recheck;
* `stepsAsker` : a run, each of its commands acked once;
* `stepsDialogue` : what a step list asks, by what the exit code of a resolve script decides;
* `follows_startSteps` : the engine follows the dialogue in which a failed resolve script ends the run.
-/

namespace Obliance.Scenario
open KeyedTable Dialogues

/-- A row of `scenario_steps`. -/
structure StepRow where
  id : ℕ
  name : String
  checkScriptId : Option ℕ
  resolveScriptId : Option ℕ
  timeoutSeconds : ℕ
  retryCount : ℕ
  deriving DecidableEq, Repr

inductive StepRunStatus where
  | pending
  | checkRunning
  | resolveRunning
  | recheckRunning
  | success
  | failed
  | skipped
  deriving DecidableEq, Repr

/-- The columns of a phase. -/
structure PhaseResult where
  exitCode : Option ℤ
  stdout : Option String
  stderr : Option String
  deriving DecidableEq, Repr

def PhaseResult.empty : PhaseResult := ⟨none, none, none⟩

/-- A row of `scenario_step_runs`. -/
structure StepRunRow where
  id : ℕ
  stepId : ℕ
  status : StepRunStatus
  retryAttempt : ℕ
  check : PhaseResult
  resolve : PhaseResult
  recheck : PhaseResult
  deriving DecidableEq, Repr

/-- `source_type` of a command, without its prefix `scenario_step_`. -/
inductive StepPhase where
  | check
  | resolve
  | recheck
  deriving DecidableEq, Repr

structure StepCommand where
  phase : StepPhase
  stepRunId : ℕ
  scriptId : Option ℕ
  expiresInSeconds : ℕ
  deriving DecidableEq, Repr

/-- A run with its step runs in `sort_order`, and its commands that wait for an ack. -/
structure StepsState where
  steps : List StepRow
  stepRuns : List StepRunRow
  status : RunStatus
  currentStep : ℕ
  errorMessage : Option String
  commands : List StepCommand
  deriving DecidableEq, Repr

/-- A script id as a condition sees it. -/
def truthyId (id : Option ℕ) : Option ℕ := id.filter (· ≠ 0)

namespace StepsState

def step (s : StepsState) (id : ℕ) : Option StepRow := get StepRow.id s.steps id

def stepRun (s : StepsState) (id : ℕ) : Option StepRunRow := get StepRunRow.id s.stepRuns id

def modifyStepRun (s : StepsState) (id : ℕ) (f : StepRunRow → StepRunRow) : StepsState :=
  { s with stepRuns := KeyedTable.modify StepRunRow.id s.stepRuns id f }

/-- `commandService.enqueue` for a phase of a step. -/
def enqueue (s : StepsState) (phase : StepPhase) (stepRunId : ℕ) (scriptId : Option ℕ) (step : StepRow) :
    StepsState :=
  { s with commands := s.commands ++ [⟨phase, stepRunId, scriptId,
      if step.timeoutSeconds = 0 then 300 else step.timeoutSeconds⟩] }

def markRunComplete (s : StepsState) : StepsState := { s with status := .success }

/-- The pending steps are skipped. -/
def markRunFailed (s : StepsState) (errorMessage : String) : StepsState :=
  { s with
    status := .failure
    errorMessage := some errorMessage
    stepRuns := s.stepRuns.map fun r => if r.status = .pending then { r with status := .skipped } else r }

end StepsState

open StepsState

/-- The recursion of `executeNextStep`, over the step runs from the current one on. -/
def executeFrom : List StepRunRow → StepsState → StepsState
  | [], s => s.markRunComplete
  | stepRun :: rest, s =>
      match s.step stepRun.stepId with
      | none => s.markRunFailed ("Step definition not found for step_id " ++ toString stepRun.stepId)
      | some step =>
          match truthyId step.checkScriptId, truthyId step.resolveScriptId with
          | some scriptId, _ =>
              (s.modifyStepRun stepRun.id fun r => { r with status := .checkRunning }).enqueue .check
                stepRun.id (some scriptId) step
          | none, some scriptId =>
              (s.modifyStepRun stepRun.id fun r => { r with status := .resolveRunning }).enqueue .resolve
                stepRun.id (some scriptId) step
          | none, none =>
              executeFrom rest
                { (s.modifyStepRun stepRun.id fun r => { r with status := .success }) with
                  currentStep := s.currentStep + 1 }

def executeNextStep (s : StepsState) : StepsState :=
  if s.status ≠ .running then s else executeFrom (s.stepRuns.drop s.currentStep) s

/-- `${exitCode}` -/
def exitText (exitCode : Option ℤ) : String := (exitCode.map toString).getD "null"

/-- The step is done, the run goes on. -/
def stepPassed (s : StepsState) (stepRunId : ℕ) : StepsState :=
  executeNextStep { (s.modifyStepRun stepRunId fun r => { r with status := .success }) with
    currentStep := s.currentStep + 1 }

/-- The step and the run have failed. -/
def stepFailed (s : StepsState) (stepRunId : ℕ) (errorMessage : String) : StepsState :=
  (s.modifyStepRun stepRunId fun r => { r with status := .failed }).markRunFailed errorMessage

def handleScenarioCommandAck (s : StepsState) (phase : StepPhase) (stepRunId : ℕ) (result : PhaseResult) :
    StepsState :=
  match s.stepRun stepRunId with
  | none => s
  | some stepRun =>
      if s.status ≠ .running then s
      else match s.step stepRun.stepId with
        | none => s
        | some step =>
            let success := decide (result.exitCode = some 0)
            let text := "Step \"" ++ step.name ++ "\" "
            let code := " (exit code " ++ exitText result.exitCode ++ ")"
            match phase with
            | .check =>
                let s := s.modifyStepRun stepRunId fun r => { r with check := result }
                if success then stepPassed s stepRunId
                else match truthyId step.resolveScriptId with
                  | some scriptId =>
                      (s.modifyStepRun stepRunId fun r => { r with status := .resolveRunning }).enqueue
                        .resolve stepRunId (some scriptId) step
                  | none => stepFailed s stepRunId (text ++ "check failed" ++ code)
            | .resolve =>
                let s := s.modifyStepRun stepRunId fun r => { r with resolve := result }
                if success then
                  match truthyId step.checkScriptId with
                  | some scriptId =>
                      (s.modifyStepRun stepRunId fun r => { r with status := .recheckRunning }).enqueue
                        .recheck stepRunId (some scriptId) step
                  | none => stepPassed s stepRunId
                else if stepRun.retryAttempt < step.retryCount then
                  (s.modifyStepRun stepRunId fun r =>
                    { r with
                      retryAttempt := stepRun.retryAttempt + 1
                      status := .resolveRunning
                      resolve := .empty }).enqueue .resolve stepRunId step.resolveScriptId step
                else
                  stepFailed s stepRunId (text ++ "resolve failed after " ++ toString step.retryCount ++
                    " retries" ++ code)
            | .recheck =>
                let s := s.modifyStepRun stepRunId fun r => { r with recheck := result }
                if success then stepPassed s stepRunId
                else stepFailed s stepRunId (text ++ "recheck failed after remediation" ++ code)

/-- A new run: a pending step run for each step; their ids number them. -/
def startSteps (steps : List StepRow) : StepsState :=
  executeNextStep
    { steps := steps
      stepRuns := steps.map fun step => ⟨step.id, step.id, .pending, 0, .empty, .empty, .empty⟩
      status := .running
      currentStep := 0
      errorMessage := none
      commands := [] }

/-- The questions are the scripts the agent executes, the answers their exit codes. -/
def stepsAsker : Asker StepsState ℕ ℤ RunStatus where
  step _ := none
  question s :=
    match s.commands with
    | [] => none
    | c :: rest => c.scriptId.map fun scriptId => (scriptId, fun code =>
        handleScenarioCommandAck { s with commands := rest } c.phase c.stepRunId ⟨some code, some "", some ""⟩)
  result s := s.status

/-! ## What a step list asks -/

/-- The scripts of a step; `resolved` tells from the exit code of the resolve script whether the run
goes on behind it. -/
def stepDialogue (resolved : ℤ → Bool) (step : StepRow) (next : Dialogue ℕ ℤ RunStatus) :
    Dialogue ℕ ℤ RunStatus :=
  let ifPassed := fun (passed : Bool) (d : Dialogue ℕ ℤ RunStatus) => if passed then d else .stop .failure
  match step.checkScriptId, step.resolveScriptId with
  | none, none => next
  | none, some resolve => .ask resolve fun code => ifPassed (resolved code) next
  | some check, none => .ask check fun code => ifPassed (code = 0) next
  | some check, some resolve =>
      .ask check fun code =>
        if code = 0 then next
        else .ask resolve fun code =>
          ifPassed (resolved code) (.ask check fun code => ifPassed (code = 0) next)

def stepsDialogue (resolved : ℤ → Bool) (steps : List StepRow) : Dialogue ℕ ℤ RunStatus :=
  steps.foldr (stepDialogue resolved) (.stop .success)

theorem stepsDialogue_cons (resolved : ℤ → Bool) (step : StepRow) (steps : List StepRow) :
    stepsDialogue resolved (step :: steps) = stepDialogue resolved step (stepsDialogue resolved steps) := rfl

/-! ## The engine follows the dialogue -/

/-- What a step run never changes while no retry is allowed. -/
def StepRunRow.identity (r : StepRunRow) : ℕ × ℕ × ℕ := (r.id, r.stepId, r.retryAttempt)

/-- A running run of the steps that waits for no ack. -/
structure StepsInv (steps : List StepRow) (s : StepsState) : Prop where
  list : s.steps = steps
  rows : s.stepRuns.map StepRunRow.identity = steps.map fun step => (step.id, step.id, 0)
  running : s.status = .running
  idle : s.commands = []

/-- Step lists with script ids that exist and no retries. -/
structure PlainSteps (steps : List StepRow) : Prop where
  keyed : Keyed StepRow.id steps
  scripts : ∀ step ∈ steps, ∀ id, step.checkScriptId = some id ∨ step.resolveScriptId = some id → id ≠ 0
  noRetry : ∀ step ∈ steps, step.retryCount = 0

section Follows
variable {steps : List StepRow} {s : StepsState} {step : StepRow} {id : ℕ} {result : PhaseResult}

theorem executeNextStep_of_running (h : s.status = .running) :
    executeNextStep s = executeFrom (s.stepRuns.drop s.currentStep) s := if_neg (not_not.2 h)

theorem map_identity_modify {f : StepRunRow → StepRunRow} (hf : ∀ r, (f r).identity = r.identity) :
    (s.modifyStepRun id f).stepRuns.map StepRunRow.identity = s.stepRuns.map StepRunRow.identity := by
  simp only [StepsState.modifyStepRun, KeyedTable.modify, List.map_map]
  refine List.map_congr_left fun r _ => ?_
  simp only [Function.comp_apply]
  split
  · exact hf r
  · rfl

theorem StepsInv.modify (h : StepsInv steps s) {f : StepRunRow → StepRunRow}
    (hf : ∀ r, (f r).identity = r.identity) : StepsInv steps (s.modifyStepRun id f) :=
  ⟨h.list, (map_identity_modify hf).trans h.rows, h.running, h.idle⟩

theorem StepsInv.setStatus (h : StepsInv steps s) (id : ℕ) (status : StepRunStatus) :
    StepsInv steps (s.modifyStepRun id fun r => { r with status := status }) := h.modify fun _ => rfl

theorem StepsInv.setCheck (h : StepsInv steps s) (id : ℕ) (result : PhaseResult) :
    StepsInv steps (s.modifyStepRun id fun r => { r with check := result }) := h.modify fun _ => rfl

theorem StepsInv.setResolve (h : StepsInv steps s) (id : ℕ) (result : PhaseResult) :
    StepsInv steps (s.modifyStepRun id fun r => { r with resolve := result }) := h.modify fun _ => rfl

theorem StepsInv.setRecheck (h : StepsInv steps s) (id : ℕ) (result : PhaseResult) :
    StepsInv steps (s.modifyStepRun id fun r => { r with recheck := result }) := h.modify fun _ => rfl

theorem PlainSteps.truthy_check (h : PlainSteps steps) (hmem : step ∈ steps) :
    truthyId step.checkScriptId = step.checkScriptId := by
  cases hc : step.checkScriptId with
  | none => rfl
  | some id => simp [truthyId, h.scripts step hmem id (.inl hc)]

theorem PlainSteps.truthy_resolve (h : PlainSteps steps) (hmem : step ∈ steps) :
    truthyId step.resolveScriptId = step.resolveScriptId := by
  cases hr : step.resolveScriptId with
  | none => rfl
  | some id => simp [truthyId, h.scripts step hmem id (.inr hr)]

theorem PlainSteps.step_eq (h : PlainSteps steps) (hinv : StepsInv steps s) (hmem : step ∈ steps) :
    s.step step.id = some step := by
  rw [StepsState.step, hinv.list]
  exact (get_eq_some_iff h.keyed).2 ⟨hmem, rfl⟩

/-- The step run of a step. -/
theorem PlainSteps.stepRun_eq (h : PlainSteps steps) (hinv : StepsInv steps s) (hmem : step ∈ steps) :
    ∃ r, s.stepRun step.id = some r ∧ r.stepId = step.id ∧ r.retryAttempt = 0 := by
  have hrow : (step.id, step.id, 0) ∈ s.stepRuns.map StepRunRow.identity := by
    rw [hinv.rows]
    exact List.mem_map.2 ⟨step, hmem, rfl⟩
  obtain ⟨r, hr, he⟩ := List.mem_map.1 hrow
  simp only [StepRunRow.identity, Prod.mk.injEq] at he
  have hkeyed : Keyed StepRunRow.id s.stepRuns := by
    have hids : s.stepRuns.map StepRunRow.id = steps.map StepRow.id := by
      have := congrArg (List.map Prod.fst) hinv.rows
      simpa only [List.map_map, Function.comp_def, StepRunRow.identity] using this
    rw [Keyed, hids]
    exact h.keyed
  exact ⟨r, (get_eq_some_iff hkeyed).2 ⟨hr, he.1⟩, he.2⟩

/-- An ack of a step of the list, when no retry is allowed. -/
theorem PlainSteps.ack_eq (h : PlainSteps steps) (hinv : StepsInv steps s) (hmem : step ∈ steps)
    (phase : StepPhase) : ∃ message, handleScenarioCommandAck s phase step.id result =
      match phase with
      | .check =>
          let s := s.modifyStepRun step.id fun r => { r with check := result }
          if result.exitCode = some 0 then stepPassed s step.id
          else match step.resolveScriptId with
            | some scriptId =>
                (s.modifyStepRun step.id fun r => { r with status := .resolveRunning }).enqueue .resolve
                  step.id (some scriptId) step
            | none => stepFailed s step.id message
      | .resolve =>
          let s := s.modifyStepRun step.id fun r => { r with resolve := result }
          if result.exitCode = some 0 then
            match step.checkScriptId with
            | some scriptId =>
                (s.modifyStepRun step.id fun r => { r with status := .recheckRunning }).enqueue .recheck
                  step.id (some scriptId) step
            | none => stepPassed s step.id
          else stepFailed s step.id message
      | .recheck =>
          let s := s.modifyStepRun step.id fun r => { r with recheck := result }
          if result.exitCode = some 0 then stepPassed s step.id else stepFailed s step.id message := by
  obtain ⟨r, hr, hid, hretry⟩ := h.stepRun_eq hinv hmem
  have hstep := h.step_eq hinv hmem
  unfold handleScenarioCommandAck
  simp only [hr, hid, hstep, hinv.running, hretry, h.noRetry step hmem, h.truthy_check hmem,
    h.truthy_resolve hmem, ne_eq, not_true_eq_false, if_false, decide_eq_true_eq, lt_irrefl]
  cases phase with
  | check => exact ⟨_, rfl⟩
  | resolve => exact ⟨_, rfl⟩
  | recheck => exact ⟨_, rfl⟩

theorem follows_stop (hidle : s.commands = []) {status : RunStatus} (hs : s.status = status) :
    Follows stepsAsker s (.stop status) := by
  subst hs
  exact .stop rfl (by simp only [stepsAsker, hidle])

theorem follows_failed (hinv : StepsInv steps s) (message : String) :
    Follows stepsAsker (stepFailed s id message) (.stop .failure) :=
  follows_stop (s := stepFailed s id message) hinv.idle rfl

/-- The script of a phase is asked, then its ack is handled. -/
theorem follows_enqueue (hinv : StepsInv steps s) {phase : StepPhase} {scriptId : ℕ}
    {k : ℤ → Dialogue ℕ ℤ RunStatus}
    (hk : ∀ code, Follows stepsAsker
      (handleScenarioCommandAck s phase id ⟨some code, some "", some ""⟩) (k code)) :
    Follows stepsAsker (s.enqueue phase id (some scriptId) step) (.ask scriptId k) := by
  have hs : { s with commands := [] } = s := by rw [← hinv.idle]
  have hquestion : stepsAsker.question (s.enqueue phase id (some scriptId) step) = some (scriptId, fun code =>
      handleScenarioCommandAck s phase id ⟨some code, some "", some ""⟩) := by
    simp only [stepsAsker, StepsState.enqueue, hinv.idle, List.nil_append, Option.map_some, hs]
  exact .ask rfl hquestion hk

/-- The ack of a recheck: the run goes on when the script exited with 0. -/
theorem PlainSteps.follows_recheck (h : PlainSteps steps) (hinv : StepsInv steps s) (hmem : step ∈ steps)
    {next : Dialogue ℕ ℤ RunStatus}
    (hnext : ∀ t, StepsInv steps t → t.currentStep = s.currentStep →
      Follows stepsAsker (stepPassed t step.id) next) (code : ℤ) :
    Follows stepsAsker (handleScenarioCommandAck s .recheck step.id ⟨some code, some "", some ""⟩)
      (if code = 0 then next else .stop .failure) := by
  obtain ⟨message, hack⟩ := h.ack_eq hinv hmem .recheck
  rw [hack]
  by_cases hc : code = 0
  · simp only [hc, if_true]
    exact hnext _ (hinv.setRecheck _ _) rfl
  · simp only [Option.some.injEq, hc, if_false]
    exact follows_failed (hinv.setRecheck _ _) message

/-- The ack of a resolve script: the step is checked again, if it has a check. -/
theorem PlainSteps.follows_resolve (h : PlainSteps steps) (hinv : StepsInv steps s) (hmem : step ∈ steps)
    {next : Dialogue ℕ ℤ RunStatus}
    (hnext : ∀ t, StepsInv steps t → t.currentStep = s.currentStep →
      Follows stepsAsker (stepPassed t step.id) next) (code : ℤ) :
    Follows stepsAsker (handleScenarioCommandAck s .resolve step.id ⟨some code, some "", some ""⟩)
      (if code = 0 then match step.checkScriptId with
        | some check => .ask check fun code => if code = 0 then next else .stop .failure
        | none => next
      else .stop .failure) := by
  obtain ⟨message, hack⟩ := h.ack_eq hinv hmem .resolve
  rw [hack]
  by_cases hc : code = 0
  · have hmod := hinv.setResolve step.id ⟨some 0, some "", some ""⟩
    cases hcheck : step.checkScriptId with
    | none =>
        simp only [hc, if_true]
        exact hnext _ hmod rfl
    | some check =>
        simp only [hc, if_true]
        have hstatus := hmod.setStatus step.id .recheckRunning
        exact follows_enqueue hstatus (h.follows_recheck hstatus hmem hnext)
  · simp only [Option.some.injEq, hc, if_false]
    exact follows_failed (hinv.setResolve _ _) message

/-- The ack of a check: the step is resolved, if it can be. -/
theorem PlainSteps.follows_check (h : PlainSteps steps) (hinv : StepsInv steps s) (hmem : step ∈ steps)
    {next : Dialogue ℕ ℤ RunStatus}
    (hnext : ∀ t, StepsInv steps t → t.currentStep = s.currentStep →
      Follows stepsAsker (stepPassed t step.id) next) (code : ℤ) :
    Follows stepsAsker (handleScenarioCommandAck s .check step.id ⟨some code, some "", some ""⟩)
      (if code = 0 then next else match step.resolveScriptId with
        | some resolve => .ask resolve fun code => if code = 0 then match step.checkScriptId with
            | some check => .ask check fun code => if code = 0 then next else .stop .failure
            | none => next
          else .stop .failure
        | none => .stop .failure) := by
  obtain ⟨message, hack⟩ := h.ack_eq hinv hmem .check
  rw [hack]
  by_cases hc : code = 0
  · simp only [hc, if_true]
    exact hnext _ (hinv.setCheck _ _) rfl
  · have hmod := hinv.setCheck step.id ⟨some code, some "", some ""⟩
    cases hresolve : step.resolveScriptId with
    | none =>
        simp only [Option.some.injEq, hc, if_false]
        exact follows_failed hmod message
    | some resolve =>
        simp only [Option.some.injEq, hc, if_false]
        have hstatus := hmod.setStatus step.id .resolveRunning
        exact follows_enqueue hstatus (h.follows_resolve hstatus hmem hnext)

theorem PlainSteps.follows_executeFrom (h : PlainSteps steps) (rest : List StepRow) :
    ∀ (rows : List StepRunRow) (s : StepsState), StepsInv steps s →
      rows.map StepRunRow.identity = rest.map (fun step => (step.id, step.id, 0)) →
      steps.drop s.currentStep = rest →
      Follows stepsAsker (executeFrom rows s) (stepsDialogue (fun code => code = 0) rest) := by
  induction rest with
  | nil =>
      intro rows s hinv hrows _
      rw [List.map_nil, List.map_eq_nil_iff] at hrows
      subst hrows
      exact follows_stop (s := s.markRunComplete) hinv.idle rfl
  | cons step rest ih =>
      intro rows s hinv hrows hdrop
      have hmem : step ∈ steps := List.mem_of_mem_drop (hdrop ▸ List.mem_cons_self)
      have hrest : steps.drop (s.currentStep + 1) = rest := by rw [← List.tail_drop, hdrop, List.tail_cons]
      -- the step has passed: the next one is executed
      have hnext : ∀ t, StepsInv steps t → t.currentStep = s.currentStep →
          Follows stepsAsker (stepPassed t step.id) (stepsDialogue (fun code => code = 0) rest) := by
        intro t ht hcur
        have hpassed := ht.setStatus step.id .success
        rw [stepPassed, executeNextStep_of_running (by exact ht.running), hcur]
        refine ih _ _ ⟨hpassed.list, hpassed.rows, hpassed.running, hpassed.idle⟩ ?_ hrest
        rw [List.map_drop, hpassed.rows, ← List.map_drop, hrest]
      obtain ⟨row, rows, rfl⟩ : ∃ row rows', rows = row :: rows' := by
        cases rows with
        | nil => cases hrows
        | cons row rows => exact ⟨row, rows, rfl⟩
      simp only [List.map_cons, List.cons.injEq, StepRunRow.identity, Prod.mk.injEq] at hrows
      obtain ⟨⟨hid, hstepId, -⟩, hrows⟩ := hrows
      have hstep : s.step row.stepId = some step := hstepId ▸ h.step_eq hinv hmem
      have hcheck := h.truthy_check hmem
      have hresolve := h.truthy_resolve hmem
      unfold executeFrom
      simp only [hstep, hcheck, hresolve, hid, stepsDialogue_cons, stepDialogue]
      cases hc : step.checkScriptId with
      | none =>
          cases hr : step.resolveScriptId with
          | none =>
              have hmod := hinv.setStatus step.id .success
              exact ih _ _ ⟨hmod.list, hmod.rows, hmod.running, hmod.idle⟩ hrows hrest
          | some resolve =>
              have hmod := hinv.setStatus step.id .resolveRunning
              refine follows_enqueue hmod fun code => ?_
              simpa [hc] using h.follows_resolve hmod hmem hnext code
      | some check =>
          have hmod := hinv.setStatus step.id .checkRunning
          cases hr : step.resolveScriptId with
          | none =>
              refine follows_enqueue hmod fun code => ?_
              simpa [hr] using h.follows_check hmod hmem hnext code
          | some resolve =>
              refine follows_enqueue hmod fun code => ?_
              simpa [hc, hr] using h.follows_check hmod hmem hnext code

/-- **The engine of the step lists** asks the scripts of the list, and a resolve script that does not
exit with 0 ends the run. -/
theorem PlainSteps.follows_startSteps (h : PlainSteps steps) :
    Follows stepsAsker (startSteps steps) (stepsDialogue (fun code => code = 0) steps) := by
  have hrows : ∀ l : List StepRow, (l.map fun step => (⟨step.id, step.id, .pending, 0, .empty, .empty, .empty⟩ :
      StepRunRow)).map StepRunRow.identity = l.map fun step => (step.id, step.id, 0) := by
    intro l
    rw [List.map_map]
    rfl
  exact h.follows_executeFrom steps _ _ ⟨rfl, hrows steps, rfl, rfl⟩ (hrows steps) rfl

end Follows

end Obliance.Scenario
