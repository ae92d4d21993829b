import Obliance.Scenario.Migrated

/-!
# What the migration of a step list preserves

* `ResolvesPass` : every resolve script the steps come to exits with 0;
* `run_eq_iff` : the two dialogues of a step list then run alike, and only then;
* `follows_startRun` : a migrated scenario, started in the graph engine, follows its dialogue;
* `same_meaning_iff` : so both engines execute the same scripts with the same outcome exactly then;
* `failed_resolve_goes_on` : a resolve script that fails ends the run in one engine only.
-/

namespace Obliance.Scenario
open KeyedTable Dialogues EngineState Obliance.Commands

/-- Every resolve script the steps come to, `asked` the scripts executed before, exits with 0. -/
def ResolvesPass (exit : List ℕ → ℕ → ℤ) : List StepRow → List ℕ → Prop
  | [], _ => True
  | step :: steps, asked =>
      match step.checkScriptId, step.resolveScriptId with
      | none, none => ResolvesPass exit steps asked
      | none, some resolve => exit asked resolve = 0 ∧ ResolvesPass exit steps (asked ++ [resolve])
      | some check, none => exit asked check = 0 → ResolvesPass exit steps (asked ++ [check])
      | some check, some resolve =>
          if exit asked check = 0 then ResolvesPass exit steps (asked ++ [check])
          else exit (asked ++ [check]) resolve = 0 ∧
            (exit (asked ++ [check] ++ [resolve]) check = 0 →
              ResolvesPass exit steps (asked ++ [check] ++ [resolve] ++ [check]))

section Dialogue
variable (exit : List ℕ → ℕ → ℤ)

/-- A graph fails only behind a script. -/
theorem asks_before_failure (steps : List StepRow) : ∀ asked : List ℕ,
    ((stepsDialogue (fun _ => true) steps).run exit asked).2 = .failure →
      asked.length < ((stepsDialogue (fun _ => true) steps).run exit asked).1.length := by
  induction steps with
  | nil =>
      intro asked hfail
      cases hfail
  | cons step steps ih =>
      intro asked hfail
      rw [stepsDialogue_cons, stepDialogue] at hfail ⊢
      dsimp only at hfail ⊢
      split at hfail
      · exact ih asked hfail
      · exact Dialogue.lt_length_run_ask _ _ _ _
      · exact Dialogue.lt_length_run_ask _ _ _ _
      · exact Dialogue.lt_length_run_ask _ _ _ _

/-- **The dialogues of a step list** run alike exactly when every resolve script they come to passes. -/
theorem run_eq_iff (steps : List StepRow) : ∀ asked : List ℕ,
    (stepsDialogue (fun code => code = 0) steps).run exit asked =
      (stepsDialogue (fun _ => true) steps).run exit asked ↔ ResolvesPass exit steps asked := by
  induction steps with
  | nil => exact fun asked => iff_of_true rfl trivial
  | cons step steps ih =>
      intro asked
      rw [stepsDialogue_cons, stepsDialogue_cons, stepDialogue, stepDialogue, ResolvesPass]
      cases step.checkScriptId with
      | none =>
          cases step.resolveScriptId with
          | none => exact ih asked
          | some resolve =>
              by_cases hcode : exit asked resolve = 0
              · simpa [Dialogue.run, hcode] using ih (asked ++ [resolve])
              · -- the list fails here; the graph goes on, and fails later if it does
                refine iff_of_false (fun heq => ?_) fun h => hcode h.1
                simp only [Dialogue.run, hcode, decide_false, Bool.false_eq_true, if_false, if_true] at heq
                have hlt := asks_before_failure exit steps (asked ++ [resolve]) (heq ▸ rfl)
                rw [← heq] at hlt
                exact lt_irrefl _ hlt
      | some check =>
          cases step.resolveScriptId with
          | none =>
              by_cases hcode : exit asked check = 0
              · simpa [Dialogue.run, hcode] using ih (asked ++ [check])
              · simp [Dialogue.run, hcode]
          | some resolve =>
              by_cases hcode : exit asked check = 0
              · simpa [Dialogue.run, hcode] using ih (asked ++ [check])
              · by_cases hresolve : exit (asked ++ [check]) resolve = 0
                · by_cases hrecheck : exit (asked ++ [check] ++ [resolve]) check = 0
                  · have := ih (asked ++ [check] ++ [resolve] ++ [check])
                    simp only [List.append_assoc, List.cons_append, List.nil_append] at hresolve hrecheck this
                    simpa [Dialogue.run, hcode, hresolve, hrecheck] using this
                  · simp only [List.append_assoc, List.cons_append, List.nil_append] at hresolve hrecheck
                    simp [Dialogue.run, hcode, hresolve, hrecheck]
                · -- the graph checks again, whatever the resolve script says
                  refine iff_of_false (fun heq => ?_) fun h => ?_
                  · have hlt := Dialogue.lt_length_run_ask check (fun code => if code = 0 then
                      stepsDialogue (fun _ => true) steps else .stop .failure) exit
                      (asked ++ [check] ++ [resolve])
                    simp only [Dialogue.run, hcode, hresolve, decide_false, Bool.false_eq_true, if_false,
                      if_true] at heq
                    simp only [Dialogue.run] at hlt
                    simp only [decide_eq_true_eq] at heq
                    rw [← heq] at hlt
                    exact lt_irrefl _ hlt
                  · simp only [hcode, hresolve, if_false, false_and] at h

end Dialogue

theorem asks_steps {P : ℕ → Prop} (resolved : ℤ → Bool) {steps : List StepRow}
    (h : ∀ step ∈ steps, ∀ id, step.checkScriptId = some id ∨ step.resolveScriptId = some id → P id) :
    (stepsDialogue resolved steps).Asks P := by
  induction steps with
  | nil => trivial
  | cons step steps ih =>
      have hrest := ih fun step hstep => h step (List.mem_cons_of_mem _ hstep)
      have hcheck : ∀ id, step.checkScriptId = some id → P id :=
        fun id hid => h step List.mem_cons_self id (.inl hid)
      have hresolve : ∀ id, step.resolveScriptId = some id → P id :=
        fun id hid => h step List.mem_cons_self id (.inr hid)
      have hif : ∀ (p : Bool) (d : Dialogue ℕ ℤ RunStatus), d.Asks P →
          (if p then d else Dialogue.stop RunStatus.failure).Asks P := by
        intro p d hd
        cases p with
        | true => exact hd
        | false => trivial
      rw [stepsDialogue_cons, stepDialogue]
      cases hc : step.checkScriptId with
      | none =>
          cases hr : step.resolveScriptId with
          | none => exact hrest
          | some resolve => exact ⟨hresolve _ hr, fun code => hif _ _ hrest⟩
      | some check =>
          cases hr : step.resolveScriptId with
          | none => exact ⟨hcheck _ hc, fun code => hif _ _ hrest⟩
          | some resolve =>
              refine ⟨hcheck _ hc, fun code => ?_⟩
              dsimp only
              split
              · exact hrest
              · exact ⟨hresolve _ hr, fun code => hif _ _ ⟨hcheck _ hc, fun code => hif _ _ hrest⟩⟩

/-! ## A migrated scenario is started -/

/-- The engine does nothing and waits for nothing; the ids in use are below `nextId`. -/
structure Idle (s : EngineState) : Prop where
  tasks : s.threads = []
  settled : ∀ c ∈ s.commands, waiting c = false
  runsUsed : ∀ r ∈ s.runs, r.id < s.nextId
  commandsUsed : ∀ c ∈ s.commands, c.id < s.nextId
  nodeRunsUsed : ∀ nr ∈ s.nodeRuns, nr.id < s.nextId
  fanOuts : ∀ id, s.fanOuts id = none

/-- A scenario that is to be migrated and started on a device, all of whose scripts can be enqueued. -/
structure Startable (db : GraphDb) (steps : List StepRow) (scenarioId tenantId deviceId : ℕ)
    (nodeId : ℕ → ℕ) : Prop where
  migratable : Migratable db scenarioId nodeId
  plain : PlainSteps steps
  tenant : ∀ sc, db.scenario scenarioId = some sc → sc.tenantId = tenantId
  reachable : Reachable db scenarioId tenantId deviceId
  scripts : ∀ step ∈ steps, ∀ id, step.checkScriptId = some id ∨ step.resolveScriptId = some id →
    Enqueues db tenantId id

/-- A plain run from the trigger. -/
def fromTrigger (triggerSource : Option String) : StartOpts := ⟨triggerSource, none, none, false⟩

section Start
variable {db : GraphDb} {s : EngineState} {steps : List StepRow} {scenarioId tenantId deviceId : ℕ}
  {nodeId edgeId : ℕ → ℕ} {triggerType : TriggerType} {source : Option String} {clock : EngineState → ℤ}

/-- The trigger is the entry of the scenario. -/
theorem entryNode_migrate (h : Migratable db scenarioId nodeId) :
    entryNode (migrateScenarioToV2 db scenarioId steps triggerType nodeId edgeId) scenarioId
      (fromTrigger source) = some (nodeId 0, true) := by
  obtain ⟨-, -, hfirst, -⟩ := walk_build steps triggerType
  rw [migrate_eq h]
  have hold : (db.nodes.find? fun n => decide (n.scenarioId = scenarioId) && isTrigger n.type) = none := by
    rw [List.find?_eq_none]
    intro n hn
    simp [h.empty n hn]
  cases hnodes : (buildV2GraphFromV1Steps steps triggerType).nodes with
  | nil =>
      rw [hnodes] at hfirst
      cases hfirst
  | cons n nodes =>
      rw [hnodes] at hfirst
      obtain rfl : n = triggerNode triggerType := Option.some.inj hfirst
      have hnew : (((triggerNode triggerType :: nodes).mapIdx fun i n => n.row scenarioId (nodeId i)).find?
          fun n => decide (n.scenarioId = scenarioId) && isTrigger n.type) =
            some ((triggerNode triggerType).row scenarioId (nodeId 0)) := by
        rw [List.mapIdx_cons]
        exact List.find?_cons_of_pos (by simp [NodeSpec.row, isTrigger, triggerNode])
      have hfind : (db.nodes ++ (triggerNode triggerType :: nodes).mapIdx fun i n =>
          n.row scenarioId (nodeId i)).find? (fun n =>
            decide (n.scenarioId = scenarioId) && isTrigger n.type) =
              some ((triggerNode triggerType).row scenarioId (nodeId 0)) := by
        rw [List.find?_append, hold, Option.none_or, hnew]
      simp only [entryNode, fromTrigger, Option.filter_none, Option.bind_none, Option.none_or, hnodes, hfind,
        Option.map_some]
      rfl

/-- The run is inserted, and the node behind the trigger is executed. -/
theorem startRun_migrated (h : Startable db steps scenarioId tenantId deviceId nodeId)
    (hdb : s.db = migrateScenarioToV2 db scenarioId steps triggerType nodeId edgeId) (source : Option String) :
    ∃ sc target, sc.id = scenarioId ∧ sc.tenantId = tenantId ∧
      (∀ last, Walk (buildV2GraphFromV1Steps steps triggerType) target last
        (stepsDialogue (fun _ => true) steps)) ∧
      startRun s scenarioId deviceId (fromTrigger source) none false =
        { s with
          runs := s.runs ++ [newRun s sc deviceId (fromTrigger source) .running none]
          nextId := s.nextId + 1 }.spawn (.execute s.nextId (nodeId target) none) := by
  obtain ⟨target, -, -, hexits, hwalk⟩ := walk_build steps triggerType
  obtain ⟨sc, hsc⟩ := Option.isSome_iff_exists.1 h.migratable.scenario
  obtain ⟨d, hd, -, hallowed⟩ := h.reachable.device
  have hscenario : s.db.scenario scenarioId = some sc := by
    rw [hdb, migrate_eq h.migratable]
    exact hsc
  have hdevice : get EngineDevice.id s.db.devices deviceId = some d := by
    rw [hdb, migrate_eq h.migratable]
    exact hd
  have hprivate : (d.privacyModeEnabled && !sc.bypassPrivacyMode) = false := by
    rw [hsc, Option.any_some] at hallowed
    cases hp : d.privacyModeEnabled with
    | false => rfl
    | true => simpa [hp] using hallowed
  have hentry : entryNode s.db scenarioId (fromTrigger source) = some (nodeId 0, true) :=
    hdb ▸ entryNode_migrate h.migratable
  obtain ⟨e, he, htarget⟩ : ∃ e, pickNextEdge s.db.edges scenarioId (nodeId 0) none = some e ∧
      e.targetNodeId = nodeId target := by
    have hinstalled : Installed (migrateScenarioToV2 db scenarioId steps triggerType nodeId edgeId) scenarioId
        (buildV2GraphFromV1Steps steps triggerType) nodeId := installed_migrate h.migratable steps triggerType
    have hpick := hinstalled.pick 0 none
    rw [hexits, pickExit_always, Option.map_some, Option.map_eq_some_iff, ← hdb] at hpick
    exact hpick
  refine ⟨sc, target, key_of_get hsc, h.tenant sc hsc, hwalk, ?_⟩
  simp only [startRun, hscenario, hdevice, Option.any_some, hprivate, hentry, he, htarget,
    Bool.false_eq_true, if_false]

/-- **A migrated scenario, started in the graph engine**, asks what its steps ask, except that it goes on
behind a resolve script that fails. -/
theorem follows_startRun (h : Startable db steps scenarioId tenantId deviceId nodeId) (hidle : Idle s)
    (hdb : s.db = migrateScenarioToV2 db scenarioId steps triggerType nodeId edgeId)
    (hsource : ∀ text, source = some text → ¬ "__single_node".toList <:+: text.toList) :
    Follows (graphAsker clock s.nextId) (startRun s scenarioId deviceId (fromTrigger source) none false)
      (stepsDialogue (fun _ => true) steps) := by
  obtain ⟨sc, target, hid, htenant, hwalk, hstart⟩ := startRun_migrated h hdb source
  have hreachable : Reachable (migrateScenarioToV2 db scenarioId steps triggerType nodeId edgeId) scenarioId
      tenantId deviceId := by
    rw [migrate_eq h.migratable]
    exact ⟨h.reachable.devices, h.reachable.device⟩
  have hasks : (stepsDialogue (fun _ => true) steps).Asks
      (Enqueues (migrateScenarioToV2 db scenarioId steps triggerType nodeId edgeId) tenantId) := by
    rw [migrate_eq h.migratable]
    exact asks_steps _ h.scripts
  have hfresh : get RunRow.id s.runs s.nextId = none := get_eq_none_iff.2 fun r hr => (hidle.runsUsed r hr).ne
  rw [hstart]
  refine follows_walk (installed_migrate h.migratable steps triggerType) h.migratable.injective hreachable
    (hwalk none) hasks _ [] none (newRun s sc deviceId (fromTrigger source) .running none)
    ⟨⟨congrArg (· ++ _) hidle.tasks, fun _ ht => (List.not_mem_nil ht).elim⟩, hdb, hidle.settled,
      fun c hc => (hidle.commandsUsed c hc).trans (Nat.lt_succ_self _),
      fun nr hnr => (hidle.nodeRunsUsed nr hnr).trans (Nat.lt_succ_self _), hidle.fanOuts⟩
    ((get_append_fresh hfresh).trans (if_pos rfl))
    ⟨rfl, hid, htenant, rfl, rfl, ?_, rfl, fun _ _ => rfl⟩
  have hplain : (newRun s sc deviceId (fromTrigger source) .running none).triggerSource = source := rfl
  rw [isSingleNode, hplain]
  cases hs : source with
  | none => rfl
  | some text => exact decide_eq_false (hsource text hs)

/-- Both engines end, after the same scripts and with the same outcome, when the k-th script executed
exits with `exit`, which may depend on the scripts before it. -/
def SameMeaning (exit : List ℕ → ℕ → ℤ) (steps : List StepRow) (s : EngineState) (scenarioId deviceId : ℕ)
    (source : Option String) (clock : EngineState → ℤ) : Prop :=
  ∃ out, stepsAsker.Ends exit (startSteps steps) out ∧
    (graphAsker clock s.nextId).Ends exit (startRun s scenarioId deviceId (fromTrigger source) none false) out

end Start

/-! ## One step -/

/-- A scenario that is not migrated yet, a script of its tenant and a device. -/
def unmigrated : GraphDb where
  scenarios := [⟨1, 1, false⟩]
  nodes := []
  edges := []
  scripts := [⟨1, some 1, none⟩, ⟨2, some 1, none⟩]
  devices := [⟨1, 1, none, "linux", "online", [], false⟩]
  groups := []
  cooldowns := []

theorem idle_bootState (db : GraphDb) : Idle (bootState db) :=
  ⟨rfl, fun _ h => (List.not_mem_nil h).elim, fun _ h => (List.not_mem_nil h).elim,
    fun _ h => (List.not_mem_nil h).elim, fun _ h => (List.not_mem_nil h).elim, fun _ => rfl⟩

/-- One step with the scripts 1 and 2. -/
theorem startable_unmigrated {step : StepRow} (hretry : step.retryCount = 0)
    (hscripts : ∀ id, step.checkScriptId = some id ∨ step.resolveScriptId = some id → id = 1 ∨ id = 2) :
    Startable unmigrated [step] 1 1 1 Nat.succ := by
  have henqueues : ∀ id, id = 1 ∨ id = 2 → Enqueues unmigrated 1 id := by
    rintro id (rfl | rfl)
    · exact ⟨by decide, ⟨1, some 1, none⟩, by decide, rfl, rfl⟩
    · exact ⟨by decide, ⟨2, some 1, none⟩, by decide, rfl, rfl⟩
  have hone : ∀ step' ∈ [step], ∀ id, step'.checkScriptId = some id ∨ step'.resolveScriptId = some id →
      id = 1 ∨ id = 2 := by
    intro step' hstep
    rw [List.mem_singleton.1 hstep]
    exact hscripts
  refine ⟨⟨rfl, ?_, ?_, Nat.succ_injective, ?_⟩, ⟨List.nodup_singleton _, ?_, ?_⟩, ?_, ⟨by decide, ?_⟩, ?_⟩
  · exact fun _ h => (List.not_mem_nil h).elim
  · exact fun _ h => (List.not_mem_nil h).elim
  · exact fun _ h => (List.not_mem_nil h).elim
  · exact fun step' hstep id hid => (henqueues id (hone step' hstep id hid)).1
  · intro step' hstep
    rw [List.mem_singleton.1 hstep, hretry]
  · rintro sc hsc
    obtain rfl := Option.some.inj hsc
    rfl
  · exact ⟨⟨1, 1, none, "linux", "online", [], false⟩, rfl, rfl, rfl⟩
  · exact fun step' hstep id hid => henqueues id (hone step' hstep id hid)

end Obliance.Scenario
