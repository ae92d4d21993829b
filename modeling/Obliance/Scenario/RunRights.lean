import Obliance.Scenario.Provenance

/-!
# Automatic runs stay within the rights of the accountable user (`services/scenarioPermission.service.ts`)

The gate looks at every node of the graph, a run at the nodes of its path.

* `RunStart.Reaches` : the devices the gate sees at the nodes of some types, with that of the run;
* `targetsOf_reaches` : a node of the run resolves its targets among them;
* `Thread.Within`, `RunInv` : the tasks of the run are at nodes of its scenario; `RunInv.step`;
* `may_of_reaches` : what the gate lets start, it has seen all devices of;
* `automatic_runs_within_rights`.
-/

namespace Obliance.Scenario
open GuardedRun KeyedTable Obliance.Js Obliance.Commands Obliance.Users

/-! ## Graphs that stay -/

theorem SameGraphs.refl (db : GraphDb) : SameGraphs db db := ⟨rfl, rfl, fun d hd => .inl ⟨d, hd, rfl, rfl⟩⟩

theorem SameGraphs.trans {a b c : GraphDb} (h : SameGraphs a b) (h' : SameGraphs b c) : SameGraphs a c where
  nodes := h'.nodes.trans h.nodes
  edges := h'.edges.trans h.edges
  devices d'' hd'' := by
    rcases h'.devices d'' hd'' with ⟨d', hd', hid', htenant'⟩ | hunlisted
    · rcases h.devices d' hd' with ⟨d, hd, hid, htenant⟩ | hunlisted
      · exact .inl ⟨d, hd, hid.trans hid', htenant.trans htenant'⟩
      · exact .inr fun n hn => hid' ▸ hunlisted n hn
    · exact .inr fun n hn => hunlisted n (h.nodes ▸ hn)

theorem SameGraphs.of_rewrites {db db' : GraphDb} (h : Rewrites db db') : SameGraphs db db' := by
  obtain ⟨f, cooldowns, hf, rfl⟩ := h
  refine ⟨rfl, rfl, fun d' hd' => .inl ?_⟩
  obtain ⟨d, hd, rfl⟩ := List.mem_map.1 hd'
  exact ⟨d, hd, (hf d).1.symm, (hf d).2.symm⟩

theorem engineStep_sameGraphs {s t : EngineState} {op : EngineOp} (h : engineStep s op = some t)
    (hop : Undisturbed s op) : SameGraphs s.db t.db := by
  by_cases hedit : ∃ db, op = .edit db
  · obtain ⟨db, rfl⟩ := hedit
    obtain rfl : editGraph s db = t := Option.some.inj h
    exact hop
  · exact .of_rewrites (engineStep_rewrites h fun db heq => hedit ⟨db, heq⟩)

theorem GraphDb.Stored.of_rewrites {db db' : GraphDb} (h : db.Stored) (hwrites : Rewrites db db') : db'.Stored := by
  obtain ⟨f, cooldowns, hf, rfl⟩ := hwrites
  exact ⟨h.nodes_keyed, nodup_map (fun d => (hf d).1) h.devices_keyed, h.edges_within⟩

/-! ## Targets -/

/-- A run and the tables it starts in. -/
structure RunStart where
  db : GraphDb
  runId : ℕ
  scenarioId : ℕ
  tenantId : ℕ
  deviceId : ℕ

namespace RunStart

def Names (o : RunStart) (run : RunRow) : Prop :=
  run.tenantId = o.tenantId ∧ run.scenarioId = o.scenarioId ∧ run.deviceId = o.deviceId

/-- The device of the run, or one a node of the scenario, of a type in `p`, lists. -/
def Reaches (o : RunStart) (p : NodeType → Bool) (id : ℕ) : Prop :=
  id = o.deviceId ∨ ∃ n ∈ o.db.nodes, n.scenarioId = o.scenarioId ∧ p n.type = true ∧
    id ∈ liveTargets o.db o.tenantId n.config

end RunStart

/-- The executor takes a whole number only: a fraction is the id of no device. -/
theorem resolveActionTargets_cases {run : RunRow} {cfg : NodeConfig} {id : ℕ}
    (h : (id : ℚ) ∈ resolveActionTargets run cfg) : id = run.deviceId ∨ (id : ℚ) ∈ overrideIds cfg := by
  simp only [resolveActionTargets] at h
  split_ifs at h with hempty
  · exact .inl (Nat.cast_injective (List.mem_singleton.1 h))
  · right
    split at h
    · rename_i hmode hids
      rw [overrideIds, hmode, hids]
      simp only [List.mem_filter, decide_eq_true_eq] at h ⊢
      exact ⟨h.1, Rat.den_natCast id, h.2⟩
    · cases h

theorem mem_targetsOf {db : GraphDb} {run : RunRow} {node : NodeRow} {id : ℕ} (h : id ∈ targetsOf db run node) :
    ∃ d ∈ db.devices, d.id = id ∧ d.tenantId = run.tenantId ∧ (id : ℚ) ∈ resolveActionTargets run node.config := by
  obtain ⟨d, hd, rfl⟩ := List.mem_map.1 h
  obtain ⟨hmem, hrow⟩ := List.mem_filter.1 (List.mem_of_mem_filter hd)
  rw [decide_eq_true_eq] at hrow
  exact ⟨d, hmem, rfl, hrow.1, hrow.2⟩

/-- **A node of the run resolves its targets among those the gate sees.** -/
theorem targetsOf_reaches {o : RunStart} {db : GraphDb} {run : RunRow} {node : NodeRow} {p : NodeType → Bool} {id : ℕ}
    (hdb : SameGraphs o.db db) (hrun : o.Names run) (hnode : node ∈ o.db.nodes) (hscenario : node.scenarioId = o.scenarioId)
    (hp : p node.type = true) (h : id ∈ targetsOf db run node) : o.Reaches p id := by
  obtain ⟨d', hd', rfl, htenant', hlisted⟩ := mem_targetsOf h
  rcases resolveActionTargets_cases hlisted with hown | hids
  · exact .inl (hown.trans hrun.2.2)
  · rcases hdb.devices d' hd' with ⟨d, hd, hid, htenant⟩ | hunlisted
    · refine .inr ⟨node, hnode, hscenario, hp, List.mem_map.2 ⟨d, List.mem_filter.2 ⟨hd, ?_⟩, hid⟩⟩
      rw [decide_eq_true_eq, hid, htenant, htenant']
      exact ⟨hids, hrun.1⟩
    · exact absurd hids (hunlisted node hnode)

/-- The devices that are not targets are left alone. -/
theorem get_map_targets {devices : List EngineDevice} {targets : List ℕ} {tenantId id : ℕ} {f : EngineDevice → EngineDevice}
    (hf : ∀ d, (f d).id = d.id) (hid : id ∉ targets) :
    get EngineDevice.id (devices.map fun d => if d.id ∈ targets ∧ d.tenantId = tenantId then f d else d) id =
      get EngineDevice.id devices id := by
  have hkey (d : EngineDevice) : (if d.id ∈ targets ∧ d.tenantId = tenantId then f d else d).id = d.id := by
    split_ifs
    · exact hf d
    · rfl
  rw [get_map hkey]
  cases hget : get EngineDevice.id devices id with
  | none => rfl
  | some d =>
      have hkept : ¬ (d.id ∈ targets ∧ d.tenantId = tenantId) := fun hboth => hid (key_of_get hget ▸ hboth.1)
      rw [Option.map_some, if_neg hkept]

/-- The types of nodes that write devices. -/
def writesDevices (type : NodeType) : Bool := isActing type && !runsCommands type

/-- Only the two nodes that write devices do, each its targets. -/
theorem startExecutor_devices {db db' : GraphDb} {run : RunRow} {node : NodeRow} {now : ℤ} {step : ExecStep} {id : ℕ}
    (h : startExecutor db run node now = some (db', step))
    (hne : get EngineDevice.id db'.devices id ≠ get EngineDevice.id db.devices id) :
    writesDevices node.type = true ∧ id ∈ targetsOf db run node := by
  unfold startExecutor at h
  split at h
  case h_8 htype =>
    simp only [execTagDevice, Option.some.injEq] at h
    split_ifs at h <;> obtain ⟨rfl, -⟩ := Prod.mk.inj h
    · exact absurd rfl hne
    · refine ⟨by simp [writesDevices, isActing, runsCommands, htype], ?_⟩
      by_contra hid
      exact hne (get_map_targets (fun _ => rfl) hid)
  case h_9 htype =>
    simp only [execMoveDevice, Option.some.injEq] at h
    split_ifs at h <;> obtain ⟨rfl, -⟩ := Prod.mk.inj h
    · exact absurd rfl hne
    · exact absurd rfl hne
    · refine ⟨by simp [writesDevices, isActing, runsCommands, htype], ?_⟩
      by_contra hid
      exact hne (get_map_targets (fun _ => rfl) hid)
  case h_13 => cases h
  all_goals
    obtain ⟨rfl, -⟩ := Prod.mk.inj (Option.some.inj h)
    exact absurd rfl hne

/-! ## The tasks of a run -/

/-- A task of the run is at a node of its scenario, with commands for devices the gate has seen. -/
def Thread.Within (o : RunStart) : Thread → Prop
  | .execute runId nodeId _ => runId = o.runId → ∀ n ∈ o.db.nodes, n.id = nodeId → n.scenarioId = o.scenarioId
  | .executor run node _ =>
      run.id = o.runId → o.Names run ∧ node ∈ o.db.nodes ∧ node.scenarioId = o.scenarioId
  | .enqueue run _ _ _ targets => run.id = o.runId → ∀ id ∈ targets, o.Reaches runsCommands id
  | _ => True

structure RunInv (o : RunStart) (s : EngineState) : Prop extends EngineRows s where
  used : o.runId < s.nextId
  graphs : SameGraphs o.db s.db
  run : ∀ r ∈ s.runs, r.id = o.runId → o.Names r
  within : ∀ th ∈ s.threads, th.Within o
  sent : ∀ c ∈ s.commands, s.OfRun o.runId c → o.Reaches runsCommands c.deviceId

section Step
variable {o : RunStart} {s t : EngineState}

theorem Thread.within_of_idle {th : Thread} (h : th.idle = true) : th.Within o := by
  cases th <;> trivial

theorem within_set {threads : List Thread} {i : ℕ} {a : Thread} (h : ∀ th ∈ threads, th.Within o) (ha : a.Within o) :
    ∀ th ∈ threads.set i a, th.Within o := by
  intro th hth
  rcases List.mem_or_eq_of_mem_set hth with hth | rfl
  · exact h th hth
  · exact ha

theorem Quiet.ofRun (h : Quiet s t) {runId : ℕ} {c c₀ : CommandRow} (htype : c₀.sourceType = c.sourceType)
    (hid : c₀.sourceId = c.sourceId) (hof : t.OfRun runId c) : s.OfRun runId c₀ := by
  obtain ⟨hsource, nr, hnr, hnrId, hrun⟩ := hof
  obtain ⟨nr₀, hnr₀, hid₀, hrun₀⟩ := h.nodeRuns nr hnr
  exact ⟨htype.trans hsource, nr₀, hnr₀, hid.trans (hnrId.trans (congrArg some hid₀.symm)), hrun₀.trans hrun⟩

/-- A row of the run is rewritten. -/
theorem RunInv.names (h : RunInv o s) {r₀ r : RunRow} (hr₀ : r₀ ∈ s.runs)
    (hsame : r₀.id = r.id ∧ r₀.tenantId = r.tenantId ∧ r₀.scenarioId = r.scenarioId ∧ r₀.deviceId = r.deviceId)
    (hid : r.id = o.runId) : o.Names r := by
  obtain ⟨hid₀, htenant, hscenario, hdevice⟩ := hsame
  obtain ⟨h₁, h₂, h₃⟩ := h.run r₀ hr₀ (hid₀.trans hid)
  exact ⟨htenant ▸ h₁, hscenario ▸ h₂, hdevice ▸ h₃⟩

theorem RunInv.quiet (h : RunInv o s) (hq : Quiet s t) (hgraphs : SameGraphs o.db t.db) : RunInv o t := by
  refine { h.toEngineRows.quiet hq with
    used := hq.nextId.symm ▸ h.used, graphs := hgraphs, run := ?_, within := ?_, sent := ?_ }
  · intro r hr hid
    obtain ⟨r₀, hr₀, hsame⟩ := hq.runs r hr
    exact h.names hr₀ hsame hid
  · intro th hth
    rcases hq.threads th hth with hth | hidle
    · exact h.within th hth
    · exact Thread.within_of_idle hidle
  · intro c hc hof
    obtain ⟨c₀, hc₀, htype, hid, hdevice⟩ := hq.commands c hc
    exact hdevice ▸ h.sent c₀ hc₀ (hq.ofRun htype hid hof)

/-- What a step keeps when the graphs stay. -/
theorem RunInv.moves (h : RunInv o s) (hstored : o.db.Stored) (hmoves : Moves s t) (hgraphs : SameGraphs o.db t.db) :
    RunInv o t := by
  have hrows := h.toEngineRows.moves hmoves
  have hat {i : ℕ} {th : Thread} (hth : s.threads[i]? = some th) : th.Within o :=
    h.within th (List.mem_of_getElem? hth)
  cases hmoves with
  | quiet hq => exact h.quiet hq hgraphs
  | goTo i runId cause advanced hrun he hscenario =>
      refine { hrows with
        used := h.used, graphs := hgraphs, run := h.run, sent := h.sent, within := within_set h.within ?_ }
      intro hid n hn hnid
      rw [hstored.edges_within _ (h.graphs.edges ▸ he) n hn hnid, hscenario]
      exact (h.run _ (mem_of_get hrun) ((key_of_get hrun).trans hid)).2.1
  | enter i nodeId cause runs caused hth hrun hnode hid hrunId hruns =>
      refine { hrows with
        used := h.used.trans (Nat.lt_succ_self _), graphs := hgraphs, run := ?_, within := within_set h.within ?_
        sent := ?_ }
      · intro r hr hrid
        obtain ⟨r₀, hr₀, hsame⟩ := hruns r hr
        exact h.names hr₀ hsame hrid
      · intro hrunR
        have hmem := h.graphs.nodes ▸ mem_of_get hnode
        exact ⟨h.run _ hrun hrunR, hmem, hat hth hrunR _ hmem (key_of_get hnode)⟩
      · intro c hc hof
        obtain ⟨hsource, nr', hnr', hnrId, hrunR⟩ := hof
        rcases List.mem_append.1 hnr' with hold | hnew
        · exact h.sent c hc ⟨hsource, nr', hold, hnrId, hrunR⟩
        · -- no command is sent for a node run that is not inserted yet
          have hfresh := h.commands c hc nr'.id hnrId
          rw [List.mem_singleton.1 hnew, hid] at hfresh
          exact absurd hfresh (lt_irrefl _)
  | send i nodeRunId command fanOuts hth htype =>
      refine { hrows with
        used := h.used, graphs := hgraphs, run := h.run, sent := h.sent, within := within_set h.within ?_ }
      intro hrunR id hid
      obtain ⟨hnames, hnode, hscenario⟩ := hat hth hrunR
      exact targetsOf_reaches h.graphs hnames hnode hscenario htype hid
  | command i nodeRunId target rest command now hth =>
      have htargets := hat hth
      refine { hrows with
        used := h.used.trans (Nat.lt_succ_self _), graphs := hgraphs, run := h.run
        within := within_set h.within fun hrunR id hid => htargets hrunR id (List.mem_cons_of_mem _ hid), sent := ?_ }
      intro c hc hof
      rcases List.mem_append.1 hc with hold | hnew
      · exact h.sent c hold hof
      · obtain rfl := List.mem_singleton.1 hnew
        obtain ⟨-, nr, hnr, hnrId, hrunR⟩ := hof
        have hknown := (h.threads _ (List.mem_of_getElem? hth)).2.2 nr hnr (Option.some.inj hnrId).symm
        exact htargets (hknown.symm.trans hrunR) target List.mem_cons_self
  | started threads hid hthreads =>
      refine { hrows with
        used := h.used.trans (Nat.lt_succ_self _), graphs := hgraphs, run := ?_, within := ?_, sent := h.sent }
      · intro r hr hrid
        rcases List.mem_append.1 hr with hr | hr
        · exact h.run r hr hrid
        · rw [List.mem_singleton.1 hr, hid] at hrid
          exact absurd hrid h.used.ne'
      · intro th hth
        rcases List.mem_append.1 hth with hth | hth
        · exact h.within th hth
        · rcases hthreads th hth with hidle | ⟨nodeId, cause, rfl⟩
          · exact Thread.within_of_idle hidle
          · exact fun hrunR => absurd hrunR h.used.ne'

/-- **Every step that leaves the graphs alone keeps the tasks of the run within its scenario.** -/
theorem RunInv.step {op : EngineOp} (h : RunInv o s) (hstored : o.db.Stored) (hop : Undisturbed s op)
    (hstep : engineStep s op = some t) : RunInv o t :=
  h.moves hstored (engineStep_moves hstep) (h.graphs.trans (engineStep_sameGraphs hstep hop))

end Step

/-! ## The gate -/

theorem mem_liveTargets {db : GraphDb} {tenantId id : ℕ} {cfg : NodeConfig} (h : id ∈ liveTargets db tenantId cfg) :
    (id : ℚ) ∈ overrideIds cfg := by
  obtain ⟨d, hd, rfl⟩ := List.mem_map.1 h
  exact (of_decide_eq_true (List.mem_filter.1 hd).2).1

theorem pos_of_mem_overrideIds {cfg : NodeConfig} {id : ℕ} (h : (id : ℚ) ∈ overrideIds cfg) : 0 < id := by
  unfold overrideIds at h
  split at h
  · rw [List.mem_filter, decide_eq_true_eq] at h
    exact Nat.cast_pos.1 h.2.2
  · cases h

theorem pos_of_toDbId {id : ℕ} (h : (toDbId (.num id)).isNone = false) : 0 < id := by
  by_contra hnot
  obtain rfl : id = 0 := by omega
  simp [toDbId] at h

section Gate
variable {o : RunStart} {scenario : ScenarioRow} {id : ℕ}

theorem RunStart.Reaches.pos {p : NodeType → Bool} (h : o.Reaches p id) (hdevice : 0 < o.deviceId) : 0 < id := by
  rcases h with rfl | ⟨n, -, -, -, hlive⟩
  · exact hdevice
  · exact pos_of_mem_overrideIds (mem_liveTargets hlive)

/-- The gate finds the nodes of the scenario that act. -/
theorem mem_actingNodes {n : NodeRow} (hn : n ∈ o.db.nodes) (hscenario : n.scenarioId = o.scenarioId)
    (hacts : isActing n.type = true) : ⟨n.type, n.config⟩ ∈ actingNodes o.db o.scenarioId none none := by
  refine List.mem_map.2 ⟨n, List.mem_filter.2 ⟨hn, ?_⟩, rfl⟩
  simp [hscenario, hacts]

theorem mem_touched_exec (hid : scenario.id = o.scenarioId) (htenant : scenario.tenantId = o.tenantId)
    (h : o.Reaches runsCommands id) : id ∈ (devicesTouched o.db scenario [o.deviceId] none none).1 := by
  simp only [devicesTouched, hid, htenant]
  rw [JsSet.mem_foldl_add]
  rcases h with rfl | ⟨n, hn, hscenario, htype, hlive⟩
  · left
    simp [JsSet.ofList]
  · right
    have hnode := mem_actingNodes hn hscenario (by rw [isActing, htype, Bool.true_or])
    exact List.mem_flatMap.2 ⟨_, List.mem_filter.2 ⟨hnode, htype⟩, hlive⟩

theorem mem_touched_write (hid : scenario.id = o.scenarioId) (htenant : scenario.tenantId = o.tenantId)
    (h : o.Reaches writesDevices id) :
    id = o.deviceId ∨ id ∈ (devicesTouched o.db scenario [o.deviceId] none none).2 := by
  rcases h with rfl | ⟨n, hn, hscenario, htype, hlive⟩
  · exact .inl rfl
  · right
    rw [writesDevices, Bool.and_eq_true] at htype
    simp only [devicesTouched, hid, htenant]
    rw [JsSet.mem_ofList]
    have hnode := mem_actingNodes hn hscenario htype.1
    exact List.mem_flatMap.2 ⟨_, List.mem_filter.2 ⟨hnode, htype.2⟩, hlive⟩

variable {tables : GateTables} {db : GraphDb} {userId : ℤ} {deviceId : ℕ}

/-- Nobody is denied when no device lacks `execute` and all that are written may be. -/
theorem allowed_of_denial_none (h : scenarioDenialFor tables db userId scenario [deviceId] none none = none) :
    devicesLackingCapability tables.rights (tables.devices db) userId
        (devicesTouched db scenario [deviceId] none none).1 "execute" = [] ∧
      ∀ id ∈ (devicesTouched db scenario [deviceId] none none).2, tables.mayWrite db userId id = true := by
  simp only [scenarioDenialFor] at h
  split at h
  · cases h
  · split at h
    · cases h
    · rename_i hlacking
      rw [Option.map_eq_none_iff, List.find?_eq_none] at h
      exact ⟨hlacking, fun id hid => by simpa using h id hid⟩

theorem keyed_devices (hkeyed : Keyed EngineDevice.id db.devices) : Keyed RightsDevice.id (tables.devices db) := by
  rwa [Keyed, GateTables.devices, List.map_map]

/-- **What the gate lets start, it has seen all devices of.** -/
theorem may_of_reaches (hkeyed : Keyed EngineDevice.id o.db.devices) (hdevice : 0 < o.deviceId)
    (hid : scenario.id = o.scenarioId) (htenant : scenario.tenantId = o.tenantId)
    (h : scenarioDenialFor tables o.db userId scenario [o.deviceId] none none = none) :
    (∀ id, o.Reaches runsCommands id → tables.mayExecute o.db userId id = true) ∧
      ∀ id, o.Reaches writesDevices id → id = o.deviceId ∨ tables.mayWrite o.db userId id = true := by
  obtain ⟨hlacking, hwrites⟩ := allowed_of_denial_none h
  refine ⟨fun id hreach => ?_, fun id hreach => ?_⟩
  · apply canUse_of_not_mem_lacking (keyed_devices hkeyed) (mem_touched_exec hid htenant hreach) (hreach.pos hdevice)
    rw [hlacking]
    exact List.not_mem_nil
  · exact (mem_touched_write hid htenant hreach).imp_right (hwrites id)

end Gate

/-- The gate, when its answer is that of the present tables, has found no device the user may not act on. -/
theorem denial_none_of_current {g : GateState} {scenarioId deviceId : ℕ} {now userId : ℤ} {scenario : ScenarioRow}
    (haccountable : Accountable g scenarioId userId) (hcurrent : Current g scenarioId deviceId now)
    (hscenario : g.engine.db.scenario scenarioId = some scenario) (h : (g.ask scenarioId deviceId now).1 = none) :
    scenarioDenialFor g.tables g.engine.db userId scenario [deviceId] none none = none := by
  obtain ⟨huser, hstamp, row, hrow, hadmin, hactive⟩ := haccountable
  have hid : scenario.id = scenarioId := key_of_get hscenario
  have hfresh := hcurrent.symm.trans h
  have hrole : roleOf g.tables ⟨[], []⟩ userId now =
      (readRole g.tables userId now, ⟨[readRole g.tables userId now], []⟩) := rfl
  have hread : (readRole g.tables userId now).admin = false ∧ (readRole g.tables userId now).active = true := by
    simp [readRole, hrow, hadmin, hactive]
  simp only [GateState.ask, hscenario, accountableUserDenial, hid, huser, if_neg (not_lt.2 hstamp), hrole, hread.1,
    Bool.false_eq_true, if_false] at hfresh
  have hanswer : freshDenial g.tables g.engine.db (readRole g.tables userId now) scenario deviceId = none := hfresh
  rw [freshDenial, hread.2, Bool.not_true, if_neg Bool.false_ne_true, Option.map_eq_none_iff] at hanswer
  exact hanswer

/-! ## Runs -/

theorem entryNode_start {db : GraphDb} {scenarioId id : ℕ} {opts : StartOpts}
    (h : entryNode db scenarioId opts = some (id, false)) : ∃ n ∈ db.nodes, n.id = id ∧ n.scenarioId = scenarioId := by
  unfold entryNode at h
  dsimp only at h
  split at h
  · obtain ⟨n, hn, heq⟩ := Option.map_eq_some_iff.1 h
    have hrow := List.find?_some hn
    rw [decide_eq_true_eq] at hrow
    exact ⟨n, List.mem_of_find?_eq_some hn, (Prod.mk.inj heq).1, hrow.2⟩
  · obtain ⟨n, -, heq⟩ := Option.map_eq_some_iff.1 h
    cases (Prod.mk.inj heq).2

/-- The run starts at a node of the scenario, or behind its trigger. -/
theorem startRun_started {s : EngineState} {scenarioId deviceId runId : ℕ} {opts : StartOpts} {denial : Option String}
    (record : Bool) (hstored : s.db.Stored) (h : startedRunId s scenarioId deviceId opts denial = some runId) :
    denial = none ∧ runId = s.nextId ∧ ∃ scenario th, s.db.scenario scenarioId = some scenario ∧
      ((get EngineDevice.id s.db.devices deviceId).any EngineDevice.privacyModeEnabled &&
        !scenario.bypassPrivacyMode) = false ∧
      startRun s scenarioId deviceId opts denial record = { s with
        runs := s.runs ++ [newRun s scenario deviceId opts .running none], nextId := s.nextId + 1
        threads := s.threads ++ [th] } ∧
      (th.idle = true ∨ ∃ nodeId, th = .execute s.nextId nodeId none ∧
        ∀ n ∈ s.db.nodes, n.id = nodeId → n.scenarioId = scenarioId) := by
  obtain ⟨scenario, hscenario, hrun⟩ := Option.bind_eq_some_iff.1 h
  split at hrun
  · cases hrun
  · rename_i hprivate
    split at hrun
    · cases hrun
    · rename_i hdenial
      obtain rfl : denial = none := by simpa using hdenial
      obtain ⟨entry, hentry, rfl⟩ := Option.map_eq_some_iff.1 hrun
      have hopen := Bool.eq_false_iff.2 hprivate
      obtain ⟨id, _ | _⟩ := entry
      · refine ⟨rfl, rfl, scenario, .execute s.nextId id none, hscenario, hopen, ?_, .inr ⟨id, rfl, fun n hn hnid => ?_⟩⟩
        · simp only [startRun, hscenario, if_neg hprivate, hentry]
          rfl
        · obtain ⟨m, hm, hmid, hmscenario⟩ := entryNode_start hentry
          obtain rfl := hstored.nodes_keyed.eq_of_key hn hm (hnid.trans hmid.symm)
          exact hmscenario
      · cases hedge : pickNextEdge s.db.edges scenarioId id none with
        | none =>
            refine ⟨rfl, rfl, scenario, .mark s.nextId (some "Trigger node has no outgoing edge"), hscenario, hopen, ?_,
              .inl rfl⟩
            simp only [startRun, hscenario, if_neg hprivate, hentry, hedge]
            rfl
        | some e =>
            obtain ⟨he, hwithin, -⟩ := pickNextEdge_mem hedge
            refine ⟨rfl, rfl, scenario, _, hscenario, hopen, ?_,
              .inr ⟨_, rfl, fun n hn hnid => (hstored.edges_within e he n hn hnid).trans hwithin⟩⟩
            simp only [startRun, hscenario, if_neg hprivate, hentry, hedge]
            rfl

/-- The run the gate let start: nothing of it is there but its row and its first task. -/
theorem startAutomatic_runInv {g : GateState} {scenarioId deviceId runId : ℕ} {opts : StartOpts} {now : ℤ} (record : Bool)
    (hrows : EngineRows g.engine) (hstored : g.engine.db.Stored)
    (h : automaticRunId g scenarioId deviceId opts now = some runId) :
    0 < deviceId ∧ (g.ask scenarioId deviceId now).1 = none ∧
      ∃ scenario, g.engine.db.scenario scenarioId = some scenario ∧
        RunInv ⟨g.engine.db, runId, scenarioId, scenario.tenantId, deviceId⟩
          (startAutomatic g scenarioId deviceId opts record now).engine := by
  unfold automaticRunId at h
  split_ifs at h with hdevice
  obtain ⟨hask, rfl, scenario, th, hscenario, hprivate, hstart, hth⟩ := startRun_started record hstored h
  refine ⟨pos_of_toDbId (Bool.eq_false_iff.2 hdevice), hask, scenario, hscenario, ?_⟩
  have hgate : g.isPrivate scenarioId deviceId = false := by
    rw [GateState.isPrivate, hscenario, Option.any_some]
    exact hprivate
  have hengine : (startAutomatic g scenarioId deviceId opts record now).engine =
      startRun g.engine scenarioId deviceId opts (g.ask scenarioId deviceId now).1 record := by
    rw [startAutomatic, if_neg hdevice, hgate]
    rfl
  have hmoves : Moves g.engine (startRun g.engine scenarioId deviceId opts (g.ask scenarioId deviceId now).1 record) :=
    startRun_moves
  have hafter := hrows.moves hmoves
  rw [hengine]
  rw [hstart] at hafter ⊢
  refine { hafter with
    used := Nat.lt_succ_self _, graphs := .refl _, run := ?_, within := ?_, sent := ?_ }
  · intro r hr hid
    rcases List.mem_append.1 hr with hr | hr
    · exact absurd hid (hrows.runs r hr).ne
    · rw [List.mem_singleton.1 hr]
      have hid : scenario.id = scenarioId := key_of_get hscenario
      exact ⟨rfl, hid, rfl⟩
  · intro th' hth'
    rcases List.mem_append.1 hth' with hth' | hth'
    · have hknown := hrows.threads th' hth'
      cases th' with
      | execute id nodeId cause => exact fun hid => absurd hid (Nat.ne_of_lt hknown)
      | executor run node nodeRunId => exact fun hid => absurd hid (Nat.ne_of_lt hknown.1)
      | enqueue run node nodeRunId command targets => exact fun hid => absurd hid (Nat.ne_of_lt hknown.1)
      | ack | complete | mirror | advance | stamp | mark | cancelRun | cancelNodes | cancelCommands | done => trivial
    · obtain rfl := List.mem_singleton.1 hth'
      rcases hth with hidle | ⟨nodeId, rfl, hnode⟩
      · exact Thread.within_of_idle hidle
      · exact fun _ => hnode
  · rintro c - ⟨-, nr, hnr, -, hrun⟩
    exact absurd hrun (hrows.nodeRuns nr hnr).2.ne

theorem startAutomatic_engine (g : GateState) (scenarioId deviceId : ℕ) (opts : StartOpts) (record : Bool) (now : ℤ) :
    (startAutomatic g scenarioId deviceId opts record now).engine = g.engine ∨ ∃ denial,
      (startAutomatic g scenarioId deviceId opts record now).engine =
        startRun g.engine scenarioId deviceId opts denial record := by
  unfold startAutomatic
  split_ifs
  · exact .inl rfl
  · exact .inr ⟨none, rfl⟩
  · exact .inr ⟨(g.ask scenarioId deviceId now).1, rfl⟩

theorem gateStep_engine {g g' : GateState} {op : EngineOp} (h : gateStep g (.engine op) = some g') :
    (∀ db, op ≠ .edit db) ∧ ∃ engine, engineStep g.engine op = some engine ∧ { g with engine := engine } = g' := by
  cases op with
  | edit db => cases h
  | startRun | run | fail | ack | expire | notifyTimeout | fire | cancelRun | restart | rearm =>
      exact ⟨fun _ heq => (by cases heq), Option.map_eq_some_iff.1 h⟩

/-- What the gate's machine keeps. -/
theorem gate_rows {g : GateState} (h : Reach gateMachine anyStep g) : EngineRows g.engine ∧ g.engine.db.Stored := by
  refine h.invariant (I := fun g => EngineRows g.engine ∧ g.engine.db.Stored) ?_ ?_
  · rintro g ⟨hinit, hused, hstored, -⟩
    refine ⟨{ hused with threads := fun th hth => ?_ }, hstored⟩
    rw [hinit.2.2.1] at hth
    exact absurd hth List.not_mem_nil
  · rintro g op g' ⟨hrows, hstored⟩ - hstep
    have hengine (op : EngineOp) {engine : EngineState} (hop : ∀ db, op ≠ .edit db)
        (hs : engineStep g.engine op = some engine) : EngineRows engine ∧ engine.db.Stored :=
      ⟨hrows.moves (engineStep_moves hs), hstored.of_rewrites (engineStep_rewrites hs hop)⟩
    cases op with
    | start scenarioId deviceId opts record now =>
        obtain rfl := Option.some.inj hstep
        rcases startAutomatic_engine g scenarioId deviceId opts record now with heq | ⟨denial, heq⟩ <;> rw [heq]
        · exact ⟨hrows, hstored⟩
        · exact hengine (.startRun scenarioId deviceId opts denial record) (fun _ => by simp) rfl
    | engine op =>
        obtain ⟨hop, engine, hs, rfl⟩ := gateStep_engine hstep
        exact hengine op hop hs
    | edit graph =>
        obtain rfl := Option.some.inj hstep
        exact ⟨hrows.quiet .of_editGraph, graph.stored⟩
    | write tables =>
        obtain rfl := Option.some.inj hstep
        exact ⟨hrows, hstored⟩

/-- **An automatic run stays within the rights of the accountable user**, when the gate let it start by the
answer of the tables at that time. -/
theorem automatic_runs_within_rights {g : GateState} {scenarioId deviceId runId : ℕ} {userId now : ℤ} {opts : StartOpts}
    {record : Bool} {s : EngineState} (hg : Reach gateMachine anyStep g) (haccountable : Accountable g scenarioId userId)
    (hcurrent : Current g scenarioId deviceId now) (hrun : automaticRunId g scenarioId deviceId opts now = some runId)
    (hs : Reach (engineMachine.startingAt (startAutomatic g scenarioId deviceId opts record now).engine) Undisturbed s) :
    WithinRights g userId deviceId runId s := by
  obtain ⟨hrows, hstored⟩ := gate_rows hg
  obtain ⟨hdevice, hask, scenario, hscenario, hstart⟩ := startAutomatic_runInv record hrows hstored hrun
  have hinv : RunInv ⟨g.engine.db, runId, scenarioId, scenario.tenantId, deviceId⟩ s := by
    refine hs.invariant (I := RunInv _) ?_ fun s op t h hop hstep => h.step hstored hop hstep
    rintro s rfl
    exact hstart
  have hdenial := denial_none_of_current haccountable hcurrent hscenario hask
  obtain ⟨hexec, hwrite⟩ := may_of_reaches (o := ⟨g.engine.db, runId, scenarioId, scenario.tenantId, deviceId⟩)
    hstored.devices_keyed hdevice (key_of_get hscenario) rfl hdenial
  refine ⟨fun c hc hof => hexec _ (hinv.sent c hc hof), ?_⟩
  rintro i now t ⟨run, node, nodeRunId, hth, hid⟩ hstep id hne
  obtain ⟨hnames, hnode, hnodeScenario⟩ := hinv.within _ (List.mem_of_getElem? hth) hid
  rw [runThread, hth, Option.bind_some] at hstep
  obtain rfl := Option.some.inj hstep
  rw [runExecutor_db] at hne
  cases hexecutor : startExecutor s.db run node now with
  | none => exact absurd (by rw [hexecutor]; rfl) hne
  | some next =>
      rw [hexecutor] at hne
      obtain ⟨hwrites, htarget⟩ := startExecutor_devices hexecutor hne
      exact hwrite id (targetsOf_reaches hinv.graphs hnames hnode hnodeScenario hwrites htarget)

/-- The team of user 7 may do what `permissions` says. -/
def teamTables (permissions : List TeamPermission) : GateTables where
  users := [⟨7, "operator", none, none, .user, true, none, none⟩]
  rights :=
    { memberships := [⟨3, 7⟩]
      permissions := permissions
      closure := []
      apiKeys := []
      groups_pos := fun _ hc => absurd hc List.not_mem_nil }
  apiKeyOf := fun _ => none
  saved := fun _ => ⟨some 7, some 7, some 1000⟩

/-- A scenario, saved by user 7, that runs a command on device 6. -/
def listedState (permissions : List TeamPermission) : GateState where
  engine := bootState
    { scenarios := [⟨1, 1, false⟩]
      nodes := [⟨10, 1, .trigger .agentBackOnline, none, .empty⟩,
        ⟨11, 1, .runCommand, none,
          { NodeConfig.empty with
            commandType := some .installUpdates, targetMode := some "devices"
            targetDeviceIds := some [.str "0x6", .num 6, .str "all", .null] }⟩]
      edges := [⟨1, 1, 10, 11, .always, 0⟩]
      scripts := []
      devices := [⟨5, 1, none, "linux", "online", [], false⟩, ⟨6, 1, none, "linux", "online", [], false⟩]
      groups := []
      cooldowns := [] }
  tables := teamTables permissions
  epochMs := 0
  memory := ⟨[], []⟩

def executeOnBoth : List TeamPermission := [⟨3, .device, 5, .ro, ["execute"]⟩, ⟨3, .device, 6, .ro, ["execute"]⟩]

def backOnline : StartOpts := ⟨some "agent_back_online", none, none, false⟩

theorem listedState_init (permissions : List TeamPermission) : gateMachine.init (listedState permissions) := by
  have hkeyed : Keyed NodeRow.id (listedState permissions).engine.db.nodes :=
    (by decide : [10, 11].Nodup)
  have hdevices : Keyed EngineDevice.id (listedState permissions).engine.db.devices :=
    (by decide : [5, 6].Nodup)
  refine ⟨bootState_init _, ⟨?_, ?_, ?_⟩, ⟨hkeyed, hdevices, ?_⟩, rfl⟩ <;> simp [listedState, bootState]

/-- A run of the scenario on device 5, up to its command. -/
def runToCommand (i : ℕ) (now : ℤ) : List EngineOp := List.replicate 3 (.run i now)

theorem reach_runToCommand {s t : EngineState} {i : ℕ} {now : ℤ} (h : engineMachine.exec s (runToCommand i now) = some t) :
    Reach (engineMachine.startingAt s) Undisturbed t := by
  refine (Reach.start rfl).of_exec (runToCommand i now) ?_ h
  exact ⟨trivial, fun _ _ => ⟨trivial, fun _ _ => ⟨trivial, fun _ _ => trivial⟩⟩⟩

theorem listed_device_within_rights :
    ∃ s ∈ engineMachine.exec (startAutomatic (listedState executeOnBoth) 1 5 backOnline false 0).engine (runToCommand 0 0),
      s.commands.map CommandRow.deviceId = [6] ∧ WithinRights (listedState executeOnBoth) 7 5 1 s := by
  obtain ⟨s, hs, hsent⟩ : ∃ s ∈ engineMachine.exec
      (startAutomatic (listedState executeOnBoth) 1 5 backOnline false 0).engine (runToCommand 0 0),
      s.commands.map CommandRow.deviceId = [6] := ⟨_, rfl, by decide⟩
  have haccountable : Accountable (listedState executeOnBoth) 1 7 := ⟨rfl, by decide, _, rfl, by decide, rfl⟩
  have hcurrent : Current (listedState executeOnBoth) 1 5 0 := rfl
  have hrun : automaticRunId (listedState executeOnBoth) 1 5 backOnline 0 = some 1 := rfl
  exact ⟨s, hs, hsent, automatic_runs_within_rights (.start (listedState_init _)) haccountable hcurrent hrun
    (reach_runToCommand hs)⟩

/-- The rights are revoked half a minute after the gate was asked. -/
theorem remembered_verdict_outlives_rights :
    ¬ ∀ (g : GateState) (scenarioId deviceId runId : ℕ) (userId now : ℤ) (opts : StartOpts) (record : Bool)
      (s : EngineState), Reach gateMachine anyStep g → Accountable g scenarioId userId →
      automaticRunId g scenarioId deviceId opts now = some runId →
      Reach (engineMachine.startingAt (startAutomatic g scenarioId deviceId opts record now).engine) Undisturbed s →
      WithinRights g userId deviceId runId s := by
  intro hall
  obtain ⟨g, hg, haccountable, hrun, s, hs, c, hc, hof, hmay⟩ : ∃ g ∈ gateMachine.exec (listedState executeOnBoth)
      [.start 1 5 backOnline false 0, .write (teamTables [])],
      Accountable g 1 7 ∧ automaticRunId g 1 5 backOnline 30000 = some 2 ∧
      ∃ s ∈ engineMachine.exec (startAutomatic g 1 5 backOnline false 30000).engine (runToCommand 1 30000),
      ∃ c ∈ s.commands, s.OfRun 2 c ∧ g.tables.mayExecute g.engine.db 7 c.deviceId = false := by
    refine ⟨_, rfl, ⟨rfl, by decide, _, rfl, by decide, rfl⟩, rfl, _, rfl, _, List.mem_singleton_self _, ?_, rfl⟩
    exact ⟨rfl, _, List.mem_singleton_self _, rfl, rfl⟩
  have hreach := reach_of_exec (listedState_init executeOnBoth) _ hg
  have hwithin := hall g 1 5 2 7 30000 backOnline false s hreach haccountable hrun (reach_runToCommand hs)
  rw [hwithin.commands c hc hof] at hmay
  cases hmay

end Obliance.Scenario
