import Obliance.Scenario.Cron

/-!
# How often the cron fires (`services/scenarioGraphCron.service.ts`)

A row a tick has read stays due until its clock is written. An occurrence is started twice when another
tick reads the row before that, when the clock is not written after a run was started, or when the list
of target devices has an id twice.

* `Pending` : a row a running tick has still to deal with;
* `Unbroken` : the steps that do none of the above;
* `CronInv` : a pending row is the only one of its node, and its occurrence is the newest one started;
* `cron_fires_once` : in a run of such steps each occurrence starts at most one run on a device.
-/

namespace Obliance.Scenario
open GuardedRun KeyedTable

structure Pending where
  now : ℤ
  row : DueNode
  /-- The devices still to start a run on, once they are read. -/
  deviceIds : Option (List ℕ)

def Pending.nodeId (p : Pending) : ℕ := p.row.nodeId

def Tick.pending (t : Tick) : List Pending :=
  let unread := fun (row : DueNode) => (⟨t.now, row, none⟩ : Pending)
  match t.phase with
  | .read => []
  | .rows rows => rows.map unread
  | .targets row _ rest => unread row :: rest.map unread
  | .devices row deviceIds rest => ⟨t.now, row, some deviceIds⟩ :: rest.map unread

namespace CronState

def pending (s : CronState) : List Pending := s.ticks.flatMap Tick.pending

def Held (s : CronState) (nodeId : ℕ) : Prop := nodeId ∈ s.pending.map Pending.nodeId

/-- A run was started for the occurrence of a row, whose node is still there. -/
def HalfFired (s : CronState) (row : DueNode) : Prop :=
  s.tables.hasNode row.nodeId ∧ ∃ e ∈ s.started, e.nodeId = row.nodeId ∧ row.nextCronRunAt = some e.occurrence

instance (s : CronState) (nodeId : ℕ) : Decidable (s.Held nodeId) :=
  inferInstanceAs (Decidable (_ ∈ List.map _ _))

instance (s : CronState) (row : DueNode) : Decidable (s.HalfFired row) := inferInstanceAs (Decidable (_ ∧ _))

end CronState

/-! ## The steps that fire once -/

/-- A tick reads no node another one still has, and no device twice from a list of devices. -/
def RunsApart (s : CronState) (now : ℤ) : TickPhase → Prop
  | .read => ∀ row ∈ dueNodes s now, ¬ s.Held row.nodeId
  | .targets row _ _ =>
      row.nextCronRunAt.isSome → row.targetType = "device" → (validDbIds row.targetIds).Nodup
  | _ => True

/-- A clock that is not written belongs to a node no run was started for. -/
def WritesFired (s : CronState) : TickPhase → Prop
  | .devices row [] _ => ¬ s.HalfFired row
  | _ => True

/-- **The steps that fire once.** -/
def Unbroken (s : CronState) : CronOp → Prop
  | .run i _ _ => ∀ t ∈ s.ticks[i]?, RunsApart s t.now t.phase
  | .throws i => ∀ t ∈ s.ticks[i]?, WritesFired s t.phase
  | .restart => ∀ p ∈ s.pending, ¬ s.HalfFired p.row
  | .tick _ | .others _ => True

instance (s : CronState) (now : ℤ) : (phase : TickPhase) → Decidable (RunsApart s now phase)
  | .read => inferInstanceAs (Decidable (∀ row ∈ dueNodes s now, ¬ s.Held row.nodeId))
  | .targets row _ _ => inferInstanceAs (Decidable
      (row.nextCronRunAt.isSome → row.targetType = "device" → (validDbIds row.targetIds).Nodup))
  | .rows _ | .devices _ _ _ => .isTrue trivial

instance (s : CronState) : (phase : TickPhase) → Decidable (WritesFired s phase)
  | .devices row [] _ => inferInstanceAs (Decidable (¬ s.HalfFired row))
  | .devices _ (_ :: _) _ | .read | .rows _ | .targets _ _ _ => .isTrue trivial

instance decidableUnbroken (s : CronState) : (op : CronOp) → Decidable (Unbroken s op)
  | .run i _ _ => inferInstanceAs (Decidable (∀ t ∈ s.ticks[i]?, RunsApart s t.now t.phase))
  | .throws i => inferInstanceAs (Decidable (∀ t ∈ s.ticks[i]?, WritesFired s t.phase))
  | .restart => inferInstanceAs (Decidable (∀ p ∈ s.pending, ¬ s.HalfFired p.row))
  | .tick _ | .others _ => .isTrue trivial

/-! ## Invariant -/

/-- A pending row and the runs started for its node. -/
structure PendingOk (s : CronState) (p : Pending) : Prop where
  below : p.nodeId < s.tables.nextNodeId
  clock : s.tables.hasNode p.nodeId → s.nextCronRunAt p.nodeId = p.row.nextCronRunAt
  due : ∀ c ∈ p.row.nextCronRunAt, c ≤ p.now
  devices : ∀ ids ∈ p.deviceIds, ids.Nodup ∧ (p.row.nextCronRunAt = none → ids = [])
  newest : ∀ e ∈ s.started, e.nodeId = p.nodeId → ∃ c ∈ p.row.nextCronRunAt,
    e.occurrence < c ∨ e.occurrence = c ∧ ∃ ids ∈ p.deviceIds, e.deviceId ∉ ids

/-- The state, with the rows that ticks have still to deal with. -/
structure CronInv (s : CronState) (pending : List Pending) : Prop where
  once : FiresOnce s
  below : ∀ e ∈ s.started, e.nodeId < s.tables.nextNodeId
  apart : (pending.map Pending.nodeId).Nodup
  ok : ∀ p ∈ pending, PendingOk s p
  settled : ∀ id, s.tables.hasNode id → id ∉ pending.map Pending.nodeId → ∀ e ∈ s.started, e.nodeId = id →
    ∃ c ∈ s.nextCronRunAt id, e.occurrence < c

variable {s : CronState} {p : Pending} {P Q : List Pending}

theorem CronInv.perm (h : CronInv s P) (hperm : P.Perm Q) : CronInv s Q where
  once := h.once
  below := h.below
  apart := (hperm.map _).nodup_iff.1 h.apart
  ok := fun p hp => h.ok p (hperm.mem_iff.2 hp)
  settled := fun id hnode hid => h.settled id hnode fun hmem => hid ((hperm.map _).mem_iff.1 hmem)

/-- No run was started for a row whose devices are not read. -/
theorem PendingOk.not_halfFired (h : PendingOk s p) (hp : p.deviceIds = none) : ¬ s.HalfFired p.row := by
  rintro ⟨-, e, he, hde, hocc⟩
  obtain ⟨c, hc, hlt | ⟨-, ids, hids, -⟩⟩ := h.newest e he hde
  · obtain rfl := Option.some.inj (hocc.symm.trans hc)
    omega
  · rw [hp] at hids
    cases hids

/-- A row is given up that was not half fired. -/
theorem CronInv.drop (h : CronInv s (p :: P)) (hp : ¬ s.HalfFired p.row) : CronInv s P where
  once := h.once
  below := h.below
  apart := (List.nodup_cons.1 h.apart).2
  ok := fun q hq => h.ok q (List.mem_cons_of_mem _ hq)
  settled := by
    intro id hnode hid e he hde
    by_cases hpid : id = p.nodeId
    · subst hpid
      have hok := h.ok p List.mem_cons_self
      obtain ⟨c, hc, hlt | ⟨heq, -⟩⟩ := hok.newest e he hde
      · refine ⟨c, ?_, hlt⟩
        rw [hok.clock hnode]
        exact hc
      · exact absurd ⟨hnode, e, he, hde, heq ▸ hc⟩ hp
    · refine h.settled id hnode ?_ e he hde
      rw [List.map_cons, List.mem_cons]
      exact fun hmem => hmem.elim hpid hid

theorem CronInv.dropAll (h : CronInv s P) (hP : ∀ p ∈ P, ¬ s.HalfFired p.row) : CronInv s [] := by
  induction P with
  | nil => exact h
  | cons p P ih =>
      exact ih (h.drop (hP p List.mem_cons_self)) fun q hq => hP q (List.mem_cons_of_mem _ hq)

/-- The devices of a row are read. -/
theorem CronInv.readDevices {ids : List ℕ} (h : CronInv s (p :: P)) (hnone : p.deviceIds = none)
    (hnodup : ids.Nodup) (hprime : p.row.nextCronRunAt = none → ids = []) :
    CronInv s ({ p with deviceIds := some ids } :: P) where
  once := h.once
  below := h.below
  apart := h.apart
  settled := h.settled
  ok := by
    intro q hq
    rcases List.mem_cons.1 hq with rfl | hq
    · have hok := h.ok p List.mem_cons_self
      refine ⟨hok.below, hok.clock, hok.due, ?_, ?_⟩
      · intro ids' hids
        obtain rfl := Option.some.inj hids
        exact ⟨hnodup, hprime⟩
      · intro e he hde
        obtain ⟨c, hc, hlt | ⟨-, ids', hids', -⟩⟩ := hok.newest e he hde
        · exact ⟨c, hc, .inl hlt⟩
        · rw [hnone] at hids'
          cases hids'
    · exact h.ok q (List.mem_cons_of_mem _ hq)

/-- A run is started on the next device of a row, or the device is passed over. -/
theorem CronInv.nextDevice {deviceId : ℕ} {ids : List ℕ} (h : CronInv s (p :: P))
    (hp : p.deviceIds = some (deviceId :: ids)) : CronInv s ({ p with deviceIds := some ids } :: P) where
  once := h.once
  below := h.below
  apart := h.apart
  settled := h.settled
  ok := by
    intro q hq
    rcases List.mem_cons.1 hq with rfl | hq
    · have hok := h.ok p List.mem_cons_self
      obtain ⟨hnodup, hprime⟩ := hok.devices _ hp
      refine ⟨hok.below, hok.clock, hok.due, ?_, ?_⟩
      · intro ids' hids
        obtain rfl := Option.some.inj hids
        exact ⟨(List.nodup_cons.1 hnodup).2, fun hnone => absurd (hprime hnone) (List.cons_ne_nil _ _)⟩
      · intro e he hde
        obtain ⟨c, hc, hlt | ⟨heq, ids', hids', hnot⟩⟩ := hok.newest e he hde
        · exact ⟨c, hc, .inl hlt⟩
        · obtain rfl := Option.some.inj (hp.symm.trans hids')
          exact ⟨c, hc, .inr ⟨heq, ids, rfl, fun hmem => hnot (List.mem_cons_of_mem _ hmem)⟩⟩
    · exact h.ok q (List.mem_cons_of_mem _ hq)

/-- What a step leaves alone keeps the invariant. -/
theorem CronInv.congr {t : CronState} (h : CronInv s P) (hdb : t.tables.engine.db = s.tables.engine.db)
    (hnext : t.tables.nextNodeId = s.tables.nextNodeId) (hclock : t.nextCronRunAt = s.nextCronRunAt)
    (hstarted : t.started = s.started) : CronInv t P := by
  have hnode : ∀ id, t.tables.hasNode id ↔ s.tables.hasNode id := fun id => by
    rw [CronTables.hasNode, CronTables.hasNode, hdb]
  refine ⟨?_, ?_, h.apart, ?_, ?_⟩
  · rw [FiresOnce, hstarted]
    exact h.once
  · rw [hstarted, hnext]
    exact h.below
  · intro p hp
    have hok := h.ok p hp
    refine ⟨hnext ▸ hok.below, ?_, hok.due, hok.devices, ?_⟩
    · rw [hnode, hclock]
      exact hok.clock
    · rw [hstarted]
      exact hok.newest
  · intro id hid
    rw [hclock, hstarted]
    exact h.settled id ((hnode id).1 hid)

/-- A run is started on the next device of a row. -/
theorem CronInv.start {deviceId : ℕ} {ids : List ℕ} {c : ℤ} (runId : ℕ) (h : CronInv s (p :: P))
    (hp : p.deviceIds = some (deviceId :: ids)) (hc : p.row.nextCronRunAt = some c) :
    CronInv { s with started := s.started ++ [⟨p.nodeId, c, deviceId, runId⟩] }
      ({ p with deviceIds := some ids } :: P) := by
  have hok := h.ok p List.mem_cons_self
  have hnext := h.nextDevice hp
  obtain ⟨hnot, hnodup⟩ := List.nodup_cons.1 (hok.devices _ hp).1
  have hothers : ∀ q ∈ P, q.nodeId ≠ p.nodeId := fun q hq heq =>
    (List.nodup_cons.1 h.apart).1 (List.mem_map.2 ⟨q, hq, heq⟩)
  refine ⟨?_, ?_, hnext.apart, ?_, ?_⟩
  · rw [FiresOnce, List.map_append, List.map_singleton]
    refine List.nodup_append.2 ⟨h.once, List.nodup_singleton _, ?_⟩
    intro a ha b hb heq
    obtain ⟨e, he, rfl⟩ := List.mem_map.1 ha
    rw [List.mem_singleton] at hb
    simp only [hb, Prod.mk.injEq] at heq
    obtain ⟨hde, hocc, hdev⟩ := heq
    obtain ⟨c', hc', hlt | ⟨-, ids', hids', hmem⟩⟩ := hok.newest e he hde
    · obtain rfl := Option.some.inj (hc.symm.trans hc')
      omega
    · obtain rfl := Option.some.inj (hp.symm.trans hids')
      exact hmem (hdev ▸ List.mem_cons_self)
  · intro e he
    rcases List.mem_append.1 he with he | he
    · exact h.below e he
    · obtain rfl := List.mem_singleton.1 he
      exact hok.below
  · intro q hq
    have hq' := hnext.ok q hq
    refine ⟨hq'.below, hq'.clock, hq'.due, hq'.devices, ?_⟩
    intro e he hde
    rcases List.mem_append.1 he with he | he
    · exact hq'.newest e he hde
    · obtain rfl := List.mem_singleton.1 he
      rcases List.mem_cons.1 hq with rfl | hq
      · exact ⟨c, hc, .inr ⟨rfl, ids, rfl, hnot⟩⟩
      · exact absurd hde.symm (hothers q hq)
  · intro id hnode hid e he hde
    rcases List.mem_append.1 he with he | he
    · exact hnext.settled id hnode hid e he hde
    · obtain rfl := List.mem_singleton.1 he
      exact absurd (hde ▸ List.mem_cons_self) hid

/-- The clock of a row is written: the next firing comes after every one that was started. -/
theorem CronInv.write {next : ℤ} {fired : Option ℤ} (h : CronInv s (p :: P)) (hnext : p.now < next) :
    CronInv (s.writeClock p.nodeId next fired) P := by
  have hok := h.ok p List.mem_cons_self
  have hothers : ∀ q ∈ P, q.nodeId ≠ p.nodeId := fun q hq heq =>
    (List.nodup_cons.1 h.apart).1 (List.mem_map.2 ⟨q, hq, heq⟩)
  unfold CronState.writeClock
  split_ifs with hnode
  · refine ⟨h.once, h.below, (List.nodup_cons.1 h.apart).2, ?_, ?_⟩
    · intro q hq
      have hq' := h.ok q (List.mem_cons_of_mem _ hq)
      refine ⟨hq'.below, ?_, hq'.due, hq'.devices, hq'.newest⟩
      show s.tables.hasNode q.nodeId → Function.update s.nextCronRunAt p.nodeId (some next) q.nodeId = _
      rw [Function.update_of_ne (hothers q hq)]
      exact hq'.clock
    · intro id hid hfree e he hde
      show ∃ c ∈ Function.update s.nextCronRunAt p.nodeId (some next) id, e.occurrence < c
      by_cases hpid : id = p.nodeId
      · subst hpid
        rw [Function.update_self]
        obtain ⟨c, hc, hle⟩ := hok.newest e he hde
        have hdue := hok.due c hc
        exact ⟨next, rfl, by omega⟩
      · rw [Function.update_of_ne hpid]
        refine h.settled id hid ?_ e he hde
        rw [List.map_cons, List.mem_cons]
        exact fun hmem => hmem.elim hpid hfree
  · exact h.drop fun hhalf => hnode hhalf.1

theorem dueNode_eq {now : ℤ} {n : NodeRow} {row : DueNode} (h : dueNode s now n = some row) :
    row.nodeId = n.id ∧ row.nextCronRunAt = s.nextCronRunAt n.id ∧ ∀ c ∈ s.nextCronRunAt n.id, c ≤ now := by
  obtain ⟨scenario, -, h⟩ := Option.bind_eq_some_iff.1 h
  dsimp only at h
  split_ifs at h with hdue
  obtain rfl := Option.some.inj h
  refine ⟨rfl, rfl, fun c hc => ?_⟩
  have hall := hdue.2.2
  rw [CronState.isDue, hc] at hall
  simpa using hall

/-- A query returns a node once. -/
theorem nodup_dueNodes (s : CronState) (now : ℤ) : ((dueNodes s now).map DueNode.nodeId).Nodup := by
  have hids : (dueNodes s now).map DueNode.nodeId =
      s.tables.engine.db.nodes.filterMap fun n => (dueNode s now n).map DueNode.nodeId := by
    rw [dueNodes, List.map_filterMap]
  have hsub : (s.tables.engine.db.nodes.filterMap fun n => (dueNode s now n).map DueNode.nodeId).Sublist
      (s.tables.engine.db.nodes.map NodeRow.id) := by
    induction s.tables.engine.db.nodes with
    | nil => exact .slnil
    | cons n nodes ih =>
        rw [List.filterMap_cons, List.map_cons]
        cases hdue : dueNode s now n with
        | none => exact ih.cons _
        | some row => exact (dueNode_eq hdue).1 ▸ ih.cons_cons _
  rw [hids]
  exact s.tables.nodes_keyed.sublist hsub

/-- The due nodes are read, none of them pending. -/
theorem CronInv.read {now : ℤ} (h : CronInv s P)
    (hfree : ∀ row ∈ dueNodes s now, row.nodeId ∉ P.map Pending.nodeId) :
    CronInv s ((dueNodes s now).map (⟨now, ·, none⟩) ++ P) where
  once := h.once
  below := h.below
  apart := by
    rw [List.map_append, List.map_map]
    refine List.nodup_append.2 ⟨nodup_dueNodes s now, h.apart, ?_⟩
    intro a ha b hb heq
    obtain ⟨row, hrow, rfl⟩ := List.mem_map.1 ha
    subst heq
    exact hfree row hrow hb
  ok := by
    intro p hp
    rcases List.mem_append.1 hp with hp | hp
    · obtain ⟨row, hrow, rfl⟩ := List.mem_map.1 hp
      obtain ⟨n, hn, hdue⟩ := List.mem_filterMap.1 hrow
      obtain ⟨hid, hclock, hle⟩ := dueNode_eq hdue
      refine ⟨?_, ?_, ?_, ?_, ?_⟩
      · rw [Pending.nodeId, hid]
        exact s.tables.nodes_below n hn
      · intro _
        rw [Pending.nodeId, hid, hclock]
      · intro c hc
        exact hle c (hclock ▸ hc)
      · simp
      · intro e he hde
        obtain ⟨c, hc, hlt⟩ := h.settled row.nodeId ⟨n, hn, hid.symm⟩ (hfree row hrow) e he hde
        exact ⟨c, hclock.trans (hid ▸ hc), .inl hlt⟩
    · exact h.ok p hp
  settled := by
    intro id hnode hid
    rw [List.map_append, List.mem_append, not_or] at hid
    exact h.settled id hnode hid.2

/-- A node with an id that was used before was there before. -/
theorem hasNode_of_precedes {tables tables' : CronTables} (h : tables.Precedes tables') {id : ℕ}
    (hid : id < tables.nextNodeId) (hnode : tables'.hasNode id) : tables.hasNode id := by
  obtain ⟨n, hn, rfl⟩ := hnode
  exact (h.2 n hn).resolve_right (by omega)

theorem nextCronRunAt_otherWrites {tables : CronTables} {id : ℕ} (hbefore : s.tables.hasNode id)
    (hnode : tables.hasNode id) : (otherWrites s tables).nextCronRunAt id = s.nextCronRunAt id :=
  if_pos ⟨hbefore, hnode⟩

theorem CronInv.others {tables : CronTables} (h : CronInv s P) (hprec : s.tables.Precedes tables) :
    CronInv (otherWrites s tables) P where
  once := h.once
  below := fun e he => (h.below e he).trans_le hprec.1
  apart := h.apart
  ok := by
    intro p hp
    have hok := h.ok p hp
    refine ⟨hok.below.trans_le hprec.1, ?_, hok.due, hok.devices, hok.newest⟩
    intro hnode
    have hbefore := hasNode_of_precedes hprec hok.below hnode
    exact (nextCronRunAt_otherWrites hbefore hnode).trans (hok.clock hbefore)
  settled := by
    intro id hnode hid e he hde
    have hbefore := hasNode_of_precedes hprec (hde ▸ h.below e he) hnode
    obtain ⟨c, hc, hlt⟩ := h.settled id hbefore hid e he hde
    exact ⟨c, (nextCronRunAt_otherWrites hbefore hnode).trans hc, hlt⟩

/-! ## Steps and runs -/

variable {t : Tick} {s' : CronState} {i : ℕ} {now : ℤ} {phase : TickPhase}

/-- A tick goes on: its rows change, those of the other ticks do not. -/
theorem CronInv.setPhase (h : CronInv s s.pending) (ht : s.ticks[i]? = some t) (hticks : s'.ticks = s.ticks)
    (hrows : ∀ P, s.pending.Perm (t.pending ++ P) → CronInv s (t.pending ++ P) →
      CronInv s' ((⟨now, phase⟩ : Tick).pending ++ P)) :
    CronInv (s'.setPhase i now phase) (s'.setPhase i now phase).pending := by
  obtain ⟨hi, rfl⟩ := List.getElem?_eq_some_iff.1 ht
  have hbefore : s.pending.Perm (s.ticks[i].pending ++ (s.ticks.eraseIdx i).flatMap Tick.pending) :=
    (List.getElem_cons_eraseIdx_perm hi).symm.flatMap_right Tick.pending
  have hafter : (s'.setPhase i now phase).pending.Perm
      ((⟨now, phase⟩ : Tick).pending ++ (s.ticks.eraseIdx i).flatMap Tick.pending) := by
    rw [CronState.pending, CronState.setPhase, hticks]
    exact (List.set_perm_cons_eraseIdx hi _).flatMap_right Tick.pending
  exact ((hrows _ hbefore (h.perm hbefore)).perm hafter.symm).congr rfl rfl rfl rfl

/-- The devices a row is started on are distinct. -/
theorem nodup_resolveTargetDevices (tables : CronTables) (row : DueNode) (groupIds : List ℕ)
    (hlist : row.targetType = "device" → (validDbIds row.targetIds).Nodup) :
    (resolveTargetDevices tables row groupIds).Nodup := by
  unfold resolveTargetDevices
  dsimp only
  split
  · exact tables.devices_keyed.sublist (List.filter_sublist.map _)
  · exact hlist ‹_›
  · exact tables.devices_keyed.sublist ((List.filter_sublist.trans List.filter_sublist).map _)
  · exact List.nodup_nil

theorem lt_nextRunFromExpression (parser : CronParser) (expression timezone : String) (after : ℤ) :
    after < nextRunFromExpression parser expression timezone after := by
  unfold nextRunFromExpression
  cases hnext : parser.next expression timezone after with
  | none =>
      rw [Option.getD_none]
      omega
  | some time => exact parser.next_gt _ _ _ _ hnext

theorem CronInv.fire {row : DueNode} {deviceId : ℕ} {ids : List ℕ} {denial : Option String} {record : Bool}
    (h : CronInv s (⟨now, row, some (deviceId :: ids)⟩ :: P)) :
    CronInv (s.fire row deviceId denial record) (⟨now, row, some ids⟩ :: P) := by
  have hsame : (startRun s.tables.engine row.scenarioId deviceId (cronOpts row) denial record).db =
      s.tables.engine.db := startRun_db
  cases hrun : startedRunId s.tables.engine row.scenarioId deviceId (cronOpts row) denial with
  | none => exact (h.nextDevice rfl).congr hsame rfl rfl (by simp [CronState.fire, hrun])
  | some runId =>
      cases hc : row.nextCronRunAt with
      | none => exact (h.nextDevice rfl).congr hsame rfl rfl (by simp [CronState.fire, hrun, hc])
      | some c =>
          exact (h.start runId rfl hc).congr hsame rfl rfl (by simp [CronState.fire, hrun, hc, Pending.nodeId])

theorem CronInv.runTick {parser : CronParser} {denial : Option String} {record : Bool}
    (h : CronInv s s.pending) (hok : Unbroken s (.run i denial record))
    (hs : runTick parser s i denial record = some s') : CronInv s' s'.pending := by
  obtain ⟨t, ht, hs⟩ := Option.bind_eq_some_iff.1 hs
  have hok : RunsApart s t.now t.phase := hok t ht
  obtain ⟨now, phase⟩ := t
  cases phase with
  | read =>
      cases hs
      refine h.setPhase ht rfl fun P hperm hP => hP.read fun row hrow hheld => hok row hrow ?_
      exact (hperm.map _).mem_iff.2 hheld
  | rows rows =>
      cases rows with
      | nil => cases hs
      | cons row rest =>
          cases hs
          exact h.setPhase ht rfl fun P _ hP => hP
  | targets row groupIds rest =>
      cases hs
      refine h.setPhase ht rfl fun P _ hP => hP.readDevices rfl ?_ ?_
      · split_ifs with hprimed
        · exact nodup_resolveTargetDevices _ _ _ (hok hprimed)
        · exact List.nodup_nil
      · intro hnone
        rw [hnone]
        rfl
  | devices row ids rest =>
      cases ids with
      | nil =>
          cases hs
          refine h.setPhase ht ?_ fun P _ hP => hP.write (lt_nextRunFromExpression _ _ _ _)
          unfold CronState.writeClock
          split_ifs <;> rfl
      | cons deviceId ids =>
          cases hs
          exact h.setPhase ht rfl fun P _ hP => hP.fire

theorem CronInv.throwTick (h : CronInv s s.pending) (hok : Unbroken s (.throws i))
    (hs : throwTick s i = some s') : CronInv s' s'.pending := by
  obtain ⟨t, ht, hs⟩ := Option.bind_eq_some_iff.1 hs
  have hok : WritesFired s t.phase := hok t ht
  obtain ⟨now, phase⟩ := t
  cases phase with
  | read =>
      cases hs
      exact h.setPhase ht rfl fun P _ hP => hP
  | rows rows =>
      cases rows with
      | nil => cases hs
      | cons row rest =>
          cases hs
          exact h.setPhase ht rfl fun P _ hP => hP.drop ((hP.ok _ List.mem_cons_self).not_halfFired rfl)
  | targets row groupIds rest =>
      cases hs
      exact h.setPhase ht rfl fun P _ hP => hP.drop ((hP.ok _ List.mem_cons_self).not_halfFired rfl)
  | devices row ids rest =>
      cases ids with
      | nil =>
          cases hs
          exact h.setPhase ht rfl fun P _ hP => hP.drop hok
      | cons deviceId ids =>
          cases hs
          exact h.setPhase ht rfl fun P _ hP => hP.nextDevice rfl

theorem CronInv.step {parser : CronParser} {op : CronOp} (h : CronInv s s.pending) (hok : Unbroken s op)
    (hs : cronStep parser s op = some s') : CronInv s' s'.pending := by
  cases op with
  | tick now =>
      cases hs
      have hsame : ({ s with ticks := s.ticks ++ [⟨now, .read⟩] } : CronState).pending = s.pending := by
        simp [CronState.pending, Tick.pending]
      rw [hsame]
      exact h.congr rfl rfl rfl rfl
  | run i denial record => exact h.runTick hok hs
  | throws i => exact h.throwTick hok hs
  | others tables =>
      simp only [cronStep] at hs
      split_ifs at hs with hprec
      cases hs
      exact h.others hprec
  | restart =>
      cases hs
      exact (h.dropAll hok).congr rfl rfl rfl rfl

/-- **When no row is left due after a run was started for it, and none is read twice, each occurrence
starts at most one run on a device.** -/
theorem cron_fires_once (parser : CronParser) {s : CronState} (h : Reach (cronMachine parser) Unbroken s) :
    FiresOnce s := by
  have hinv : CronInv s s.pending := by
    refine h.invariant (I := fun s => CronInv s s.pending) ?_ fun s op s' hI hok hs => hI.step hok hs
    rintro s ⟨hticks, hstarted⟩
    have hnone : s.pending = [] := by rw [CronState.pending, hticks, List.flatMap_nil]
    rw [hnone]
    refine ⟨?_, ?_, List.nodup_nil, ?_, ?_⟩ <;> simp [FiresOnce, hstarted]
  exact hinv.once

/-- A scenario that runs on device 7 every minute, due at 60000. -/
def minuteState : CronState where
  tables :=
    { engine := bootState
        { scenarios := [⟨2, 1, false⟩]
          nodes := [⟨5, 2, .trigger .scheduleCron, none,
            { NodeConfig.empty with cronExpression := some "* * * * *" }⟩, ⟨6, 2, .endSuccess, none, .empty⟩]
          edges := [⟨1, 2, 5, 6, .always, 0⟩]
          scripts := []
          devices := [⟨7, 1, none, "linux", "online", [], false⟩]
          groups := []
          cooldowns := [] }
      columns := fun _ => ⟨true, "device", [.num 7]⟩
      approved := fun _ => true
      closure := []
      nextNodeId := 7
      devices_keyed := by decide
      nodes_keyed := by decide
      nodes_below := by decide }
  nextCronRunAt := fun id => if id = 5 then some 60000 else none
  lastCronFireAt := fun _ => none
  ticks := []
  started := []

/-- A whole pass of the `i`-th tick over one due node with one device. -/
def wholeTick (now : ℤ) (i : ℕ) : List CronOp :=
  .tick now :: List.replicate 5 (.run i none false)

theorem minuteState_init : (cronMachine everyMinute).init minuteState := ⟨rfl, rfl⟩

theorem cron_fires_once_a_minute :
    ∃ s ∈ (cronMachine everyMinute).exec minuteState (wholeTick 60000 0 ++ wholeTick 120000 1),
      s.started = [⟨5, 60000, 7, 1⟩, ⟨5, 120000, 7, 2⟩] ∧ FiresOnce s := by
  refine ⟨_, rfl, by decide, cron_fires_once everyMinute ?_⟩
  exact (Reach.start minuteState_init).of_exec (wholeTick 60000 0 ++ wholeTick 120000 1) (by decide) rfl

/-- A tick starts while the one before it has the node, and reads it again. -/
def overlappingTicks : List CronOp :=
  [.tick 60000, .run 0 none false] ++ wholeTick 120000 1 ++ List.replicate 3 (.run 0 none false)

theorem overlapping_ticks_fire_twice : ¬ ∀ s, Reach (cronMachine everyMinute) anyStep s → FiresOnce s :=
  not_forall_reach minuteState_init overlappingTicks ⟨_, rfl, by decide⟩

/-- A reboot after a run was started and before the clock is written. -/
example : ∃ s ∈ (cronMachine everyMinute).exec minuteState
    (.tick 60000 :: List.replicate 4 (.run 0 none false) ++ .restart :: wholeTick 120000 0),
    s.started = [⟨5, 60000, 7, 1⟩, ⟨5, 60000, 7, 2⟩] := ⟨_, rfl, by decide⟩

end Obliance.Scenario
