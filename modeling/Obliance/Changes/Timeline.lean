import Mathlib.Algebra.Ring.Nat
import Mathlib.Data.Int.Order.Basic
import Obliance.Lib.KeyedTable
import Obliance.Lib.NewestFirst

/-!
# The change timeline of a device (`services/changeEvent.service.ts`)

* `Tables` : the tables the events are read from, by primary key;
* `ChangeEvent`, `buildSources`, `resolveKinds` : the events of each source, and the kinds a caller is served;
* `getTimeline`, `getSummary` : the newest events, and the number of all of them;
* `TimelineSpec`, `timeline_spec` : the timeline is the newest part of the union, and agrees with the summary;
* `Permitted`, `permitted_of_mem` : whose rows it shows.
-/

namespace Obliance.Changes
open KeyedTable NewestFirst

/-! ## The tables -/

structure UpdateRow where
  id : ℕ
  deviceId : ℕ
  tenantId : ℕ
  installedAt : Option ℤ
  deriving DecidableEq

structure CommandRow where
  id : ℕ
  deviceId : ℕ
  tenantId : ℕ
  type : String
  status : String
  createdAt : ℤ
  sentAt : Option ℤ
  ackedAt : Option ℤ
  finishedAt : Option ℤ
  deriving DecidableEq

structure ExecutionRow where
  id : ℕ
  deviceId : ℕ
  tenantId : ℕ
  scheduleId : Option ℕ
  triggeredAt : ℤ
  deriving DecidableEq

structure ScenarioRunRow where
  id : ℕ
  deviceId : ℕ
  tenantId : ℕ
  startedAt : Option ℤ
  createdAt : ℤ
  deriving DecidableEq

/-- `results` holds the statuses of an array, `none` for another value. -/
structure ComplianceRow where
  id : ℕ
  deviceId : ℕ
  tenantId : ℕ
  results : Option (List (Option String))
  checkedAt : ℤ
  deriving DecidableEq

structure SessionRow where
  id : ℕ
  deviceId : ℕ
  tenantId : ℕ
  startedBy : Option ℕ
  startedAt : ℤ
  deriving DecidableEq

structure AuditRow where
  id : ℕ
  deviceId : Option ℕ
  tenantId : ℕ
  action : String
  createdAt : ℤ
  deriving DecidableEq

structure DeviceRow where
  id : ℕ
  tenantId : ℕ
  lastRebootAt : Option ℤ
  deriving DecidableEq

/-- Instants are in microseconds. -/
structure Tables where
  deviceUpdates : { rows : List UpdateRow // Keyed UpdateRow.id rows }
  commandQueue : { rows : List CommandRow // Keyed CommandRow.id rows }
  scriptExecutions : { rows : List ExecutionRow // Keyed ExecutionRow.id rows }
  scenarioRuns : { rows : List ScenarioRunRow // Keyed ScenarioRunRow.id rows }
  complianceResults : { rows : List ComplianceRow // Keyed ComplianceRow.id rows }
  remoteSessions : { rows : List SessionRow // Keyed SessionRow.id rows }
  auditLogs : { rows : List AuditRow // Keyed AuditRow.id rows }
  devices : { rows : List DeviceRow // Keyed DeviceRow.id rows }

/-! ## Events -/

inductive ChangeEventKind where
  | patch_deployed
  | script_run
  | scenario_run
  | compliance_drift
  | agent_upgraded
  | remote_session
  | config_change
  | schedule_run
  | reboot
  | software_installed
  | software_removed
  deriving DecidableEq

open ChangeEventKind

def CHANGE_EVENT_KINDS : List ChangeEventKind :=
  [patch_deployed, script_run, scenario_run, compliance_drift, agent_upgraded, remote_session, config_change,
    schedule_run, reboot, software_installed, software_removed]

/-- The row an event comes from; `time` is its instant in the database. -/
structure ChangeEvent where
  kind : ChangeEventKind
  table : String
  row : ℕ
  time : ℤ
  deriving DecidableEq

/-- `at`, in milliseconds. -/
def ChangeEvent.at (e : ChangeEvent) : ℤ := e.time / 1000

/-- The text of a kind. -/
def kindText : ChangeEventKind → String
  | patch_deployed => "patch_deployed"
  | script_run => "script_run"
  | scenario_run => "scenario_run"
  | compliance_drift => "compliance_drift"
  | agent_upgraded => "agent_upgraded"
  | remote_session => "remote_session"
  | config_change => "config_change"
  | schedule_run => "schedule_run"
  | reboot => "reboot"
  | software_installed => "software_installed"
  | software_removed => "software_removed"

def ChangeEvent.id (e : ChangeEvent) : String := kindText e.kind ++ ":" ++ e.table ++ ":" ++ toString e.row

/-- The window is in milliseconds. -/
structure SourceContext where
  deviceId : ℕ
  tenantId : ℕ
  since : ℤ
  upTo : ℤ
  callerUserId : ℕ
  callerIsAdmin : Bool
  deriving DecidableEq

def MASTER_TENANT_ID : ℕ := 1

/-- The columns a source reads of a row. -/
structure Columns (ρ : Type) where
  id : ρ → ℕ
  deviceId : ρ → Option ℕ
  tenantId : ρ → ℕ
  instant : ρ → Option ℤ

/-- The rows of the device and the tenant, within the window, that the source selects. -/
def SourceContext.read {ρ : Type} (ctx : SourceContext) (kind : ChangeEventKind) (table : String) (columns : Columns ρ)
    (keep : ρ → Bool) (rows : List ρ) : List ChangeEvent :=
  rows.filterMap fun r =>
    if columns.deviceId r = some ctx.deviceId ∧ (ctx.tenantId = MASTER_TENANT_ID ∨ columns.tenantId r = ctx.tenantId) ∧
        keep r = true then
      (columns.instant r).bind fun t =>
        if ctx.since * 1000 ≤ t ∧ t ≤ ctx.upTo * 1000 then some ⟨kind, table, columns.id r, t⟩ else none
    else none

def DELIVERED_COMMAND_STATUSES : List String := ["sent", "ack_running", "success", "failure", "timeout"]

def AUDIT_ACTIONS_OWNED_ELSEWHERE : List String :=
  ["command.reboot", "command.update_agent", "command.install_update", "command.install_updates",
    "command.install_software", "command.uninstall_software", "command.run_script", "remote.session_ended"]

/-- `LIKE 'remote.session_started.%'`, in which the underscore is any character. -/
def startsSession (action : String) : Bool :=
  let cs := action.toList
  decide (cs.take 14 = "remote.session".toList ∧ (cs.drop 15).take 8 = "started.".toList)

section Sources
variable (ctx : SourceContext) (tables : Tables)

/-- `CMD_AT` -/
def CommandRow.at (c : CommandRow) : ℤ := ((c.finishedAt.or c.ackedAt).or c.sentAt).getD c.createdAt

def commandSource (kind : ChangeEventKind) (types statuses : List String) : List ChangeEvent :=
  ctx.read kind "command_queue" ⟨CommandRow.id, fun c => some c.deviceId, CommandRow.tenantId, fun c => some c.at⟩
    (fun c => decide (c.type ∈ types ∧ c.status ∈ statuses)) tables.commandQueue.1

def executionSource (kind : ChangeEventKind) : List ChangeEvent :=
  ctx.read kind "script_executions"
    ⟨ExecutionRow.id, fun e => some e.deviceId, ExecutionRow.tenantId, fun e => some e.triggeredAt⟩
    (fun e => if kind = schedule_run then e.scheduleId.isSome else e.scheduleId.isNone) tables.scriptExecutions.1

/-- The sources of each kind; `none` for a kind the caller may not read. -/
def buildSources : ChangeEventKind → Option (List (List ChangeEvent))
  | patch_deployed => some
      [ctx.read patch_deployed "device_updates"
        ⟨UpdateRow.id, fun u => some u.deviceId, UpdateRow.tenantId, UpdateRow.installedAt⟩ (fun _ => true)
        tables.deviceUpdates.1,
      commandSource ctx tables patch_deployed ["install_update", "install_updates"] ["failure", "timeout"]]
  | script_run => some [executionSource ctx tables script_run]
  | schedule_run => some [executionSource ctx tables schedule_run]
  | scenario_run => some
      [ctx.read scenario_run "scenario_runs"
        ⟨ScenarioRunRow.id, fun r => some r.deviceId, ScenarioRunRow.tenantId, fun r =>
          some (r.startedAt.getD r.createdAt)⟩ (fun _ => true) tables.scenarioRuns.1]
  | compliance_drift => some
      [ctx.read compliance_drift "compliance_results"
        ⟨ComplianceRow.id, fun r => some r.deviceId, ComplianceRow.tenantId, fun r => some r.checkedAt⟩
        (fun r => (r.results.getD []).any fun status => decide (status = some "fail" ∨ status = some "error"))
        tables.complianceResults.1]
  | agent_upgraded => some [commandSource ctx tables agent_upgraded ["update_agent"] DELIVERED_COMMAND_STATUSES]
  | remote_session => some
      [ctx.read remote_session "remote_sessions"
        ⟨SessionRow.id, fun r => some r.deviceId, SessionRow.tenantId, fun r => some r.startedAt⟩
        (fun r => ctx.callerIsAdmin || decide (r.startedBy = some ctx.callerUserId)) tables.remoteSessions.1]
  | reboot => some
      [commandSource ctx tables reboot ["reboot"] DELIVERED_COMMAND_STATUSES,
      ctx.read reboot "devices" ⟨DeviceRow.id, fun d => some d.id, DeviceRow.tenantId, DeviceRow.lastRebootAt⟩
        (fun _ => true) tables.devices.1]
  | software_installed => some
      [commandSource ctx tables software_installed ["install_software"] DELIVERED_COMMAND_STATUSES]
  | software_removed => some
      [commandSource ctx tables software_removed ["uninstall_software"] DELIVERED_COMMAND_STATUSES]
  | config_change =>
      if ctx.callerIsAdmin then some
        [ctx.read config_change "audit_logs"
          ⟨AuditRow.id, AuditRow.deviceId, AuditRow.tenantId, fun a => some a.createdAt⟩
          (fun a => decide (a.action ∉ AUDIT_ACTIONS_OWNED_ELSEWHERE) && !startsSession a.action) tables.auditLogs.1]
      else none

def sourcesOf (kind : ChangeEventKind) : List (List ChangeEvent) := (buildSources ctx tables kind).getD []

def resolveKinds (requested : Option (List ChangeEventKind)) : List ChangeEventKind :=
  CHANGE_EVENT_KINDS.filter fun k =>
    (buildSources ctx tables k).isSome && (match requested with
      | none => true
      | some wanted => decide (k ∈ wanted))

end Sources

/-! ## The two answers -/

/-- `ORDER BY … DESC` with any order among rows of one instant, and `localeCompare`. -/
structure Orders where
  byTime : List ChangeEvent → List ChangeEvent
  perm : ∀ es, (byTime es).Perm es
  sorted : ∀ es, (byTime es).Pairwise fun a b => b.time ≤ a.time
  localeLe : String → String → Bool
  localeLe_trans : ∀ a b c, localeLe a b = true → localeLe b c = true → localeLe a c = true
  localeLe_total : ∀ a b, (localeLe a b || localeLe b a) = true

instance : Inhabited Orders where
  default :=
    { byTime := fun es => es.mergeSort fun a b => decide (b.time ≤ a.time)
      perm := fun es => List.mergeSort_perm es _
      sorted := fun es => (List.pairwise_mergeSort
        (fun _ _ _ hab hbc => decide_eq_true ((of_decide_eq_true hbc).trans (of_decide_eq_true hab)))
        (fun a b => by simpa using le_total b.time a.time) es).imp of_decide_eq_true
      localeLe := fun a b => decide (a ≤ b)
      localeLe_trans := fun _ _ _ hab hbc =>
        decide_eq_true (String.le_trans (of_decide_eq_true hab) (of_decide_eq_true hbc))
      localeLe_total := fun a b => by simpa using String.le_total a b }

/-- The comparison of the merge. -/
def Orders.before (o : Orders) (a b : ChangeEvent) : Bool :=
  decide (b.at < a.at) || (decide (a.at = b.at) && o.localeLe a.id b.id)

structure Timeline where
  kinds : List ChangeEventKind
  limit : ℕ
  truncated : Bool
  count : ℕ
  events : List ChangeEvent

def DEFAULT_LIMIT : ℤ := 500

def MAX_LIMIT : ℤ := 2000

def clampLimit (limit : Option ℤ) : ℕ := (min MAX_LIMIT (max 1 (limit.getD DEFAULT_LIMIT))).toNat

def getTimeline (o : Orders) (tables : Tables) (ctx : SourceContext) (requested : Option (List ChangeEventKind))
    (limit : Option ℤ) : Timeline :=
  let limit := clampLimit limit
  let kinds := resolveKinds ctx tables requested
  let batches := (kinds.flatMap (sourcesOf ctx tables)).map fun rows => (o.byTime rows).take (limit + 1)
  let merged := batches.flatten.mergeSort o.before
  let truncated := decide (limit < merged.length)
  ⟨kinds, limit, truncated, min merged.length limit, if truncated then merged.take limit else merged⟩

structure Summary where
  kinds : List ChangeEventKind
  counts : ChangeEventKind → ℕ

def getSummary (tables : Tables) (ctx : SourceContext) : Summary :=
  ⟨resolveKinds ctx tables none, fun kind => ((sourcesOf ctx tables kind).map List.length).sum⟩

/-- Every event of the kinds, whatever the limit. -/
def allEvents (tables : Tables) (ctx : SourceContext) (kinds : List ChangeEventKind) : List ChangeEvent :=
  (kinds.flatMap (sourcesOf ctx tables)).flatten

/-! ## The events of a source -/

section Reads
variable {ρ : Type} {ctx : SourceContext} {kind : ChangeEventKind} {table : String} {columns : Columns ρ}
  {keep : ρ → Bool} {rows : List ρ} {e : ChangeEvent}

/-- A row that an event was read from. -/
structure ReadFrom (ctx : SourceContext) (columns : Columns ρ) (keep : ρ → Bool) (r : ρ) (e : ChangeEvent) : Prop where
  device : columns.deviceId r = some ctx.deviceId
  tenant : ctx.tenantId = MASTER_TENANT_ID ∨ columns.tenantId r = ctx.tenantId
  keep : keep r = true
  row : e.row = columns.id r
  instant : columns.instant r = some e.time
  window : ctx.since * 1000 ≤ e.time ∧ e.time ≤ ctx.upTo * 1000

theorem mem_read (h : e ∈ ctx.read kind table columns keep rows) :
    e.kind = kind ∧ e.table = table ∧ ∃ r ∈ rows, ReadFrom ctx columns keep r e := by
  obtain ⟨r, hr, he⟩ := List.mem_filterMap.1 h
  split_ifs at he with hselected
  obtain ⟨t, ht, he⟩ := Option.bind_eq_some_iff.1 he
  split_ifs at he with hwindow
  obtain rfl := Option.some.inj he
  exact ⟨rfl, rfl, r, hr, ⟨hselected.1, hselected.2.1, hselected.2.2, rfl, ht, hwindow⟩⟩

/-- A source reads a row once. -/
theorem nodup_read (h : Keyed columns.id rows) : (ctx.read kind table columns keep rows).Nodup := by
  have hrows : ((ctx.read kind table columns keep rows).map ChangeEvent.row).Sublist (rows.map columns.id) := by
    clear h
    induction rows with
    | nil => exact List.Sublist.refl _
    | cons r rows ih =>
        rw [SourceContext.read, List.filterMap_cons]
        split
        · exact ih.cons _
        · next e he =>
            have hrow : e.row = columns.id r := by
              split_ifs at he
              obtain ⟨t, -, he⟩ := Option.bind_eq_some_iff.1 he
              split_ifs at he
              exact congrArg ChangeEvent.row (Option.some.inj he).symm
            rw [List.map_cons, List.map_cons, hrow]
            exact ih.cons_cons _
  exact (h.sublist hrows).of_map _

end Reads

section Union
variable {ctx : SourceContext} {tables : Tables} {kind : ChangeEventKind} {kinds : List ChangeEventKind}
  {e : ChangeEvent}

/-- What a source makes of a row, whichever table it reads. -/
theorem read_spec {ρ : Type} {table : String} {columns : Columns ρ} {keep : ρ → Bool} {rows : List ρ}
    (h : e ∈ ctx.read kind table columns keep rows) :
    e.kind = kind ∧ ctx.since * 1000 ≤ e.time ∧ e.time ≤ ctx.upTo * 1000 := by
  obtain ⟨hkind, -, r, -, hread⟩ := mem_read h
  exact ⟨hkind, hread.window⟩

/-- The events of a kind carry it, and lie in the window. -/
theorem spec_of_mem (h : e ∈ (sourcesOf ctx tables kind).flatten) :
    e.kind = kind ∧ ctx.since * 1000 ≤ e.time ∧ e.time ≤ ctx.upTo * 1000 := by
  obtain ⟨src, hsrc, he⟩ := List.mem_flatten.1 h
  cases kind with
  | patch_deployed | reboot =>
      rcases List.mem_pair.1 hsrc with rfl | rfl <;> exact read_spec he
  | config_change =>
      rw [sourcesOf, buildSources] at hsrc
      split_ifs at hsrc
      · obtain rfl := List.mem_singleton.1 hsrc
        exact read_spec he
      · cases hsrc
  | _ =>
      obtain rfl := List.mem_singleton.1 hsrc
      exact read_spec he

theorem kind_of_mem (h : e ∈ (sourcesOf ctx tables kind).flatten) : e.kind = kind := (spec_of_mem h).1

theorem nodup_commandSource (types statuses : List String) : (commandSource ctx tables kind types statuses).Nodup :=
  nodup_read tables.commandQueue.2

theorem nodup_kind : (sourcesOf ctx tables kind).flatten.Nodup := by
  have hpair {a b : List ChangeEvent} {s t : String} (ha : a.Nodup) (hb : b.Nodup) (has : ∀ e ∈ a, e.table = s)
      (hbt : ∀ e ∈ b, e.table = t) (hst : s ≠ t) : [a, b].flatten.Nodup := by
    rw [List.flatten_cons, List.flatten_singleton]
    refine List.nodup_append.2 ⟨ha, hb, fun e he e' he' heq => hst ?_⟩
    rw [← has e he, heq, hbt e' he']
  cases kind with
  | patch_deployed =>
      exact hpair (nodup_read tables.deviceUpdates.2) (nodup_commandSource _ _) (fun e he => (mem_read he).2.1)
        (fun e he => (mem_read he).2.1) (by decide)
  | reboot =>
      exact hpair (nodup_commandSource _ _) (nodup_read tables.devices.2) (fun e he => (mem_read he).2.1)
        (fun e he => (mem_read he).2.1) (by decide)
  | script_run | schedule_run => exact List.flatten_singleton ▸ nodup_read tables.scriptExecutions.2
  | scenario_run => exact List.flatten_singleton ▸ nodup_read tables.scenarioRuns.2
  | compliance_drift => exact List.flatten_singleton ▸ nodup_read tables.complianceResults.2
  | remote_session => exact List.flatten_singleton ▸ nodup_read tables.remoteSessions.2
  | agent_upgraded | software_installed | software_removed =>
      exact List.flatten_singleton ▸ nodup_commandSource _ _
  | config_change =>
      rw [sourcesOf, buildSources]
      split_ifs
      · exact List.flatten_singleton ▸ nodup_read tables.auditLogs.2
      · exact List.nodup_nil

theorem allEvents_cons : allEvents tables ctx (kind :: kinds) =
    (sourcesOf ctx tables kind).flatten ++ allEvents tables ctx kinds := by
  rw [allEvents, List.flatMap_cons, List.flatten_append]
  rfl

theorem mem_allEvents (h : e ∈ allEvents tables ctx kinds) :
    e.kind ∈ kinds ∧ e ∈ (sourcesOf ctx tables e.kind).flatten := by
  induction kinds with
  | nil => cases h
  | cons kind kinds ih =>
      rw [allEvents_cons, List.mem_append] at h
      rcases h with h | h
      · rw [kind_of_mem h]
        exact ⟨List.mem_cons_self, h⟩
      · exact ⟨List.mem_cons_of_mem _ (ih h).1, (ih h).2⟩

theorem nodup_allEvents (h : kinds.Nodup) : (allEvents tables ctx kinds).Nodup := by
  induction kinds with
  | nil => exact List.nodup_nil
  | cons kind kinds ih =>
      obtain ⟨hnot, hkinds⟩ := List.nodup_cons.1 h
      rw [allEvents_cons]
      refine List.nodup_append.2 ⟨nodup_kind, ih hkinds, fun e he e' he' heq => hnot ?_⟩
      rw [← kind_of_mem he, heq]
      exact (mem_allEvents he').1

/-- The events of one kind among those of all. -/
theorem filter_kind (h : kinds.Nodup) (hkind : kind ∈ kinds) :
    (allEvents tables ctx kinds).filter (fun e => decide (e.kind = kind)) = (sourcesOf ctx tables kind).flatten := by
  induction kinds with
  | nil => cases hkind
  | cons k kinds ih =>
      obtain ⟨hnot, hkinds⟩ := List.nodup_cons.1 h
      rw [allEvents_cons, List.filter_append]
      rcases List.mem_cons.1 hkind with rfl | hmem
      · have hhead : ((sourcesOf ctx tables kind).flatten.filter fun e => decide (e.kind = kind)) =
            (sourcesOf ctx tables kind).flatten :=
          List.filter_eq_self.2 fun e he => decide_eq_true (kind_of_mem he)
        have htail : ((allEvents tables ctx kinds).filter fun e => decide (e.kind = kind)) = [] :=
          List.filter_eq_nil_iff.2 fun e he heq => hnot (of_decide_eq_true heq ▸ (mem_allEvents he).1)
        rw [hhead, htail, List.append_nil]
      · have hhead : ((sourcesOf ctx tables k).flatten.filter fun e => decide (e.kind = kind)) = [] := by
          refine List.filter_eq_nil_iff.2 fun e he heq => hnot ?_
          rw [← kind_of_mem he, of_decide_eq_true heq]
          exact hmem
        rw [hhead, List.nil_append, ih hkinds hmem]

theorem nodup_resolveKinds {requested : Option (List ChangeEventKind)} : (resolveKinds ctx tables requested).Nodup :=
  List.Nodup.filter _ (by decide)

end Union

/-! ## The merge -/

section Merge
variable {o : Orders} {tables : Tables} {ctx : SourceContext} {requested : Option (List ChangeEventKind)}
  {limit : Option ℤ}

theorem before_trans (a b c : ChangeEvent) (hab : o.before a b = true) (hbc : o.before b c = true) :
    o.before a c = true := by
  simp only [Orders.before, Bool.or_eq_true, Bool.and_eq_true, decide_eq_true_eq] at hab hbc ⊢
  rcases hab with hab | ⟨hab, hle⟩ <;> rcases hbc with hbc | ⟨hbc, hle'⟩
  · exact .inl (hbc.trans hab)
  · exact .inl (hbc ▸ hab)
  · exact .inl (hab ▸ hbc)
  · exact .inr ⟨hab.trans hbc, o.localeLe_trans _ _ _ hle hle'⟩

theorem before_total (a b : ChangeEvent) : (o.before a b || o.before b a) = true := by
  simp only [Orders.before, Bool.or_eq_true, Bool.and_eq_true, decide_eq_true_eq]
  rcases lt_trichotomy a.at b.at with hlt | heq | hgt
  · exact .inr (.inl hlt)
  · rcases Bool.or_eq_true _ _ ▸ o.localeLe_total a.id b.id with hle | hle
    · exact .inl (.inr ⟨heq, hle⟩)
    · exact .inr (.inr ⟨heq.symm, hle⟩)
  · exact .inl (.inl hgt)

theorem at_of_before {a b : ChangeEvent} (h : o.before a b = true) : b.at ≤ a.at := by
  simp only [Orders.before, Bool.or_eq_true, Bool.and_eq_true, decide_eq_true_eq] at h
  rcases h with h | h
  · exact h.le
  · exact h.1.ge

/-- The batches, each the newest of its source. -/
def batches (o : Orders) (tables : Tables) (ctx : SourceContext) (kinds : List ChangeEventKind) (limit : ℕ) :
    List (List ChangeEvent) :=
  (kinds.flatMap (sourcesOf ctx tables)).map fun rows => (o.byTime rows).take (limit + 1)

theorem newest_batches {kinds : List ChangeEventKind} {limit : ℕ} :
    List.Forall₂ (Newest ChangeEvent.at (limit + 1)) (kinds.flatMap (sourcesOf ctx tables))
      (batches o tables ctx kinds limit) := by
  rw [batches, List.forall₂_map_right_iff, List.forall₂_same]
  intro rows _
  have hclock : Monotone fun t : ℤ => t / 1000 := fun a b h => Int.ediv_le_ediv (by decide) h
  have hnewest : Newest ChangeEvent.time (limit + 1) rows ((o.byTime rows).take (limit + 1)) :=
    newest_take (o.perm rows) (o.sorted rows)
  have hcoarse := hnewest.coarse hclock
  exact hcoarse

end Merge

/-- An event that the caller may see: within the window, no audit entry unless for an admin, and no session of another
user unless for an admin. -/
structure Permitted (tables : Tables) (ctx : SourceContext) (e : ChangeEvent) : Prop where
  window : ctx.since ≤ e.at ∧ e.at ≤ ctx.upTo
  audit : e.kind = config_change → ctx.callerIsAdmin = true
  session : e.kind = remote_session → ctx.callerIsAdmin = true ∨ ∃ r ∈ tables.remoteSessions.1,
    r.id = e.row ∧ r.deviceId = ctx.deviceId ∧ r.startedBy = some ctx.callerUserId

theorem permitted_of_mem {tables : Tables} {ctx : SourceContext} {kinds : List ChangeEventKind} {e : ChangeEvent}
    (h : e ∈ allEvents tables ctx kinds) : Permitted tables ctx e := by
  obtain ⟨-, hsource⟩ := mem_allEvents h
  obtain ⟨-, hsince, huntil⟩ := spec_of_mem hsource
  refine ⟨⟨?_, ?_⟩, fun hkind => ?_, fun hkind => ?_⟩
  · rw [ChangeEvent.at]
    omega
  · rw [ChangeEvent.at]
    omega
  · rw [hkind, sourcesOf, buildSources] at hsource
    split_ifs at hsource with hadmin
    · exact hadmin
    · cases hsource
  · rw [hkind, sourcesOf, buildSources, Option.getD_some, List.flatten_singleton] at hsource
    obtain ⟨-, -, r, hr, hread⟩ := mem_read hsource
    rcases Bool.or_eq_true_iff.1 hread.keep with hadmin | hown
    · exact .inl hadmin
    · exact .inr ⟨r, hr, hread.row.symm, Option.some.inj hread.device, of_decide_eq_true hown⟩

/-- What the timeline is, against all events of its kinds. -/
structure TimelineSpec (tables : Tables) (ctx : SourceContext) (t : Timeline) : Prop where
  permitted : ∀ e ∈ t.events, Permitted tables ctx e
  newest : Newest ChangeEvent.at t.limit (allEvents tables ctx t.kinds) t.events
  order : t.events.Pairwise fun a b => b.at ≤ a.at
  nodup : t.events.Nodup
  count : t.count = t.events.length
  truncated : t.truncated = true ↔ t.limit < (allEvents tables ctx t.kinds).length
  summary : t.truncated = false → ∀ kind ∈ t.kinds,
    (t.events.filter fun e => decide (e.kind = kind)).length = (getSummary tables ctx).counts kind

/-- **The timeline is the newest part of the union of its sources**, each event once, newest first and one the
caller may see, and says truly whether it was cut; uncut it has as many events of each kind as the summary counts. -/
theorem timeline_spec (o : Orders) (tables : Tables) (ctx : SourceContext) (requested : Option (List ChangeEventKind))
    (limit : Option ℤ) : TimelineSpec tables ctx (getTimeline o tables ctx requested limit) := by
  rw [getTimeline]
  generalize clampLimit limit = n
  have hkinds := @nodup_resolveKinds ctx tables requested
  generalize resolveKinds ctx tables requested = kinds at hkinds
  have hbatches := @newest_batches o tables ctx kinds n
  rw [← batches]
  have hsorted : ((batches o tables ctx kinds n).flatten.mergeSort o.before).Pairwise fun a b => b.at ≤ a.at :=
    (List.pairwise_mergeSort before_trans before_total _).imp at_of_before
  have hperm := List.mergeSort_perm (batches o tables ctx kinds n).flatten o.before
  generalize (batches o tables ctx kinds n).flatten.mergeSort o.before = merged at hsorted hperm
  have hevents : (if decide (n < merged.length) = true then merged.take n else merged) = merged.take n := by
    split_ifs with hlt
    · rfl
    · exact (List.take_of_length_le (Nat.le_of_not_lt fun h => hlt (decide_eq_true h))).symm
  have hnewest : Newest ChangeEvent.at n (allEvents tables ctx kinds) (merged.take n) :=
    Newest.merge hbatches (newest_take hperm hsorted)
  have hmore : n < merged.length ↔ n < (allEvents tables ctx kinds).length := by
    rw [hperm.length_eq]
    exact lt_length_merge hbatches
  rw [hevents]
  obtain ⟨left, hleft⟩ := hnewest
  have hmem : ∀ e ∈ merged.take n, e ∈ allEvents tables ctx kinds := fun e he =>
    hleft.perm.mem_iff.2 (List.mem_append_left _ he)
  refine ⟨fun e he => permitted_of_mem (hmem e he), ⟨left, hleft⟩, hsorted.sublist (List.take_sublist _ _), ?_, ?_, ?_,
    fun huncut kind hkind => ?_⟩
  · exact (hleft.perm.nodup_iff.1 (nodup_allEvents hkinds)).of_append_left
  · exact (Nat.min_comm _ _).trans List.length_take.symm
  · rw [decide_eq_true_eq]
    exact hmore
  · have hall : left = [] := by
      have hle : ¬ n < (allEvents tables ctx kinds).length := fun h => of_decide_eq_false huncut (hmore.2 h)
      have htotal : (allEvents tables ctx kinds).length = (merged.take n).length + left.length := by
        rw [hleft.perm.length_eq, List.length_append]
      have hlength := hleft.length
      exact List.length_eq_zero_iff.1 (by omega)
    have hperm' : (allEvents tables ctx kinds).Perm (merged.take n) := by
      have hperm' := hleft.perm
      rwa [hall, List.append_nil] at hperm'
    rw [← (hperm'.filter _).length_eq, filter_kind hkinds hkind, List.length_flatten]
    rfl

end Obliance.Changes
