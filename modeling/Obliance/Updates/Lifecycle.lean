import Mathlib.Data.List.Nodup
import Mathlib.Tactic.Common
import Mathlib.Order.MinMax
import Obliance.Agent.Updates
import Obliance.Lib.GuardedRun

/-!
# The life of a patch

Scans, approvals, deployments, retries and acks of one device, one after the other at increasing times.

* `patchMachine` : the runs; `puts` notes when an update was last put in pending_install or installing, and by
  which command, `acked` the commands with a terminal ack;
* `Lawful` : after a scan no reported update is installed, and what was put more than six hours ago by a
  command that has no terminal ack is available again;
* `InStep` : the scans that do that; `lawful_scan_iff`, `patches_lawful`.
-/

namespace Obliance.Updates
open Obliance.Js KeyedTable GuardedRun
open Obliance.Commands (Ack AckStatus CommandRow)

/-! ## Runs -/

/-- An update was put in pending_install or installing. -/
structure Put where
  since : ℤ
  command : ℕ
  deriving DecidableEq, Repr

/-- A scan: what it reported, and what was overdue when it came. -/
structure ScanRecord where
  reported : List String
  overdue : List String
  deriving DecidableEq, Repr

structure PatchState where
  now : ℤ
  table : UpdateTable
  queue : List CommandRow
  puts : JsMap String Put
  /-- the commands that had a terminal ack -/
  acked : List ℕ
  /-- the last action, when it was a scan that went through -/
  scan : Option ScanRecord
  deriving DecidableEq, Repr

inductive PatchAction where
  | scan (tenantId : ℕ) (updates : List ReportedUpdate) (policies : List UpdatePolicy)
  | approve (updateId tenantId approvedBy : ℕ)
  | approveSeverity (tenantId : ℕ) (severities : List String) (approvedBy : ℕ)
  | approveTitle (tenantId : ℕ) (updateUid : String) (approvedBy : ℕ)
  /-- `ids` are the UUIDs the database generates -/
  | deploy (tenantId : ℕ) (ids : List ℕ)
  | retry (updateId tenantId id : ℕ)
  | ack (tenantId : ℕ) (a : Ack)
  deriving DecidableEq, Repr

def UpdateStatus.InProgress (status : UpdateStatus) : Prop := status = .pendingInstall ∨ status = .installing

instance (status : UpdateStatus) : Decidable status.InProgress := inferInstanceAs (Decidable (_ ∨ _))

/-- In progress since more than six hours, by a command without a terminal ack. -/
def Overdue (s : PatchState) (now : ℤ) (r : UpdateRow) : Prop :=
  r.status.InProgress ∧ ∃ p ∈ s.puts.get r.updateUid, p.since < now - sixHours ∧ p.command ∉ s.acked

instance (s : PatchState) (now : ℤ) (r : UpdateRow) : Decidable (Overdue s now r) :=
  inferInstanceAs (Decidable (_ ∧ _))

def recordPut (now : ℤ) (puts : JsMap String Put) (id : ℕ) (uids : List String) : JsMap String Put :=
  uids.foldl (fun puts uid => puts.set uid ⟨now, id⟩) puts

def PatchState.withRows (s : PatchState) (rows : List UpdateRow) : PatchState :=
  { s with table := { s.table with rows := rows } }

/-- Commands enqueued at `now`. -/
def PatchState.enqueue (s : PatchState) (deviceId tenantId : ℕ) (commands : List InstallCommand) : PatchState :=
  { s with
    queue := s.queue ++ commands.map fun c => c.row deviceId tenantId
    puts := commands.foldl (fun puts c => recordPut s.now puts c.id c.uids) s.puts }

/-- The ids of new commands were not used before. -/
def FreshIds (s : PatchState) (ids : List ℕ) : Prop :=
  ids.Nodup ∧ ∀ id ∈ ids, id ∉ s.queue.map CommandRow.id ∧ id ∉ s.acked

instance (s : PatchState) (ids : List ℕ) : Decidable (FreshIds s ids) := inferInstanceAs (Decidable (_ ∧ _))

variable (host : Host) (deviceId : ℕ)

def scanDevice (s : PatchState) (tenantId : ℕ) (updates : List ReportedUpdate) (policies : List UpdatePolicy) :
    PatchState :=
  let overdue := (s.table.rows.filter fun r => Overdue s s.now r).map UpdateRow.updateUid
  let r := upsertUpdates host s.table tenantId s.now updates
  if r.2 then
    { s with
      table := { r.1 with rows := applyAutoApprove host r.1.rows tenantId policies s.now }
      scan := some ⟨reportedUids updates, overdue⟩ }
  else { s with table := r.1 }

/-- What an ack of a running command puts in installing. -/
def ackPuts (s : PatchState) (tenantId : ℕ) (a : Ack) : JsMap String Put :=
  match a.status, ackedRow s.queue deviceId tenantId s.now a with
  | .ackRunning, some row => recordPut s.now s.puts row.id (Commands.updateUidsOf row)
  | _, _ => s.puts

def terminalAck (a : Ack) : List ℕ :=
  match a.commandId with
  | .uuid id _ => if a.status.isTerminal then [id] else []
  | .other _ => []

def ackCommand (s : PatchState) (tenantId : ℕ) (a : Ack) : PatchState :=
  { s.withRows (ackInstall s.table.rows s.queue deviceId tenantId s.now a) with
    queue := ackQueue s.queue deviceId tenantId s.now a
    puts := ackPuts deviceId s tenantId a
    acked := terminalAck a ++ s.acked }

def stepAt (s : PatchState) : PatchAction → Option PatchState
  | .scan tenantId updates policies => some (scanDevice host s tenantId updates policies)
  | .approve updateId tenantId approvedBy =>
      some (s.withRows (approveUpdate s.table.rows updateId tenantId approvedBy s.now))
  | .approveSeverity tenantId severities approvedBy =>
      some (s.withRows (approveByDeviceAndSeverity s.table.rows tenantId severities approvedBy s.now))
  | .approveTitle tenantId updateUid approvedBy =>
      some (s.withRows (bulkApproveByTitle s.table.rows tenantId updateUid approvedBy s.now))
  | .deploy tenantId ids =>
      let r := deployApprovedUpdates s.table.rows tenantId s.now ids
      if FreshIds s ids ∧ ids.length = (sourcesOf (approvedRows s.table.rows tenantId)).length then
        some ((s.withRows r.1).enqueue deviceId tenantId r.2)
      else none
  | .retry updateId tenantId id =>
      if FreshIds s [id] then
        (retryUpdate s.table.rows updateId tenantId s.now id).map fun (rows, command) =>
          (s.withRows rows).enqueue deviceId tenantId [command]
      else none
  | .ack tenantId a => some (ackCommand deviceId s tenantId a)

/-- `ms` later. -/
def PatchState.later (s : PatchState) (ms : ℕ) : PatchState := { s with now := s.now + ms, scan := none }

def stepPatch (s : PatchState) (a : ℕ × PatchAction) : Option PatchState := stepAt host deviceId (s.later a.1) a.2

/-- What the keys of the table enforce. -/
structure UpdateTable.Schema (t : UpdateTable) : Prop where
  ids : Keyed UpdateRow.id t.rows
  uids : Keyed UpdateRow.updateUid t.rows
  used : ∀ r ∈ t.rows, r.id < t.nextId

/-- Nothing was put or acked yet. -/
structure Fresh (s : PatchState) : Prop where
  schema : s.table.Schema
  scanned : ∀ r ∈ s.table.rows, r.scannedAt ≤ s.now
  puts : s.puts = []
  acked : s.acked = []
  scan : s.scan = none

def patchMachine : Machine PatchState (ℕ × PatchAction) := ⟨Fresh, stepPatch host deviceId⟩

/-- After a scan, what it reported is not installed. -/
def ReportedOpen (s : PatchState) : Prop :=
  ∀ scan ∈ s.scan, ∀ uid ∈ scan.reported, ∃ r ∈ get UpdateRow.updateUid s.table.rows uid, r.status ≠ .installed

/-- After a scan, what was overdue is available. -/
def Recovered (s : PatchState) : Prop :=
  ∀ scan ∈ s.scan, ∀ uid ∈ scan.overdue, ∃ r ∈ get UpdateRow.updateUid s.table.rows uid, r.status = .available

def Lawful (s : PatchState) : Prop := ReportedOpen s ∧ Recovered s

instance (s : PatchState) : Decidable (ReportedOpen s) := by unfold ReportedOpen; infer_instance

instance (s : PatchState) : Decidable (Recovered s) := by unfold Recovered; infer_instance

/-- What the loop over the reported updates makes of a row. -/
def UpdateRow.report (now : ℤ) (updates : List ReportedUpdate) (r : UpdateRow) : UpdateRow :=
  updates.foldl (fun r u => if u.updateUid = r.updateUid then r.merge now u else r) r

/-- A scan that reports nothing installed; and what is overdue it reports, pending, for the first time in six
hours, and no policy approves it at once. A scan whose report is refused is no scan. -/
def ScanInStep (s : PatchState) (tenantId : ℕ) (updates : List ReportedUpdate) (policies : List UpdatePolicy) :
    Prop :=
  updates.all (accepts host) = true →
    ∀ r ∈ s.table.rows,
      (r.updateUid ∈ reportedUids updates → r.status ≠ .installed) ∧
        (Overdue s s.now r → r.updateUid ∈ reportedUids updates ∧ r.status = .pendingInstall ∧
          r.scannedAt < s.now - sixHours ∧
          ∀ p ∈ readPolicies host policies, p.selects tenantId (r.report s.now updates) = false)

def InStep (s : PatchState) : ℕ × PatchAction → Prop
  | (ms, .scan tenantId updates policies) => ScanInStep host (s.later ms) tenantId updates policies
  | _ => True

instance (s : PatchState) (a : ℕ × PatchAction) : Decidable (InStep host s a) := by
  unfold InStep ScanInStep
  split <;> infer_instance

/-! ## What a scan makes of a row -/

section Report
variable {host deviceId} {now : ℤ} {updates : List ReportedUpdate} {r : UpdateRow} {tenantId : ℕ}

theorem report_cons (u : ReportedUpdate) : r.report now (u :: updates) =
    (if u.updateUid = r.updateUid then r.merge now u else r).report now updates := rfl

theorem report_of_not_mem (hmem : r.updateUid ∉ reportedUids updates) : r.report now updates = r := by
  induction updates with
  | nil => rfl
  | cons u us ih =>
      rw [reportedUids, List.map_cons, List.mem_cons, not_or] at hmem
      rw [report_cons, if_neg (Ne.symm hmem.1)]
      exact ih hmem.2

/-- Pending since more than six hours, as the merge sees it. -/
def UpdateRow.Old (now : ℤ) (r : UpdateRow) : Prop := r.status = .pendingInstall ∧ r.updatedAt < now - sixHours

theorem merge_status_of_not_old (u : ReportedUpdate) (hold : ¬ r.Old now) : (r.merge now u).status = r.status :=
  if_neg hold

/-- The merge refreshes `updated_at`. -/
theorem not_old_merge (u : ReportedUpdate) : ¬ (r.merge now u).Old now := by
  rintro ⟨-, hlt⟩
  have : now < now - sixHours := hlt
  rw [sixHours] at this
  omega

theorem report_status_of_not_old (hold : ¬ r.Old now) : (r.report now updates).status = r.status := by
  induction updates generalizing r with
  | nil => rfl
  | cons u us ih =>
      rw [report_cons]
      by_cases hu : u.updateUid = r.updateUid
      · rw [if_pos hu, ih (not_old_merge u), merge_status_of_not_old u hold]
      · rw [if_neg hu, ih hold]

theorem report_status_of_old (hold : r.Old now) (hmem : r.updateUid ∈ reportedUids updates) :
    (r.report now updates).status = .available := by
  induction updates with
  | nil => cases hmem
  | cons u us ih =>
      rw [report_cons]
      by_cases hu : u.updateUid = r.updateUid
      · rw [if_pos hu, report_status_of_not_old (not_old_merge u)]
        exact if_pos hold
      · rw [reportedUids, List.map_cons, List.mem_cons] at hmem
        rw [if_neg hu]
        exact ih (hmem.resolve_left (Ne.symm hu))

theorem report_installed_iff : (r.report now updates).status = .installed ↔ r.status = .installed := by
  by_cases hold : r.Old now
  · by_cases hmem : r.updateUid ∈ reportedUids updates
    · simp [report_status_of_old hold hmem, hold.1]
    · rw [report_of_not_mem hmem]
  · rw [report_status_of_not_old hold]

/-- What is in progress is available again exactly when it is reported and old. -/
theorem report_available_iff (hprogress : r.status.InProgress) :
    (r.report now updates).status = .available ↔ r.updateUid ∈ reportedUids updates ∧ r.Old now := by
  have hne : r.status ≠ .available := by
    rcases hprogress with h | h <;> rw [h] <;> decide
  by_cases hold : r.Old now
  · by_cases hmem : r.updateUid ∈ reportedUids updates
    · simp [report_status_of_old hold hmem, hmem, hold]
    · simp [report_of_not_mem hmem, hmem, hne]
  · simp [report_status_of_not_old hold, hold, hne]

/-! ## The policies -/

/-- What the loop over the policies makes of a row. -/
def UpdateRow.autoApprove (tenantId : ℕ) (now : ℤ) (policies : List ReadPolicy) (r : UpdateRow) : UpdateRow :=
  policies.foldl (fun r p => if p.selects tenantId r then r.approve p.createdBy now else r) r

theorem autoApprove_cons (p : ReadPolicy) (ps : List ReadPolicy) : r.autoApprove tenantId now (p :: ps) =
    (if p.selects tenantId r then r.approve p.createdBy now else r).autoApprove tenantId now ps := rfl

theorem selects_of_ne_available (p : ReadPolicy) (hne : r.status ≠ .available) : p.selects tenantId r = false := by
  simp [ReadPolicy.selects, hne]

theorem autoApprove_of_ne_available {ps : List ReadPolicy} (hne : r.status ≠ .available) :
    r.autoApprove tenantId now ps = r := by
  induction ps with
  | nil => rfl
  | cons p ps ih => rw [autoApprove_cons, selects_of_ne_available p hne, if_neg Bool.false_ne_true, ih]

theorem autoApprove_available_iff {ps : List ReadPolicy} : (r.autoApprove tenantId now ps).status = .available ↔
    r.status = .available ∧ ∀ p ∈ ps, p.selects tenantId r = false := by
  induction ps with
  | nil => simp [UpdateRow.autoApprove]
  | cons p ps ih =>
      rw [autoApprove_cons, List.forall_mem_cons]
      cases hp : p.selects tenantId r with
      | false => simpa using ih
      | true =>
          have hne : (r.approve p.createdBy now).status ≠ .available := by
            change UpdateStatus.approved ≠ _
            decide
          rw [if_pos rfl, autoApprove_of_ne_available hne]
          simp [hne]

theorem autoApprove_installed_iff {ps : List ReadPolicy} :
    (r.autoApprove tenantId now ps).status = .installed ↔ r.status = .installed := by
  induction ps generalizing r with
  | nil => rfl
  | cons p ps ih =>
      rw [autoApprove_cons, ih]
      cases hp : p.selects tenantId r with
      | false => rfl
      | true =>
          have havailable : r.status = .available := by
            by_contra hne
            rw [selects_of_ne_available p hne] at hp
            cases hp
          simp [UpdateRow.approve, havailable]

end Report

/-! ## What a scan makes of the table -/

section Scan
variable {host deviceId} {t : UpdateTable} {now : ℤ} {tenantId : ℕ} {uid : String} {r : UpdateRow}

theorem upsertAll_snd (us : List ReportedUpdate) : (upsertAll host tenantId now t us).2 = us.all (accepts host) := by
  induction us generalizing t with
  | nil => rfl
  | cons u us ih =>
      rw [upsertAll, List.all_cons]
      cases accepts host u with
      | false => rfl
      | true => simpa using ih

theorem get_upsertUpdate (u : ReportedUpdate) : get UpdateRow.updateUid (upsertUpdate t tenantId now u).rows uid =
    match get UpdateRow.updateUid t.rows uid with
    | some r => some (if u.updateUid = r.updateUid then r.merge now u else r)
    | none => if u.updateUid = uid then some (newRow t.nextId tenantId now u) else none := by
  unfold upsertUpdate
  dsimp only
  cases hu : get UpdateRow.updateUid t.rows u.updateUid with
  | none =>
      have hnew : get UpdateRow.updateUid t.rows (newRow t.nextId tenantId now u).updateUid = none := hu
      rw [Option.isSome_none, if_neg Bool.false_ne_true, get_append_fresh hnew]
      change (if uid = u.updateUid then _ else _) = _
      by_cases huid : uid = u.updateUid
      · rw [if_pos huid, huid, hu, if_pos rfl]
      · rw [if_neg huid]
        cases hget : get UpdateRow.updateUid t.rows uid with
        | none => rw [if_neg (Ne.symm huid)]
        | some r => simp [key_of_get hget, Ne.symm huid]
  | some r₀ =>
      have hmerge : ∀ r, (UpdateRow.merge now u r).updateUid = r.updateUid := fun _ => rfl
      rw [Option.isSome_some, if_pos rfl, get_modify hmerge]
      cases hget : get UpdateRow.updateUid t.rows uid with
      | none =>
          have hne : u.updateUid ≠ uid := by
            rintro rfl
            rw [hu] at hget
            cases hget
          rw [if_neg hne]
          rfl
      | some r => simp [eq_comm]

theorem get_upsertAll_of_some {us : List ReportedUpdate} (hacc : us.all (accepts host) = true)
    (hget : get UpdateRow.updateUid t.rows uid = some r) :
    get UpdateRow.updateUid (upsertAll host tenantId now t us).1.rows uid = some (r.report now us) := by
  induction us generalizing t r with
  | nil => exact hget
  | cons u us ih =>
      rw [List.all_cons, Bool.and_eq_true] at hacc
      rw [upsertAll, if_pos hacc.1, report_cons]
      exact ih hacc.2 (by rw [get_upsertUpdate, hget])

theorem get_upsertAll_of_none {us : List ReportedUpdate} (hacc : us.all (accepts host) = true)
    (hget : get UpdateRow.updateUid t.rows uid = none) :
    if uid ∈ reportedUids us
    then ∃ r ∈ get UpdateRow.updateUid (upsertAll host tenantId now t us).1.rows uid, r.status = .available
    else get UpdateRow.updateUid (upsertAll host tenantId now t us).1.rows uid = none := by
  induction us generalizing t with
  | nil => simpa [reportedUids, upsertAll] using hget
  | cons u us ih =>
      rw [List.all_cons, Bool.and_eq_true] at hacc
      rw [upsertAll, if_pos hacc.1]
      have hstep := @get_upsertUpdate t now tenantId uid u
      rw [hget] at hstep
      dsimp only at hstep
      by_cases hu : u.updateUid = uid
      · -- the row is inserted, available, and later reports of it keep that
        rw [if_pos hu] at hstep
        rw [if_pos (by simp [reportedUids, hu])]
        refine ⟨_, get_upsertAll_of_some hacc.2 hstep, ?_⟩
        rw [report_status_of_not_old (by rintro ⟨h, -⟩; cases h)]
        rfl
      · rw [if_neg hu] at hstep
        have hiff : uid ∈ reportedUids (u :: us) ↔ uid ∈ reportedUids us := by
          simp [reportedUids, Ne.symm hu]
        simpa only [hiff] using ih hacc.2 hstep

theorem get_approveWhere (p : UpdateRow → Bool) (approvedBy : Option ℕ) {rows : List UpdateRow} :
    get UpdateRow.updateUid (approveWhere rows p approvedBy now) uid =
      (get UpdateRow.updateUid rows uid).map fun r => if p r then r.approve approvedBy now else r :=
  get_map fun r => by split_ifs <;> rfl

theorem get_applyAutoApprove {rows : List UpdateRow} {policies : List UpdatePolicy} :
    get UpdateRow.updateUid (applyAutoApprove host rows tenantId policies now) uid =
      (get UpdateRow.updateUid rows uid).map (UpdateRow.autoApprove tenantId now (readPolicies host policies)) := by
  unfold applyAutoApprove
  induction readPolicies host policies generalizing rows with
  | nil => exact Option.map_id'.symm
  | cons p ps ih =>
      rw [List.foldl_cons, ih, get_approveWhere, Option.map_map]
      rfl

end Scan

/-! ## What every action keeps -/

theorem not_inProgress_available : ¬ UpdateStatus.InProgress .available := by decide

theorem not_inProgress_approved : ¬ UpdateStatus.InProgress .approved := by decide

/-- A row in progress was updated when it was put there, or by a later scan that reported it. -/
structure RowKept (now : ℤ) (puts : JsMap String Put) (r : UpdateRow) : Prop where
  scanned : r.scannedAt ≤ now
  updated : r.status.InProgress → ∀ p ∈ puts.get r.updateUid, r.updatedAt = max p.since r.scannedAt

structure TableKept (now : ℤ) (puts : JsMap String Put) (t : UpdateTable) : Prop where
  schema : t.Schema
  rows : ∀ r ∈ t.rows, RowKept now puts r

structure Kept (s : PatchState) : Prop where
  table : TableKept s.now s.puts s.table
  puts : JsMap.Holds (fun p => p.since ≤ s.now) s.puts

variable {host deviceId}

section Table
variable {now : ℤ} {puts puts' : JsMap String Put} {t : UpdateTable} {tenantId : ℕ}

/-- An update of every row that keeps its keys. -/
theorem TableKept.map (ht : TableKept now puts t) (f : UpdateRow → UpdateRow) (hid : ∀ r, (f r).id = r.id)
    (huid : ∀ r, (f r).updateUid = r.updateUid) (hf : ∀ r ∈ t.rows, RowKept now puts' (f r)) :
    TableKept now puts' { t with rows := t.rows.map f } := by
  refine ⟨⟨nodup_map hid ht.schema.ids, nodup_map huid ht.schema.uids, ?_⟩, ?_⟩
  · intro r' hr'
    obtain ⟨r, hr, rfl⟩ := List.mem_map.mp hr'
    rw [hid]
    exact ht.schema.used r hr
  · intro r' hr'
    obtain ⟨r, hr, rfl⟩ := List.mem_map.mp hr'
    exact hf r hr

theorem TableKept.filter (ht : TableKept now puts t) (p : UpdateRow → Bool) :
    TableKept now puts { t with rows := t.rows.filter p } :=
  ⟨⟨ht.schema.ids.sublist (List.filter_sublist.map _), ht.schema.uids.sublist (List.filter_sublist.map _),
    fun r hr => ht.schema.used r (List.mem_of_mem_filter hr)⟩, fun r hr => ht.rows r (List.mem_of_mem_filter hr)⟩

theorem TableKept.upsertUpdate (ht : TableKept now puts t) (hputs : JsMap.Holds (fun p => p.since ≤ now) puts)
    (u : ReportedUpdate) : TableKept now puts (upsertUpdate t tenantId now u) := by
  unfold Updates.upsertUpdate
  cases hu : get UpdateRow.updateUid t.rows u.updateUid with
  | some r₀ =>
      have hmerged : ∀ r ∈ t.rows, RowKept now puts (if r.updateUid = u.updateUid then r.merge now u else r) := by
        intro r hr
        split_ifs
        · exact ⟨le_refl now, fun _ p hp => (max_eq_right (hputs.get hp)).symm⟩
        · exact ht.rows r hr
      have hmap := ht.map _ (fun r => by split_ifs <;> rfl) (fun r => by split_ifs <;> rfl) hmerged
      exact ⟨⟨hmap.schema.ids, hmap.schema.uids, fun r hr => Nat.lt_succ_of_lt (hmap.schema.used r hr)⟩, hmap.rows⟩
  | none =>
      have hnew : ∀ r ∈ t.rows, r.id ≠ t.nextId := fun r hr => (ht.schema.used r hr).ne
      refine ⟨⟨?_, ?_, ?_⟩, ?_⟩
      · exact nodup_append ht.schema.ids (get_eq_none_iff.mpr hnew)
      · exact nodup_append ht.schema.uids hu
      · intro r hr
        rcases List.mem_append.mp hr with hr | hr
        · exact Nat.lt_succ_of_lt (ht.schema.used r hr)
        · rw [List.mem_singleton.mp hr]
          exact Nat.lt_succ_self _
      · intro r hr
        rcases List.mem_append.mp hr with hr | hr
        · exact ht.rows r hr
        · rw [List.mem_singleton.mp hr]
          exact ⟨le_refl now, fun hprogress => absurd hprogress not_inProgress_available⟩

theorem TableKept.upsertAll (ht : TableKept now puts t) (hputs : JsMap.Holds (fun p => p.since ≤ now) puts)
    (us : List ReportedUpdate) : TableKept now puts (upsertAll host tenantId now t us).1 := by
  induction us generalizing t with
  | nil => exact ht
  | cons u us ih =>
      rw [Updates.upsertAll]
      split_ifs
      · exact ih (ht.upsertUpdate hputs u)
      · exact ht

theorem TableKept.approveWhere (ht : TableKept now puts t) (p : UpdateRow → Bool) (approvedBy : Option ℕ) :
    TableKept now puts { t with rows := approveWhere t.rows p approvedBy now } := by
  refine ht.map _ (fun r => by split_ifs <;> rfl) (fun r => by split_ifs <;> rfl) fun r hr => ?_
  split_ifs
  · exact ⟨(ht.rows r hr).scanned, fun hprogress => absurd hprogress not_inProgress_approved⟩
  · exact ht.rows r hr

theorem TableKept.applyAutoApprove (ht : TableKept now puts t) (policies : List UpdatePolicy) :
    TableKept now puts { t with rows := applyAutoApprove host t.rows tenantId policies now } := by
  unfold Updates.applyAutoApprove
  induction readPolicies host policies generalizing t with
  | nil => exact ht
  | cons p ps ih => exact ih (ht.approveWhere (p.selects tenantId) p.createdBy)

/-- Rows that are marked at `now`, and put by then when they are in progress. -/
theorem TableKept.mark (ht : TableKept now puts t) (mark : UpdateRow → Prop) [DecidablePred mark]
    (f : UpdateRow → UpdateRow) (hid : ∀ r, (f r).id = r.id) (huid : ∀ r, (f r).updateUid = r.updateUid)
    (hscanned : ∀ r, (f r).scannedAt = r.scannedAt) (hupdated : ∀ r, (f r).updatedAt = now)
    (hmarked : ∀ r ∈ t.rows, mark r → (f r).status.InProgress → ∀ p ∈ puts'.get r.updateUid, p.since = now)
    (hrest : ∀ r ∈ t.rows, ¬ mark r → puts'.get r.updateUid = puts.get r.updateUid) :
    TableKept now puts' { t with rows := t.rows.map fun r => if mark r then f r else r } := by
  refine ht.map _ (fun r => ?_) (fun r => ?_) fun r hr => ?_
  · split_ifs <;> simp [hid]
  · split_ifs <;> simp [huid]
  · split_ifs with hmark
    · refine ⟨(hscanned r).trans_le (ht.rows r hr).scanned, fun hprogress p hp => ?_⟩
      rw [huid] at hp
      rw [hupdated, hscanned, hmarked r hr hmark hprogress p hp, max_eq_left (ht.rows r hr).scanned]
    · refine ⟨(ht.rows r hr).scanned, fun hprogress p hp => ?_⟩
      rw [hrest r hr hmark] at hp
      exact (ht.rows r hr).updated hprogress p hp

end Table

section Puts
variable {now : ℤ} {puts : JsMap String Put} {uid : String}

theorem get_recordPut (id : ℕ) (uids : List String) :
    (recordPut now puts id uids).get uid = if uid ∈ uids then some ⟨now, id⟩ else puts.get uid := by
  induction uids generalizing puts with
  | nil => rfl
  | cons v uids ih =>
      change (recordPut now (puts.set v ⟨now, id⟩) id uids).get uid = _
      rw [ih, JsMap.get_set]
      by_cases hv : uid = v <;> simp [hv]

theorem holds_recordPut (hputs : JsMap.Holds (fun p => p.since ≤ now) puts) (id : ℕ) (uids : List String) :
    JsMap.Holds (fun p => p.since ≤ now) (recordPut now puts id uids) := by
  induction uids generalizing puts with
  | nil => exact hputs
  | cons v uids ih => exact ih (hputs.set (le_refl now) v)

/-- The last put of an update that some command is to install is by then. -/
theorem get_foldl_recordPut (commands : List InstallCommand) :
    let puts' := commands.foldl (fun puts c => recordPut now puts c.id c.uids) puts
    if ∃ c ∈ commands, uid ∈ c.uids then ∃ p, puts'.get uid = some p ∧ p.since = now
    else puts'.get uid = puts.get uid := by
  induction commands generalizing puts with
  | nil => rw [if_neg (by simp)]; rfl
  | cons c commands ih =>
      have htail := @ih (recordPut now puts c.id c.uids)
      rw [List.foldl_cons]
      by_cases hrest : ∃ c' ∈ commands, uid ∈ c'.uids
      · rw [if_pos hrest] at htail
        rw [if_pos (by obtain ⟨c', hc', hmem⟩ := hrest; exact ⟨c', List.mem_cons_of_mem _ hc', hmem⟩)]
        exact htail
      · rw [if_neg hrest, get_recordPut] at htail
        by_cases hc : uid ∈ c.uids
        · rw [if_pos hc] at htail
          rw [if_pos ⟨c, List.mem_cons_self, hc⟩]
          exact ⟨_, htail, rfl⟩
        · rw [if_neg hc] at htail
          rw [if_neg (by simpa [hc] using hrest)]
          exact htail

theorem holds_foldl_recordPut (hputs : JsMap.Holds (fun p => p.since ≤ now) puts) (commands : List InstallCommand) :
    JsMap.Holds (fun p => p.since ≤ now) (commands.foldl (fun puts c => recordPut now puts c.id c.uids) puts) := by
  induction commands generalizing puts with
  | nil => exact hputs
  | cons c commands ih => exact ih (holds_recordPut hputs c.id c.uids)

end Puts

section Step
variable {s s' : PatchState} {tenantId : ℕ}

/-- Rows marked pending_install, with the commands that are to install them. -/
theorem kept_of_enqueue (hs : Kept s) (mark : UpdateRow → Prop) [DecidablePred mark] (commands : List InstallCommand)
    (hmark : ∀ r ∈ s.table.rows, mark r ↔ ∃ c ∈ commands, r.updateUid ∈ c.uids) :
    Kept ((s.withRows (s.table.rows.map fun r => if mark r then r.setStatus .pendingInstall s.now else r)).enqueue
      deviceId tenantId commands) := by
  refine ⟨?_, holds_foldl_recordPut hs.puts commands⟩
  refine hs.table.mark mark _ (fun _ => rfl) (fun _ => rfl) (fun _ => rfl) (fun _ => rfl) ?_ ?_
  · intro r hr hmarked _ p hp
    have hget := @get_foldl_recordPut s.now s.puts r.updateUid commands
    dsimp only at hget
    rw [if_pos ((hmark r hr).mp hmarked)] at hget
    obtain ⟨p', hp', hsince⟩ := hget
    obtain rfl := Option.some.inj (hp'.symm.trans hp)
    exact hsince
  · intro r hr hnot
    have hget := @get_foldl_recordPut s.now s.puts r.updateUid commands
    dsimp only at hget
    rwa [if_neg fun h => hnot ((hmark r hr).mpr h)] at hget

theorem mem_approvedRows {rows : List UpdateRow} {r : UpdateRow} :
    r ∈ approvedRows rows tenantId ↔ r ∈ rows ∧ r.tenantId = tenantId ∧ r.status = .approved := by
  simp [approvedRows]

/-- The commands of a deployment are to install the approved updates. -/
theorem mem_deployed_iff {approved : List UpdateRow} {ids : List ℕ} (hlength : ids.length = (sourcesOf approved).length)
    (uid : String) :
    (∃ c ∈ (ids.zip (sourcesOf approved)).map fun x => (⟨x.1, .installUpdates, uidsOfSource approved x.2⟩ : InstallCommand),
      uid ∈ c.uids) ↔ uid ∈ approved.map UpdateRow.updateUid := by
  have hsources : ((ids.zip (sourcesOf approved)).map Prod.snd) = sourcesOf approved :=
    List.map_snd_zip hlength.symm.le
  constructor
  · rintro ⟨c, hc, huid⟩
    obtain ⟨x, -, rfl⟩ := List.mem_map.mp hc
    obtain ⟨r, hr, rfl⟩ := List.mem_map.mp huid
    exact List.mem_map_of_mem (List.mem_of_mem_filter hr)
  · intro huid
    obtain ⟨r, hr, rfl⟩ := List.mem_map.mp huid
    have hsource : r.source ∈ sourcesOf approved := List.mem_eraseDups.mpr (List.mem_map_of_mem hr)
    rw [← hsources] at hsource
    obtain ⟨x, hx, hxs⟩ := List.mem_map.mp hsource
    refine ⟨_, List.mem_map_of_mem hx, List.mem_map.mpr ⟨r, List.mem_filter.mpr ⟨hr, ?_⟩, rfl⟩⟩
    exact decide_eq_true hxs.symm

theorem kept_of_deploy (hs : Kept s) {ids : List ℕ}
    (hlength : ids.length = (sourcesOf (approvedRows s.table.rows tenantId)).length) :
    Kept ((s.withRows (deployApprovedUpdates s.table.rows tenantId s.now ids).1).enqueue deviceId tenantId
      (deployApprovedUpdates s.table.rows tenantId s.now ids).2) := by
  refine kept_of_enqueue hs (fun r => r.id ∈ (approvedRows s.table.rows tenantId).map UpdateRow.id) _ fun r hr => ?_
  rw [deployApprovedUpdates, mem_deployed_iff hlength]
  -- both keys select the approved row
  constructor
  · intro hmem
    obtain ⟨r', hr', hid⟩ := List.mem_map.mp hmem
    rw [hs.table.schema.ids.eq_of_key hr (mem_approvedRows.mp hr').1 hid.symm]
    exact List.mem_map_of_mem hr'
  · intro hmem
    obtain ⟨r', hr', huid⟩ := List.mem_map.mp hmem
    rw [hs.table.schema.uids.eq_of_key hr (mem_approvedRows.mp hr').1 huid.symm]
    exact List.mem_map_of_mem hr'

theorem kept_of_retry (hs : Kept s) {updateId id : ℕ} {r : List UpdateRow × InstallCommand}
    (h : retryUpdate s.table.rows updateId tenantId s.now id = some r) :
    Kept ((s.withRows r.1).enqueue deviceId tenantId [r.2]) := by
  obtain ⟨update, hfind, rfl⟩ := Option.map_eq_some_iff.mp h
  have hupdate := List.mem_of_find?_eq_some hfind
  have hid : update.id = updateId := by
    have := List.find?_some hfind
    exact (of_decide_eq_true this).1
  refine kept_of_enqueue hs (fun r => r.id = updateId) _ fun r hr => ?_
  rw [← hid]
  simp only [List.mem_singleton, exists_eq_left]
  exact ⟨fun h => by rw [hs.table.schema.ids.eq_of_key hr hupdate h],
    fun h => by rw [hs.table.schema.uids.eq_of_key hr hupdate h]⟩

theorem acked_inProgress {a : Ack} {now : ℤ} {r : UpdateRow} (h : (r.acked a now).status.InProgress) :
    a.status = .ackRunning := by
  unfold UpdateRow.acked at h
  split at h
  · assumption
  · rcases h with h | h <;> cases h
  · rcases h with h | h <;> cases h

theorem updateUid_acked (a : Ack) (now : ℤ) (r : UpdateRow) : (r.acked a now).updateUid = r.updateUid := by
  unfold UpdateRow.acked
  split <;> rfl

theorem kept_of_ack (hs : Kept s) (a : Ack) : Kept (ackCommand deviceId s tenantId a) := by
  refine ⟨?_, ?_⟩
  · refine hs.table.mark (fun r => r.updateUid ∈ ackedUids s.queue deviceId tenantId s.now a) (UpdateRow.acked a s.now)
      (fun r => by unfold UpdateRow.acked; split <;> rfl) (updateUid_acked a s.now)
      (fun r => by unfold UpdateRow.acked; split <;> rfl) (fun r => by unfold UpdateRow.acked; split <;> rfl) ?_ ?_
    · -- only the ack of a running command leaves a row in progress
      intro r _ hmem hprogress p hp
      have hrunning := acked_inProgress hprogress
      rw [ackedUids] at hmem
      unfold ackCommand ackPuts at hp
      cases hrow : ackedRow s.queue deviceId tenantId s.now a with
      | none => simp [hrow] at hmem
      | some row =>
          simp only [hrow, Option.map_some, Option.getD_some] at hmem
          simp only [hrow, hrunning, get_recordPut, if_pos hmem] at hp
          obtain rfl := Option.some.inj hp
          rfl
    · intro r _ hnot
      change (ackPuts deviceId s tenantId a).get r.updateUid = _
      rw [ackedUids] at hnot
      unfold ackPuts
      split
      · rename_i row _ hrow
        rw [hrow, Option.map_some, Option.getD_some] at hnot
        rw [get_recordPut, if_neg hnot]
      · rfl
  · change JsMap.Holds _ (ackPuts deviceId s tenantId a)
    unfold ackPuts
    split
    · exact holds_recordPut hs.puts _ _
    · exact hs.puts

theorem kept_of_scan (hs : Kept s) (updates : List ReportedUpdate) (policies : List UpdatePolicy) :
    Kept (scanDevice host s tenantId updates policies) := by
  have hstale := hs.table.filter fun r => ¬ (r.tenantId = tenantId ∧ r.status ∈ staleStatuses ∧
    r.updateUid ∉ reportedUids updates)
  have hupserted : TableKept s.now s.puts (upsertUpdates host s.table tenantId s.now updates).1 :=
    hstale.upsertAll hs.puts updates
  unfold scanDevice
  dsimp only
  split_ifs
  · exact ⟨hupserted.applyAutoApprove policies, hs.puts⟩
  · exact ⟨hupserted, hs.puts⟩

theorem kept_of_approve (hs : Kept s) (p : UpdateRow → Bool) (approvedBy : Option ℕ) :
    Kept (s.withRows (approveWhere s.table.rows p approvedBy s.now)) :=
  ⟨hs.table.approveWhere p approvedBy, hs.puts⟩

theorem kept_of_stepAt (hs : Kept s) {a : PatchAction} (h : stepAt host deviceId s a = some s') : Kept s' := by
  cases a with
  | scan tenantId updates policies =>
      rw [stepAt, Option.some.injEq] at h
      exact h ▸ kept_of_scan hs updates policies
  | approve updateId tenantId approvedBy =>
      rw [stepAt, Option.some.injEq] at h
      exact h ▸ kept_of_approve hs _ _
  | approveSeverity tenantId severities approvedBy =>
      rw [stepAt, Option.some.injEq] at h
      exact h ▸ kept_of_approve hs _ _
  | approveTitle tenantId updateUid approvedBy =>
      rw [stepAt, Option.some.injEq] at h
      exact h ▸ kept_of_approve hs _ _
  | deploy tenantId ids =>
      rw [stepAt] at h
      split_ifs at h with hids
      rw [Option.some.injEq] at h
      exact h ▸ kept_of_deploy hs hids.2
  | retry updateId tenantId id =>
      rw [stepAt] at h
      split_ifs at h
      obtain ⟨r, hr, rfl⟩ := Option.map_eq_some_iff.mp h
      exact kept_of_retry hs hr
  | ack tenantId a =>
      rw [stepAt, Option.some.injEq] at h
      exact h ▸ kept_of_ack hs a

theorem kept_later (hs : Kept s) (ms : ℕ) : Kept (s.later ms) := by
  have hle : s.now ≤ s.now + ms := by omega
  refine ⟨⟨hs.table.schema, fun r hr => ?_⟩, hs.puts.mono fun p hp => hp.trans hle⟩
  exact ⟨(hs.table.rows r hr).scanned.trans hle, (hs.table.rows r hr).updated⟩

theorem kept_of_fresh (h : Fresh s) : Kept s := by
  refine ⟨⟨h.schema, fun r hr => ⟨h.scanned r hr, fun _ p hp => ?_⟩⟩, ?_⟩
  · rw [h.puts] at hp
    cases hp
  · rw [h.puts]
    intro e he
    cases he

/-! ## When a scan is lawful -/

variable {updates : List ReportedUpdate} {policies : List UpdatePolicy} {uid : String}

/-- The rows after a scan that goes through. -/
def scannedRows (host : Host) (s : PatchState) (tenantId : ℕ) (updates : List ReportedUpdate)
    (policies : List UpdatePolicy) : List UpdateRow :=
  applyAutoApprove host (upsertUpdates host s.table tenantId s.now updates).1.rows tenantId policies s.now

theorem scanDevice_accepted (hacc : updates.all (accepts host) = true) :
    scanDevice host s tenantId updates policies =
      { s with
        table :=
          { (upsertUpdates host s.table tenantId s.now updates).1 with
            rows := scannedRows host s tenantId updates policies }
        scan := some ⟨reportedUids updates, (s.table.rows.filter fun r => Overdue s s.now r).map UpdateRow.updateUid⟩ } := by
  have hdone : (upsertUpdates host s.table tenantId s.now updates).2 = true := by
    rw [upsertUpdates, upsertAll_snd, hacc]
  rw [scanDevice, if_pos hdone]
  rfl

theorem get_deleteStale (hs : Kept s) :
    get UpdateRow.updateUid (deleteStale s.table.rows tenantId (reportedUids updates)) uid =
      (get UpdateRow.updateUid s.table.rows uid).filter fun r =>
        ¬ (r.tenantId = tenantId ∧ r.status ∈ staleStatuses ∧ r.updateUid ∉ reportedUids updates) :=
  get_filter hs.table.schema.uids _

/-- A row that is reported is merged, and goes through the policies. -/
theorem get_scanned_of_some (hs : Kept s) (hacc : updates.all (accepts host) = true) {r : UpdateRow}
    (hr : r ∈ s.table.rows) (hmem : r.updateUid ∈ reportedUids updates) :
    get UpdateRow.updateUid (scannedRows host s tenantId updates policies) r.updateUid =
      some ((r.report s.now updates).autoApprove tenantId s.now (readPolicies host policies)) := by
  have hget : get UpdateRow.updateUid s.table.rows r.updateUid = some r :=
    (get_eq_some_iff hs.table.schema.uids).mpr ⟨hr, rfl⟩
  have hstale := @get_deleteStale s tenantId updates r.updateUid hs
  rw [hget] at hstale
  simp only [hmem, not_true_eq_false, and_false, not_false_eq_true, decide_true, Option.filter_some, if_true] at hstale
  rw [scannedRows, get_applyAutoApprove, upsertUpdates, get_upsertAll_of_some hacc hstale, Option.map_some]

/-- What is reported for the first time is there, and not installed. -/
theorem get_scanned_of_none (hs : Kept s) (hacc : updates.all (accepts host) = true)
    (hget : get UpdateRow.updateUid s.table.rows uid = none) (hmem : uid ∈ reportedUids updates) :
    ∃ r ∈ get UpdateRow.updateUid (scannedRows host s tenantId updates policies) uid, r.status ≠ .installed := by
  have hstale := @get_deleteStale s tenantId updates uid hs
  rw [hget, Option.filter_none] at hstale
  have hnew := @get_upsertAll_of_none host
    { s.table with rows := deleteStale s.table.rows tenantId (reportedUids updates) } s.now tenantId uid updates hacc hstale
  rw [if_pos hmem] at hnew
  obtain ⟨r, hr, havailable⟩ := hnew
  refine ⟨r.autoApprove tenantId s.now (readPolicies host policies), ?_, ?_⟩
  · rw [scannedRows, get_applyAutoApprove, upsertUpdates, hr]
    rfl
  · rw [Ne, autoApprove_installed_iff, havailable]
    decide

/-- What is in progress and not reported is deleted, or as it was. -/
theorem get_scanned_of_not_mem (hs : Kept s) (hacc : updates.all (accepts host) = true) {r : UpdateRow}
    (hr : r ∈ s.table.rows) (hprogress : r.status.InProgress) (hmem : r.updateUid ∉ reportedUids updates) :
    ∀ r' ∈ get UpdateRow.updateUid (scannedRows host s tenantId updates policies) r.updateUid, r'.status ≠ .available := by
  have hget : get UpdateRow.updateUid s.table.rows r.updateUid = some r :=
    (get_eq_some_iff hs.table.schema.uids).mpr ⟨hr, rfl⟩
  have hne : r.status ≠ .available := by
    rcases hprogress with h | h <;> rw [h] <;> decide
  have hstale := @get_deleteStale s tenantId updates r.updateUid hs
  rw [hget, Option.filter_some] at hstale
  intro r' hr'
  rw [scannedRows, get_applyAutoApprove, upsertUpdates] at hr'
  split_ifs at hstale
  · rw [get_upsertAll_of_some hacc hstale, Option.map_some, report_of_not_mem hmem, autoApprove_of_ne_available hne,
      Option.mem_some_iff] at hr'
    rwa [← hr']
  · have hnone := @get_upsertAll_of_none host
      { s.table with rows := deleteStale s.table.rows tenantId (reportedUids updates) } s.now tenantId _ updates hacc hstale
    rw [if_neg hmem] at hnone
    rw [hnone] at hr'
    cases hr'

/-- An overdue row is old for the merge exactly when it is pending and no scan reported it in six hours. -/
theorem old_iff_of_overdue (hs : Kept s) {r : UpdateRow} (hr : r ∈ s.table.rows) (hoverdue : Overdue s s.now r) :
    r.Old s.now ↔ r.status = .pendingInstall ∧ r.scannedAt < s.now - sixHours := by
  obtain ⟨hprogress, p, hp, hsince, -⟩ := hoverdue
  rw [UpdateRow.Old, (hs.table.rows r hr).updated hprogress p hp, max_lt_iff]
  exact and_congr_right fun _ => and_iff_right hsince

/-- A reported row is not installed after the scan exactly when it was not before. -/
theorem reported_iff (hs : Kept s) (hacc : updates.all (accepts host) = true) :
    (∀ uid ∈ reportedUids updates, ∃ r ∈ get UpdateRow.updateUid (scannedRows host s tenantId updates policies) uid,
      r.status ≠ .installed) ↔
      ∀ r ∈ s.table.rows, r.updateUid ∈ reportedUids updates → r.status ≠ .installed := by
  constructor
  · intro h r hr hmem
    obtain ⟨r', hr', hne⟩ := h r.updateUid hmem
    rw [get_scanned_of_some hs hacc hr hmem, Option.mem_some_iff] at hr'
    rwa [← hr', Ne, autoApprove_installed_iff, report_installed_iff] at hne
  · intro h uid hmem
    cases hget : get UpdateRow.updateUid s.table.rows uid with
    | none => exact get_scanned_of_none hs hacc hget hmem
    | some r =>
        obtain rfl := key_of_get hget
        have hr := mem_of_get hget
        refine ⟨_, get_scanned_of_some hs hacc hr hmem, ?_⟩
        rw [Ne, autoApprove_installed_iff, report_installed_iff]
        exact h r hr hmem

/-- An overdue row is available after the scan exactly when it is reported, old, and no policy approves it. -/
theorem recovered_iff (hs : Kept s) (hacc : updates.all (accepts host) = true) {r : UpdateRow} (hr : r ∈ s.table.rows)
    (hoverdue : Overdue s s.now r) :
    (∃ r' ∈ get UpdateRow.updateUid (scannedRows host s tenantId updates policies) r.updateUid,
      r'.status = .available) ↔
      r.updateUid ∈ reportedUids updates ∧ r.status = .pendingInstall ∧ r.scannedAt < s.now - sixHours ∧
        ∀ p ∈ readPolicies host policies, p.selects tenantId (r.report s.now updates) = false := by
  by_cases hmem : r.updateUid ∈ reportedUids updates
  · rw [get_scanned_of_some hs hacc hr hmem]
    simp only [Option.mem_some_iff, exists_eq_left', autoApprove_available_iff, report_available_iff hoverdue.1,
      old_iff_of_overdue hs hr hoverdue, and_assoc]
  · refine iff_of_false ?_ fun h => hmem h.1
    rintro ⟨r', hr', havailable⟩
    exact get_scanned_of_not_mem hs hacc hr hoverdue.1 hmem r' hr' havailable

theorem lawful_of_scan_none (hscan : s.scan = none) : Lawful s := by
  simp [Lawful, ReportedOpen, Recovered, hscan]

/-- **A scan is lawful exactly when it is in step.** -/
theorem lawful_scan_iff (hs : Kept s) (hscan : s.scan = none) :
    Lawful (scanDevice host s tenantId updates policies) ↔ ScanInStep host s tenantId updates policies := by
  by_cases hacc : updates.all (accepts host) = true
  · have hrow : (∀ uid ∈ (s.table.rows.filter fun r => Overdue s s.now r).map UpdateRow.updateUid,
        ∃ r ∈ get UpdateRow.updateUid (scannedRows host s tenantId updates policies) uid, r.status = .available) ↔
        ∀ r ∈ s.table.rows, Overdue s s.now r →
          ∃ r' ∈ get UpdateRow.updateUid (scannedRows host s tenantId updates policies) r.updateUid,
            r'.status = .available := by
      simp only [List.forall_mem_map, List.mem_filter, decide_eq_true_eq, and_imp]
    rw [scanDevice_accepted hacc, Lawful, ReportedOpen, Recovered]
    simp only [Option.mem_some_iff, forall_eq']
    rw [reported_iff hs hacc, hrow, ScanInStep]
    simp only [hacc, forall_const]
    constructor
    · exact fun h r hr => ⟨h.1 r hr, fun hoverdue => (recovered_iff hs hacc hr hoverdue).mp (h.2 r hr hoverdue)⟩
    · exact fun h => ⟨fun r hr => (h r hr).1, fun r hr hoverdue =>
        (recovered_iff hs hacc hr hoverdue).mpr ((h r hr).2 hoverdue)⟩
  · have hdone : (upsertUpdates host s.table tenantId s.now updates).2 = false := by
      rw [upsertUpdates, upsertAll_snd]
      exact Bool.eq_false_iff.mpr hacc
    refine iff_of_true ?_ fun h => absurd h hacc
    rw [scanDevice, if_neg (by simp [hdone])]
    exact lawful_of_scan_none hscan

/-- Only a scan is looked at. -/
theorem scan_stepAt {a : PatchAction} (hscan : s.scan = none) (h : stepAt host deviceId s a = some s')
    (hne : ∀ tenantId updates policies, a ≠ .scan tenantId updates policies) : s'.scan = none := by
  cases a with
  | scan tenantId updates policies => exact absurd rfl (hne tenantId updates policies)
  | approve updateId tenantId approvedBy => exact Option.some.inj h ▸ hscan
  | approveSeverity tenantId severities approvedBy => exact Option.some.inj h ▸ hscan
  | approveTitle tenantId updateUid approvedBy => exact Option.some.inj h ▸ hscan
  | deploy tenantId ids =>
      rw [stepAt] at h
      split_ifs at h
      exact Option.some.inj h ▸ hscan
  | retry updateId tenantId id =>
      rw [stepAt] at h
      split_ifs at h
      obtain ⟨r, -, rfl⟩ := Option.map_eq_some_iff.mp h
      exact hscan
  | ack tenantId a => exact Option.some.inj h ▸ hscan

end Step

/-! ## Runs -/

variable (host deviceId)

/-- **In a run whose scans are in step**, a scan leaves nothing it reported installed, and makes available again
what was put in progress more than six hours ago and never finished. -/
theorem patches_lawful {s : PatchState} (hs : Reach (patchMachine host deviceId) (InStep host) s) : Lawful s := by
  suffices Kept s ∧ Lawful s from this.2
  refine hs.invariant (I := fun s => Kept s ∧ Lawful s) (fun s h => ⟨kept_of_fresh h, ?_⟩) ?_
  · exact lawful_of_scan_none h.scan
  rintro s ⟨ms, a⟩ t ⟨hkept, -⟩ hok h
  have hlater := kept_later hkept ms
  refine ⟨kept_of_stepAt hlater h, ?_⟩
  by_cases hscan : ∃ tenantId updates policies, a = .scan tenantId updates policies
  · obtain ⟨tenantId, updates, policies, rfl⟩ := hscan
    exact Option.some.inj h ▸ (lawful_scan_iff hlater rfl).mpr hok
  · have hnone := scan_stepAt rfl h fun tenantId updates policies ha => hscan ⟨tenantId, updates, policies, ha⟩
    exact lawful_of_scan_none hnone

/-! ## Two packages of one device -/

/-- `JSON.parse` of an empty array throws, as of an array of package names. -/
def jsonHost : Host := ⟨fun u => u.updateUid.length ≤ 500, fun _ => none⟩

def newDevice : PatchState := ⟨0, ⟨[], 1⟩, [], [], [], none⟩

theorem fresh_newDevice : Fresh newDevice :=
  ⟨⟨by decide, by decide, by decide⟩, by decide, rfl, rfl, rfl⟩

def hours (n : ℕ) : ℕ := n * 60 * 60 * 1000

def opensslOld : List ReportedUpdate :=
  Agent.scanAptUpdates "Listing...\nopenssl/jammy-updates 3.0.1 amd64 [upgradable from: 3.0.0]"

def opensslNew : List ReportedUpdate :=
  Agent.scanAptUpdates "Listing...\nopenssl/jammy-updates 3.0.2 amd64 [upgradable from: 3.0.1]"

def succeeds (id : ℕ) : Ack := ⟨.uuid id true, none, .success, none⟩

/-- A scan, an approval and a deployment whose command is never acked, and a scan seven hours later. -/
def lostInstall : List (ℕ × PatchAction) :=
  [(0, .scan 1 opensslOld []), (0, .approve 1 1 5), (0, .deploy 1 [10]), (hours 7, .scan 1 opensslOld [])]

theorem patches_lawful_lostInstall :
    ∃ s, s.scan = some ⟨["openssl"], ["openssl"]⟩ ∧ Lawful s := by
  have hadmits : (patchMachine jsonHost 3).Admits (InStep jsonHost) newDevice lostInstall := by decide
  obtain ⟨s, hs⟩ : ∃ s, (patchMachine jsonHost 3).exec newDevice lostInstall = some s := ⟨_, rfl⟩
  refine ⟨s, ?_, patches_lawful jsonHost 3 ((Reach.start fresh_newDevice).of_exec lostInstall hadmits hs)⟩
  have : ((patchMachine jsonHost 3).exec newDevice lostInstall).map (·.scan) = some (some ⟨["openssl"], ["openssl"]⟩) := by
    decide
  simpa [hs] using this

/-- The next version of a package that was installed stays installed; and with a scan every four hours, an
install that is lost stays pending. -/
theorem patches_not_lawful :
    (¬ ∀ s, Reach (patchMachine jsonHost 3) anyStep s → ReportedOpen s) ∧
      ¬ ∀ s, Reach (patchMachine jsonHost 3) anyStep s → Recovered s := by
  constructor
  · exact not_forall_reach fresh_newDevice
      [(0, .scan 1 opensslOld []), (0, .approve 1 1 5), (0, .deploy 1 [10]), (0, .ack 1 (succeeds 10)),
        (hours 24, .scan 1 opensslNew [])] (by decide)
  · exact not_forall_reach fresh_newDevice
      [(0, .scan 1 opensslOld []), (0, .approve 1 1 5), (0, .deploy 1 [10]), (hours 4, .scan 1 opensslOld []),
        (hours 4, .scan 1 opensslOld [])] (by decide)

end Obliance.Updates
