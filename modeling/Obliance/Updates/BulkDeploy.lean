import Obliance.Updates.Fleet
import Obliance.Users.DeviceAccess
import Obliance.Users.Scope

/-!
# Approving and deploying over devices (`routes/update.routes.ts`)

* `UpdatesDb` : updates with their keys, and the rights of users;
* `bulkApproveAndDeploy` : POST /updates/bulk-approve-and-deploy, with the install commands it enqueues;
* `approveRoute` : POST /updates/device/:deviceId/approve;
* `mem_deployAll` : what is installed on the devices of a deployment;
* `SelectedOnly` : the commands install the selected open updates of writable devices in scope, and an
  approval stays on its device;
* `selected_only_iff` : when that is so.
-/

namespace Obliance.Updates.Bulk
open KeyedTable Obliance.Groups Obliance.Users

/-- The database; `rights` is what the tenant capabilities are read from. -/
structure UpdatesDb extends RbacState where
  rights : RightsDb
  updates : List FleetRow
  updateIds : Keyed (fun r : FleetRow => r.id) updates

structure Caller where
  userId : ℕ
  tenantId : ℕ
  isAdmin : Bool

/-- A row of `command_queue` of type `install_updates`. -/
structure InstallBatch where
  deviceId : ℕ
  tenantId : ℕ
  source : String
  updateUids : List String
  createdBy : ℕ
  deriving DecidableEq, Repr

variable (s : UpdatesDb) (caller : Caller) (now : ℤ)

/-! ## The middleware -/

def requireTenantCapability (capability : String) : Bool :=
  caller.isAdmin || userHasTenantCapability s.rights caller.userId caller.tenantId capability

/-- For a device id as `parseInt` reads it; `none` is NaN. -/
def requireDeviceWrite (deviceId : Option ℕ) : Bool :=
  caller.isAdmin || deviceId.any fun id => canWriteDevice s.toTeamRights s.devices caller.userId id false

/-! ## The service -/

/-- The device is in the group or below it; without a group, any device. -/
def inScope (groupId : Option ℕ) (deviceId : ℕ) : Bool :=
  match truthy groupId with
  | none => true
  | some g => s.devices.any fun d => decide (d.id = deviceId) && d.groupId.any fun h =>
      s.closure.any fun c => decide (c.ancestorId = g ∧ c.descendantId = h)

def approve (by_ : ℕ) (r : FleetRow) : FleetRow := { r with toUpdateRow := r.toUpdateRow.approve (some by_) now }

def approveWhere (p : FleetRow → Bool) (rows : List FleetRow) : List FleetRow :=
  rows.map fun r => if p r then approve now caller.userId r else r

def bulkApproveByTitle (rows : List FleetRow) (updateUid : String) (groupId : Option ℕ) : List FleetRow :=
  approveWhere caller now (fun r => decide (r.tenantId = caller.tenantId ∧ r.updateUid = updateUid ∧
    r.status = .available) && inScope s groupId r.deviceId) rows

def approveUpdate (rows : List FleetRow) (updateId : ℕ) : List FleetRow :=
  approveWhere caller now (fun r => decide (r.id = updateId ∧ r.tenantId = caller.tenantId)) rows

def approveByDeviceAndSeverity (rows : List FleetRow) (deviceId : Option ℕ) (severities : List String) :
    List FleetRow :=
  approveWhere caller now (fun r => decide (some r.deviceId = deviceId ∧ r.tenantId = caller.tenantId ∧
    r.status = .available) && severities.contains r.severity) rows

def isApproved (deviceId : ℕ) (r : FleetRow) : Bool :=
  decide (r.deviceId = deviceId ∧ r.tenantId = caller.tenantId ∧ r.status = .approved)

def markPending (approved : List FleetRow) (r : FleetRow) : FleetRow :=
  if (approved.map fun r => r.id).contains r.id then
    { r with toUpdateRow := r.toUpdateRow.setStatus .pendingInstall now }
  else r

/-- The rows after the statement, and one command a source. -/
def deployApprovedUpdates (rows : List FleetRow) (deviceId : ℕ) : List FleetRow × List InstallBatch :=
  let approved := rows.filter (isApproved caller deviceId)
  let updates := approved.map FleetRow.toUpdateRow
  (rows.map (markPending now approved), (sourcesOf updates).map fun source =>
    ⟨deviceId, caller.tenantId, source, uidsOfSource updates source, caller.userId⟩)

/-! ## The routes -/

/-- The loop over the devices. -/
def deployAll : List FleetRow → List ℕ → List FleetRow × List InstallBatch
  | rows, [] => (rows, [])
  | rows, deviceId :: deviceIds =>
      let (rows, batches) := deployApprovedUpdates caller now rows deviceId
      let (rows, rest) := deployAll rows deviceIds
      (rows, batches ++ rest)

/-- The devices with an approved update of the selection. -/
def targets (rows : List FleetRow) (updateUids : List String) (groupId : Option ℕ) : List ℕ :=
  ((rows.filter fun r => decide (r.tenantId = caller.tenantId ∧ r.status = .approved) &&
    updateUids.contains r.updateUid && inScope s groupId r.deviceId).map fun r => r.deviceId).eraseDups

/-- `none` where the request is refused. -/
def bulkApproveAndDeploy (updateUids : List String) (groupId : Option ℕ) :
    Option (List FleetRow × List InstallBatch) :=
  if requireTenantCapability s caller "updates" && updateUids ≠ [] then
    let rows := updateUids.foldl (fun rows uid => bulkApproveByTitle s caller now rows uid groupId) s.updates
    some (deployAll caller now rows (targets s caller rows updateUids groupId))
  else none

structure ApproveBody where
  updateId : Option ℕ
  severities : Option (List String)

/-- `none` where the request is refused. -/
def approveRoute (deviceId : Option ℕ) (body : ApproveBody) : Option (List FleetRow) :=
  if requireDeviceWrite s caller deviceId then
    some (match truthy body.updateId, body.severities with
      | some updateId, _ => approveUpdate caller now s.updates updateId
      | none, some severities => approveByDeviceAndSeverity caller now s.updates deviceId severities
      | none, none => s.updates)
  else none

/-! ## What is to be installed -/

/-- The batches install the update on the device. -/
def Installs (batches : List InstallBatch) (deviceId : ℕ) (uid : String) : Prop :=
  ∃ b ∈ batches, b.deviceId = deviceId ∧ uid ∈ b.updateUids

/-- An open update of a selected title on a device in scope. -/
def InSelection (updateUids : List String) (groupId : Option ℕ) (r : FleetRow) : Prop :=
  r.tenantId = caller.tenantId ∧ (r.status = .available ∨ r.status = .approved) ∧ r.updateUid ∈ updateUids ∧
    inScope s groupId r.deviceId = true

def MayWrite (deviceId : ℕ) : Prop :=
  canWriteDevice s.toTeamRights s.devices caller.userId deviceId caller.isAdmin = true

inductive Request where
  | bulkApproveAndDeploy (updateUids : List String) (groupId : Option ℕ)
  | approve (deviceId : Option ℕ) (body : ApproveBody)

/-- The commands install what is selected where the caller may write, and nothing else; an approval changes rows
of its device only. -/
def SelectedOnly : Request → Prop
  | .bulkApproveAndDeploy updateUids groupId => ∀ rows batches,
      bulkApproveAndDeploy s caller now updateUids groupId = some (rows, batches) → ∀ deviceId uid,
        (Installs batches deviceId uid ↔ ∃ r ∈ s.updates, InSelection s caller updateUids groupId r ∧
          MayWrite s caller r.deviceId ∧ r.deviceId = deviceId ∧ r.updateUid = uid)
  | .approve deviceId body => ∀ rows, approveRoute s caller now deviceId body = some rows →
      List.Forall₂ (fun r r' => some r.deviceId ≠ deviceId → r' = r) s.updates rows

/-- The caller may write to every device with a selected open update, and nothing else is approved on it; the
update to approve is on the device, or is as the approval would write it. -/
def Separate : Request → Prop
  | .bulkApproveAndDeploy updateUids groupId => requireTenantCapability s caller "updates" = true →
      ∀ r ∈ s.updates, InSelection s caller updateUids groupId r → MayWrite s caller r.deviceId ∧
        ∀ r' ∈ s.updates, isApproved caller r.deviceId r' = true → r'.updateUid ∈ updateUids
  | .approve deviceId body => requireDeviceWrite s caller deviceId = true →
      ∀ updateId ∈ truthy body.updateId, ∀ r ∈ s.updates, r.id = updateId → r.tenantId = caller.tenantId →
        some r.deviceId = deviceId ∨ approve now caller.userId r = r

section
variable {s caller now} {rows : List FleetRow} {r : FleetRow} {deviceId d : ℕ} {uid : String}

/-! ## One device -/

theorem isApproved_iff : isApproved caller deviceId r = true ↔
    r.deviceId = deviceId ∧ r.tenantId = caller.tenantId ∧ r.status = .approved := decide_eq_true_iff

/-- The batches of a device install its approved updates. -/
theorem installs_deploy : Installs (deployApprovedUpdates caller now rows deviceId).2 d uid ↔
    deviceId = d ∧ ∃ r ∈ rows, isApproved caller deviceId r = true ∧ r.updateUid = uid := by
  have huids : ∀ (updates : List UpdateRow) (source : String),
      uid ∈ uidsOfSource updates source ↔ ∃ u ∈ updates, u.source = source ∧ u.updateUid = uid := by
    intro updates source
    simp only [uidsOfSource, List.mem_map, List.mem_filter, decide_eq_true_eq, and_assoc]
  simp only [Installs, deployApprovedUpdates, List.mem_map, sourcesOf, List.mem_eraseDups]
  constructor
  · rintro ⟨_, ⟨source, -, rfl⟩, hd, hu⟩
    obtain ⟨u, hmem, -, hu⟩ := (huids ..).1 hu
    obtain ⟨r, hr, rfl⟩ := List.mem_map.1 hmem
    exact ⟨hd, r, (List.mem_filter.1 hr).1, (List.mem_filter.1 hr).2, hu⟩
  · rintro ⟨hd, r, hr, happ, hu⟩
    have hmem : r.toUpdateRow ∈ (rows.filter (isApproved caller deviceId)).map FleetRow.toUpdateRow :=
      List.mem_map_of_mem (List.mem_filter.2 ⟨hr, happ⟩)
    exact ⟨_, ⟨r.source, ⟨r.toUpdateRow, List.mem_map.1 hmem, rfl⟩, rfl⟩, hd,
      (huids ..).2 ⟨r.toUpdateRow, hmem, rfl, hu⟩⟩

theorem markPending_id (approved : List FleetRow) (r : FleetRow) : (markPending now approved r).id = r.id := by
  unfold markPending
  split <;> rfl

/-- With distinct ids a row is marked when it is one of the approved. -/
theorem markPending_eq (hids : Keyed (fun r : FleetRow => r.id) rows) (hr : r ∈ rows) :
    markPending now (rows.filter (isApproved caller deviceId)) r =
      if isApproved caller deviceId r then { r with toUpdateRow := r.toUpdateRow.setStatus .pendingInstall now }
      else r := by
  unfold markPending
  refine if_congr ?_ rfl rfl
  rw [List.contains_iff_mem, List.mem_map]
  constructor
  · rintro ⟨r', hr', hid⟩
    obtain ⟨hmem, happ⟩ := List.mem_filter.1 hr'
    rwa [hids.eq_of_key hmem hr hid] at happ
  · exact fun happ => ⟨r, List.mem_filter.2 ⟨hr, happ⟩, rfl⟩

/-- A deployment takes the approved updates of its own device and leaves those of the others. -/
theorem approved_after_deploy (hids : Keyed (fun r : FleetRow => r.id) rows) :
    (∃ r ∈ (deployApprovedUpdates caller now rows deviceId).1,
        isApproved caller d r = true ∧ r.updateUid = uid) ↔
      deviceId ≠ d ∧ ∃ r ∈ rows, isApproved caller d r = true ∧ r.updateUid = uid := by
  simp only [deployApprovedUpdates, List.mem_map]
  constructor
  · rintro ⟨_, ⟨r, hr, rfl⟩, happ, hu⟩
    rw [markPending_eq hids hr] at happ hu
    by_cases hmarked : isApproved caller deviceId r = true
    · rw [if_pos hmarked] at happ
      exact nomatch (isApproved_iff.1 happ).2.2
    · rw [if_neg hmarked] at happ hu
      refine ⟨?_, r, hr, happ, hu⟩
      rintro rfl
      exact hmarked happ
  · rintro ⟨hd, r, hr, happ, hu⟩
    have hmarked : ¬ isApproved caller deviceId r = true := fun h =>
      hd ((isApproved_iff.1 h).1.symm.trans (isApproved_iff.1 happ).1)
    exact ⟨r, ⟨r, hr, by rw [markPending_eq hids hr, if_neg hmarked]⟩, happ, hu⟩

/-! ## The devices -/

/-- **A deployment installs what is approved on its devices.** -/
theorem mem_deployAll (deviceIds : List ℕ) : ∀ rows : List FleetRow, Keyed (fun r : FleetRow => r.id) rows →
    (Installs (deployAll caller now rows deviceIds).2 d uid ↔
      d ∈ deviceIds ∧ ∃ r ∈ rows, isApproved caller d r = true ∧ r.updateUid = uid) := by
  induction deviceIds with
  | nil =>
      intro rows _
      exact ⟨fun ⟨_, hb, _⟩ => absurd hb List.not_mem_nil, fun h => absurd h.1 List.not_mem_nil⟩
  | cons deviceId deviceIds ih =>
      intro rows hids
      have hids' : Keyed (fun r : FleetRow => r.id) (deployApprovedUpdates caller now rows deviceId).1 :=
        nodup_map (markPending_id _) hids
      have hsplit : Installs (deployAll caller now rows (deviceId :: deviceIds)).2 d uid ↔
          Installs (deployApprovedUpdates caller now rows deviceId).2 d uid ∨
            Installs (deployAll caller now (deployApprovedUpdates caller now rows deviceId).1 deviceIds).2 d uid := by
        simp only [Installs, deployAll, List.mem_append, or_and_right, exists_or]
      rw [hsplit, installs_deploy, ih _ hids', approved_after_deploy hids, List.mem_cons]
      by_cases hd : deviceId = d
      · subst hd
        simp
      · simp [hd, Ne.symm hd]

/-! ## The approvals before -/

/-- An open update of the selection is approved, every other row is left. -/
def approveSelected (s : UpdatesDb) (caller : Caller) (now : ℤ) (updateUids : List String) (groupId : Option ℕ)
    (r : FleetRow) : FleetRow :=
  if decide (r.tenantId = caller.tenantId ∧ r.updateUid ∈ updateUids ∧ r.status = .available) &&
    inScope s groupId r.deviceId then approve now caller.userId r else r

theorem foldl_approve (groupId : Option ℕ) (updateUids : List String) : ∀ rows : List FleetRow,
    updateUids.foldl (fun rows uid => bulkApproveByTitle s caller now rows uid groupId) rows =
      rows.map (approveSelected s caller now updateUids groupId) := by
  induction updateUids with
  | nil =>
      intro rows
      refine (List.map_id'' (fun r => ?_) rows).symm
      simp [approveSelected]
  | cons uid uids ih =>
      intro rows
      rw [List.foldl_cons, ih, bulkApproveByTitle, approveWhere, List.map_map]
      refine List.map_congr_left fun r _ => ?_
      simp only [Function.comp_apply, approveSelected, List.mem_cons]
      by_cases huid : (decide (r.tenantId = caller.tenantId ∧ r.updateUid = uid ∧ r.status = .available) &&
          inScope s groupId r.deviceId) = true
      · -- approved for this title, so no longer available for the others
        simp only [Bool.and_eq_true, decide_eq_true_eq] at huid
        simp [huid, approve, UpdateRow.approve]
      · rw [if_neg huid]
        refine if_congr ?_ rfl rfl
        simp only [Bool.and_eq_true, decide_eq_true_eq] at huid ⊢
        tauto

theorem approveSelected_fields (s : UpdatesDb) (caller : Caller) (now : ℤ) (updateUids : List String)
    (groupId : Option ℕ) (r : FleetRow) :
    (approveSelected s caller now updateUids groupId r).id = r.id ∧
    (approveSelected s caller now updateUids groupId r).deviceId = r.deviceId ∧
    (approveSelected s caller now updateUids groupId r).tenantId = r.tenantId ∧
    (approveSelected s caller now updateUids groupId r).updateUid = r.updateUid := by
  unfold approveSelected
  split <;> exact ⟨rfl, rfl, rfl, rfl⟩

/-! ## The two routes -/

variable {updateUids : List String} {groupId : Option ℕ}

/-- After the approvals an open update of the selection is approved, and so is what was before. -/
theorem isApproved_selected : isApproved caller d (approveSelected s caller now updateUids groupId r) = true ↔
    r.deviceId = d ∧ (isApproved caller d r = true ∨ InSelection s caller updateUids groupId r) := by
  have happroved : (approve now caller.userId r).status = .approved := rfl
  rw [isApproved_iff, (approveSelected_fields ..).2.1, (approveSelected_fields ..).2.2.1, isApproved_iff, InSelection]
  unfold approveSelected
  split
  · next h =>
    simp only [Bool.and_eq_true, decide_eq_true_eq] at h
    rw [happroved]
    tauto
  · next h =>
    simp only [Bool.and_eq_true, decide_eq_true_eq] at h
    tauto

theorem mem_targets : d ∈ targets s caller (s.updates.map (approveSelected s caller now updateUids groupId))
    updateUids groupId ↔ ∃ r ∈ s.updates, InSelection s caller updateUids groupId r ∧ r.deviceId = d := by
  simp only [targets, List.mem_eraseDups, List.mem_map, List.mem_filter, Bool.and_eq_true, List.contains_iff_mem,
    decide_eq_true_eq]
  constructor
  · rintro ⟨_, ⟨⟨r, hr, rfl⟩, ⟨htenant, huid⟩, hscope⟩, rfl⟩
    obtain ⟨-, hdev, hten, hu⟩ := approveSelected_fields s caller now updateUids groupId r
    rw [hdev] at hscope ⊢
    rw [hu] at huid
    have happ := (isApproved_selected (d := r.deviceId)).1 (isApproved_iff.2 ⟨hdev, htenant⟩)
    refine ⟨r, hr, ?_, rfl⟩
    rcases happ.2 with h | h
    · obtain ⟨-, ht, hs⟩ := isApproved_iff.1 h
      exact ⟨ht, .inr hs, huid, hscope⟩
    · exact h
  · rintro ⟨r, hr, hsel, rfl⟩
    obtain ⟨-, hdev, hten, hu⟩ := approveSelected_fields s caller now updateUids groupId r
    have happ := isApproved_iff.1
      ((@isApproved_selected s caller now r r.deviceId updateUids groupId).2 ⟨rfl, .inr hsel⟩)
    refine ⟨_, ⟨⟨r, hr, rfl⟩, ⟨happ.2, ?_⟩, ?_⟩, hdev⟩
    · rw [hu]
      exact hsel.2.2.1
    · rw [hdev]
      exact hsel.2.2.2

/-- What POST /updates/bulk-approve-and-deploy installs: everything approved, before or now, on a device with an
open update of the selection. -/
theorem installs_bulk {batches : List InstallBatch} {after : List FleetRow}
    (h : bulkApproveAndDeploy s caller now updateUids groupId = some (after, batches)) :
    Installs batches d uid ↔ (∃ r ∈ s.updates, InSelection s caller updateUids groupId r ∧ r.deviceId = d) ∧
      ∃ r ∈ s.updates, (isApproved caller d r = true ∨
        r.deviceId = d ∧ InSelection s caller updateUids groupId r) ∧ r.updateUid = uid := by
  unfold bulkApproveAndDeploy at h
  split at h
  · obtain heq := Option.some.inj h
    rw [foldl_approve] at heq
    have hids : Keyed (fun r : FleetRow => r.id) (s.updates.map (approveSelected s caller now updateUids groupId)) :=
      nodup_map (fun r => (approveSelected_fields s caller now updateUids groupId r).1) s.updateIds
    have hbatches := congrArg Prod.snd heq
    dsimp only at hbatches
    rw [← hbatches, mem_deployAll _ _ hids, mem_targets]
    refine and_congr_right fun _ => ?_
    simp only [List.mem_map, exists_exists_and_eq_and, isApproved_selected,
      (approveSelected_fields s caller now updateUids groupId _).2.2.2]
    refine exists_congr fun r => and_congr_right fun _ => and_congr_left fun _ => ?_
    constructor
    · rintro ⟨hd, h | h⟩
      · exact .inl h
      · exact .inr ⟨hd, h⟩
    · rintro (h | h)
      · exact ⟨(isApproved_iff.1 h).1, .inl h⟩
      · exact ⟨h.1, .inr h.2⟩
  · cases h

theorem bulk_selectedOnly_iff : SelectedOnly s caller now (.bulkApproveAndDeploy updateUids groupId) ↔
    Separate s caller now (.bulkApproveAndDeploy updateUids groupId) := by
  constructor
  · intro hexact hcap r hr hsel
    have hne : updateUids ≠ [] := List.ne_nil_of_mem hsel.2.2.1
    obtain ⟨after, batches, hcall⟩ : ∃ after batches,
        bulkApproveAndDeploy s caller now updateUids groupId = some (after, batches) := by
      unfold bulkApproveAndDeploy
      rw [if_pos (by simp [hcap, hne])]
      exact ⟨_, _, rfl⟩
    have hinstalls := fun uid => (hexact after batches hcall r.deviceId uid).symm.trans (installs_bulk hcall)
    have htarget : ∃ r' ∈ s.updates, InSelection s caller updateUids groupId r' ∧ r'.deviceId = r.deviceId :=
      ⟨r, hr, hsel, rfl⟩
    refine ⟨?_, fun r' hr' happ => ?_⟩
    · obtain ⟨r₂, -, -, hwrite, hdev, -⟩ :=
        (hinstalls r.updateUid).2 ⟨htarget, r, hr, .inr ⟨rfl, hsel⟩, rfl⟩
      rwa [hdev] at hwrite
    · obtain ⟨r₂, -, hsel₂, -, -, huid⟩ := (hinstalls r'.updateUid).2 ⟨htarget, r', hr', .inl happ, rfl⟩
      rw [← huid]
      exact hsel₂.2.2.1
  · intro hsep after batches hcall deviceId uid
    have hcap : requireTenantCapability s caller "updates" = true := by
      unfold bulkApproveAndDeploy at hcall
      split at hcall
      · next h => exact (Bool.and_eq_true_iff.1 h).1
      · cases hcall
    rw [installs_bulk hcall]
    constructor
    · rintro ⟨⟨r₀, hr₀, hsel₀, rfl⟩, r, hr, h | ⟨hdev, hsel⟩, huid⟩
      · obtain ⟨hwrite, hothers⟩ := hsep hcap r₀ hr₀ hsel₀
        obtain ⟨hdev, htenant, hstatus⟩ := isApproved_iff.1 h
        exact ⟨r, hr, ⟨htenant, .inr hstatus, hothers r hr h, hdev ▸ hsel₀.2.2.2⟩, hdev ▸ hwrite, hdev, huid⟩
      · exact ⟨r, hr, hsel, (hsep hcap r hr hsel).1, hdev, huid⟩
    · rintro ⟨r, hr, hsel, -, hdev, huid⟩
      exact ⟨⟨r, hr, hsel, hdev⟩, r, hr, .inr ⟨hdev, hsel⟩, huid⟩

theorem approve_selectedOnly_iff {pathDevice : Option ℕ} {body : ApproveBody} :
    SelectedOnly s caller now (.approve pathDevice body) ↔ Separate s caller now (.approve pathDevice body) := by
  simp only [SelectedOnly, Separate, approveRoute]
  by_cases hwrite : requireDeviceWrite s caller pathDevice = true
  · simp only [hwrite, if_true, Option.some.injEq, forall_eq', true_imp_iff]
    cases hid : truthy body.updateId with
    | some updateId =>
        simp only [approveUpdate, approveWhere, List.forall₂_map_right_iff, List.forall₂_same,
          Option.mem_some_iff, forall_eq']
        refine forall₂_congr fun r _ => ?_
        by_cases hrow : r.id = updateId ∧ r.tenantId = caller.tenantId
        · simp [hrow, or_iff_not_imp_left]
        · simp only [hrow, decide_false, Bool.false_eq_true, if_false, implies_true, true_iff]
          exact fun hrid htenant => absurd ⟨hrid, htenant⟩ hrow
    | none =>
        refine iff_of_true ?_ (fun _ h => nomatch h)
        cases body.severities with
        | none => exact List.forall₂_same.2 fun _ _ _ => rfl
        | some severities =>
            simp only [approveByDeviceAndSeverity, approveWhere, List.forall₂_map_right_iff, List.forall₂_same]
            intro r _ hdev
            rw [if_neg (by simp [hdev])]
  · simp [hwrite]

end

/-- **Only what was selected is deployed, and only the device in the path is changed, exactly under the separation
of the request.** -/
theorem selected_only_iff (s : UpdatesDb) (caller : Caller) (now : ℤ) (req : Request) :
    SelectedOnly s caller now req ↔ Separate s caller now req := by
  cases req with
  | bulkApproveAndDeploy updateUids groupId => exact bulk_selectedOnly_iff
  | approve deviceId body => exact approve_selectedOnly_iff

/-! ## An update approved earlier -/

def updateRow (id : ℕ) (uid : String) (status : UpdateStatus) (deviceId : ℕ) : FleetRow :=
  ⟨⟨id, 2, uid, none, none, "critical", none, "windows_update", none, false, status, none, none, none, none, 0,
    0⟩, deviceId, 0⟩

/-- Device 20 has an update approved earlier and an available one. -/
def approvedEarlier : UpdatesDb where
  memberships := []
  permissions := []
  closure := []
  apiKeys := []
  groups_pos := no_groups_pos
  devices := [⟨20, none, none⟩]
  devices_keyed := by decide
  apiKeys_keyed := no_apiKeys_keyed
  apiKeys_pos := no_apiKeys_pos
  groupIds_pos := by decide
  ungrouped_zero := no_permissions_zero
  rights := ⟨⟨[], 1, [], [], [], [], []⟩, [], List.nodup_nil, List.nodup_nil⟩
  updates := [updateRow 7 "KB1" .approved 20, updateRow 8 "KB2" .available 20]
  updateIds := by decide

/-- KB2 is selected, and KB1 is installed with it. -/
theorem approvedEarlier_installed : ¬ ∀ (s : UpdatesDb) (caller : Caller) (now : ℤ) (req : Request),
    SelectedOnly s caller now req := by
  intro h
  have hexact := h approvedEarlier ⟨1, 2, true⟩ 0 (.bulkApproveAndDeploy ["KB2"] none) _ _ rfl
  have hkb1 := (hexact 20 "KB1").1 ⟨_, List.mem_singleton_self _, rfl, by decide⟩
  obtain ⟨r, -, hsel, -, -, huid⟩ := hkb1
  have hkb2 := List.mem_singleton.1 hsel.2.2.1
  rw [huid] at hkb2
  exact absurd hkb2 (by decide)

end Obliance.Updates.Bulk
