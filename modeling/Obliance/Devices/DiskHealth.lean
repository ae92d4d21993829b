import Obliance.Alerts.Alone
import Obliance.Js.Doubles
import Obliance.Lib.KeyedTable

/-!
# Disk health (`services/diskHealth.service.ts`)

The SMART payloads of one device, one after another. What the database and the alert service answer is part of
a payload; `none` stands for an exception, which `saveFromScript` logs.

* `diskRow`, `diskRows` : the rows of a payload, one for each serial;
* `worstStatus`, `transition` : the overall level, and what a change of level asks for;
* `saveFromScript` : the device, its disks, the alerts and the notifications after a payload;
* `diskRows_spec`, `worstStatus_spec` : the rows, and their worst level, are as bad as the disks that were reported;
* `RecoversWhenGood`, `Clean` : the property of a history, and the payloads that keep it; `sound_of_clean`.
-/

namespace Obliance.Devices
open Js Alerts KeyedTable GuardedRun Numerals

inductive DiskHealthStatus where
  | unknown
  | good
  | caution
  | bad
  deriving DecidableEq, Repr

/-- `ORDER` -/
def DiskHealthStatus.order : DiskHealthStatus → ℕ
  | unknown => 0
  | good => 0
  | caution => 1
  | bad => 2

def DiskHealthStatus.text : DiskHealthStatus → String
  | unknown => "unknown"
  | good => "good"
  | caution => "caution"
  | bad => "bad"

def normStatus : Option Json → DiskHealthStatus
  | some (.str s) =>
      if s = "good".toList then .good
      else if s = "caution".toList then .caution
      else if s = "bad".toList then .bad
      else .unknown
  | _ => .unknown

/-- A row of `device_smart_disks`; its texts are UTF-16. -/
structure SmartRow where
  tenantId : ℕ
  serial : List ℕ
  model : Option (List ℕ)
  diskType : Option (List ℕ)
  status : DiskHealthStatus
  temperature : Option ℤ
  healthPercent : Option ℤ
  wearPercent : Option ℤ
  powerOnHours : Option ℤ
  reallocatedSectors : Option ℤ
  pendingSectors : Option ℤ
  updatedAt : ℤ

section Rows
variable (d : Doubles)

def numOrNull (v : Option Json) : Option (Option ℤ) :=
  match present v with
  | none => some none
  | some (.str []) => some none
  | some v => (d.number (some v)).map fun n => n.map fun q => ⌊q + 1 / 2⌋

/-- `str`: the trimmed text, cut; no text for an empty one. -/
def trimmedText (v : Option Json) (max : ℕ) : Option (Option (List ℕ)) :=
  match present v with
  | none => some none
  | some v => (v.toText d.showNumber).map fun s =>
      let s := strip isJsSpace s
      if s = [] then none else some ((utf16 s).take max)

/-- `typeof d === 'object'` of a truthy value. -/
def isDisk : Json → Bool
  | .obj _ => true
  | .arr _ => true
  | _ => false

def status (disk : Json) : DiskHealthStatus := normStatus (disk.get "status")

/-- A disk without a serial is known by its model and its place in the payload, counted from 1. -/
def diskSerial (idx : ℕ) (disk : Json) : Option (List ℕ) :=
  (trimmedText d (disk.get "serial") 200).bind fun realSerial =>
    match realSerial with
    | some s => some s
    | none => (trimmedText d (disk.get "model") 160).map fun m =>
        m.getD (utf16 "disk".toList) ++ utf16 ("#" ++ toString idx).toList

def diskRow (tenantId idx : ℕ) (now : ℤ) (disk : Json) : Option SmartRow := do
  let serial ← diskSerial d idx disk
  let model ← trimmedText d (disk.get "model") 300
  let diskType ← trimmedText d (disk.get "type") 20
  let temperature ← numOrNull d (disk.get "tempC")
  let healthPercent ← numOrNull d (disk.get "healthPct")
  let wearPercent ← numOrNull d (disk.get "wearPct")
  let powerOnHours ← numOrNull d (disk.get "powerOnHours")
  let reallocatedSectors ← numOrNull d (disk.get "reallocatedSectors")
  let pendingSectors ← numOrNull d (disk.get "pendingSectors")
  return ⟨tenantId, serial, model, diskType, status disk, temperature, healthPercent, wearPercent, powerOnHours,
    reallocatedSectors, pendingSectors, now⟩

/-- A later disk of a serial replaces the row only when it is worse. -/
def addRow (rows : List SmartRow) (row : SmartRow) : List SmartRow :=
  if (get SmartRow.serial rows row.serial).all fun prev => prev.status.order < row.status.order then
    upsert SmartRow.serial rows row fun _ => row
  else rows

/-- The loop over the payload, `idx` places in. -/
def diskRows (tenantId : ℕ) (now : ℤ) (idx : ℕ) (rows : List SmartRow) : List Json → Option (List SmartRow)
  | [] => some rows
  | disk :: disks =>
      if isDisk disk then
        (diskRow d tenantId (idx + 1) now disk).bind fun row =>
          diskRows tenantId now (idx + 1) (addRow rows row) disks
      else diskRows tenantId now (idx + 1) rows disks

end Rows

def worstStatus (rows : List SmartRow) : DiskHealthStatus :=
  rows.foldl (fun worst r => if worst.order < r.status.order then r.status else worst) .good

/-! ## A change of level -/

structure DiskDevice where
  hostname : String
  displayName : Option String
  lastDiskHealthStatus : Option DiskHealthStatus
  /-- The columns the alert service reads. -/
  alertDevice : AlertDevice

inductive DiskNotify where
  | alert
  | up
  deriving DecidableEq, Repr

/-- `sendForAgent` -/
structure DiskNotification where
  device : String
  kind : DiskNotify
  previous : DiskHealthStatus
  violations : List String

def isBad (s : DiskHealthStatus) : Bool := decide (s = .caution) || decide (s = .bad)

def becameBad (prev : Option DiskHealthStatus) (worst : DiskHealthStatus) : Bool :=
  isBad worst && (prev.all fun p => decide (p = .good) || decide (p = .unknown) ||
    (decide (p = .caution) && decide (worst = .bad)))

def recovered (prev : Option DiskHealthStatus) (worst : DiskHealthStatus) : Bool :=
  decide (worst = .good) && prev.any fun p => !decide (p = .good) && !decide (p = .unknown)

/-- What a change of level asks for. -/
def transition (prev : Option DiskHealthStatus) (worst : DiskHealthStatus) : Option DiskNotify :=
  if recovered prev worst then some .up else if becameBad prev worst then some .alert else none

def dispName (id : ℕ) (dev : DiskDevice) : String :=
  match dev.displayName with
  | some name => if name = "" then (if dev.hostname = "" then "#" ++ toString id else dev.hostname) else name
  | none => if dev.hostname = "" then "#" ++ toString id else dev.hostname

def violation (showNumber : ℚ → String) (r : SmartRow) : String :=
  let parts :=
    (r.temperature.map fun t => showNumber t ++ "°C").toList ++
    (r.healthPercent.map fun h => "santé " ++ showNumber h ++ "%").toList ++
    ((r.reallocatedSectors.filter (· ≠ 0)).map fun n => showNumber n ++ " secteurs réalloués").toList
  let label := r.model.getD r.serial
  String.ofList (if label = [] then "disque".toList else ofUtf16 label) ++
    if parts = [] then "" else " — " ++ ", ".intercalate parts

def diskAlertOpts (id : ℕ) (name : String) (worst : DiskHealthStatus) (violations : List String) : AddOpts where
  severity := if worst = .bad then .critical else .warning
  title := name ++ ": santé disque " ++ if worst = .bad then "critique" else "à surveiller"
  message := if violations = [] then "Un disque a franchi un seuil SMART." else " · ".intercalate violations
  navigateTo := some ("/devices/" ++ toString id)
  stableKey := some ("device:" ++ toString id ++ ":" ++ ("diskhealth:" ++ worst.text))

/-! ## The payloads of a device -/

structure Payload where
  tenantId : ℕ
  disks : List Json
  now : ℤ
  /-- The rows are replaced. -/
  rowsOk : Bool
  /-- The row of the device is read, and its level written where it changes. -/
  levelOk : Bool
  /-- The live alert is raised or resolved; else the error is logged. -/
  alertOk : Bool

structure DiskState where
  device : Option DiskDevice
  smartDisks : List SmartRow
  alerts : AlertTable
  /-- The notifications, each with the disks of its payload. -/
  sent : List (List Json × DiskNotification)

section Machine
variable (d : Doubles) (id : ℕ)

def diskIncident : IncidentRef := ⟨.diskhealth, id⟩

def notification (dev : DiskDevice) (kind : DiskNotify) (rows : List SmartRow) : DiskNotification where
  device := dispName id dev
  kind := kind
  previous := dev.lastDiskHealthStatus.getD .good
  violations := (rows.filter fun r => isBad r.status).map (violation d.showNumber)

/-- The calls of the alert service, which may fail. -/
def diskAlerts (p : Payload) (dev : DiskDevice) (worst : DiskHealthStatus) (violations : List String)
    (alerts : AlertTable) : DiskNotify → AlertTable
  | .up => if p.alertOk then alerts.resolveIncidents (diskIncident id) p.now else alerts
  | .alert =>
      if p.alertOk then
        alerts.add (some dev.alertDevice) (diskIncident id) p.tenantId
          (diskAlertOpts id (dispName id dev) worst violations) p.now
      else alerts

/-- `_evaluateTransition` -/
def evaluateTransition (s : DiskState) (p : Payload) (worst : DiskHealthStatus) (rows : List SmartRow) : DiskState :=
  match s.device with
  | none => s
  | some dev =>
      if !p.levelOk || decide (dev.lastDiskHealthStatus = some worst) then s
      else
        let s := { s with device := some { dev with lastDiskHealthStatus := some worst } }
        match transition dev.lastDiskHealthStatus worst with
        | none => s
        | some kind =>
            let n := notification d id dev kind rows
            { s with
              sent := s.sent ++ [(p.disks, n)]
              alerts := diskAlerts id p dev worst n.violations s.alerts kind }

def saveFromScript (s : DiskState) (p : Payload) : DiskState :=
  match diskRows d p.tenantId p.now 0 [] p.disks with
  | none => s
  | some rows =>
      if rows = [] ∨ p.rowsOk = false then s
      else evaluateTransition d id { s with smartDisks := rows } p (worstStatus rows) rows

def level (s : DiskState) : Option DiskHealthStatus := s.device.bind DiskDevice.lastDiskHealthStatus

/-- The incident is active exactly while the stored level is caution or bad. -/
def Agrees (s : DiskState) : Prop :=
  s.alerts.Active (diskIncident id) ↔ level s = some .caution ∨ level s = some .bad

/-- Any device whose incident agrees with its level, and which has notified nothing yet. -/
def diskMachine : Machine DiskState Payload where
  init s := s.sent = [] ∧ s.alerts.Used ∧ Agrees id s
  step s p := some (saveFromScript d id s p)

end Machine

/-! ## The rows are as bad as the disks -/

/-- The disks of a payload; its other entries are passed over. -/
def reported (disks : List Json) : List Json := disks.filter isDisk

theorem isBad_iff {s : DiskHealthStatus} : isBad s = true ↔ 1 ≤ s.order := by cases s <;> decide

theorem keyed_addRow {rows : List SmartRow} (h : Keyed SmartRow.serial rows) (row : SmartRow) :
    Keyed SmartRow.serial (addRow rows row) := by
  unfold addRow
  split
  · exact nodup_upsert_self (fun _ _ => rfl) h
  · exact h

theorem addRow_ne_nil (rows : List SmartRow) (row : SmartRow) : addRow rows row ≠ [] := by
  unfold addRow
  split
  · exact List.ne_nil_of_mem ((mem_upsert fun _ _ => rfl).2 (.inl rfl))
  · next h =>
    rintro rfl
    exact h rfl

/-- Of two disks with one serial the worse stays. -/
theorem bad_addRow {rows : List SmartRow} (h : Keyed SmartRow.serial rows) (row : SmartRow) :
    (∃ r ∈ addRow rows row, isBad r.status) ↔ (∃ r ∈ rows, isBad r.status) ∨ isBad row.status := by
  simp only [isBad_iff]
  unfold addRow
  split
  · next hset =>
    constructor
    · rintro ⟨r, hr, hbad⟩
      obtain rfl | ⟨hr, -⟩ := (mem_upsert fun _ _ => rfl).1 hr
      · exact .inr hbad
      · exact .inl ⟨r, hr, hbad⟩
    · rintro (⟨r, hr, hbad⟩ | hbad)
      · by_cases hk : r.serial = row.serial
        · rw [(get_eq_some_iff h).2 ⟨hr, hk⟩, Option.all_some, decide_eq_true_iff] at hset
          exact ⟨row, (mem_upsert fun _ _ => rfl).2 (.inl rfl), hbad.trans hset.le⟩
        · exact ⟨r, (mem_upsert fun _ _ => rfl).2 (.inr ⟨hr, hk⟩), hbad⟩
      · exact ⟨row, (mem_upsert fun _ _ => rfl).2 (.inl rfl), hbad⟩
  · next hset =>
    refine ⟨.inl, fun hor => hor.elim id fun hbad => ?_⟩
    cases hget : get SmartRow.serial rows row.serial with
    | none => exact absurd (by rw [hget]; rfl) hset
    | some prev =>
        rw [hget, Option.all_some, decide_eq_true_iff, not_lt] at hset
        exact ⟨prev, mem_of_get hget, hbad.trans hset⟩

variable {d : Doubles}

theorem diskRow_status {tenantId idx : ℕ} {now : ℤ} {disk : Json} {row : SmartRow}
    (h : diskRow d tenantId idx now disk = some row) : row.status = status disk := by
  simp only [diskRow, Option.bind_eq_bind, Option.bind_eq_some_iff] at h
  obtain ⟨_, -, _, -, _, -, _, -, _, -, _, -, _, -, _, -, _, -, h⟩ := h
  rw [← Option.some.inj h]

/-- The rows of a payload: one for each serial, none where no disk is reported, bad where a disk is. -/
theorem diskRows_spec (tenantId : ℕ) (now : ℤ) (disks : List Json) :
    ∀ {idx rows rows'}, Keyed SmartRow.serial rows → diskRows d tenantId now idx rows disks = some rows' →
      (rows' = [] ↔ rows = [] ∧ reported disks = []) ∧
        ((∃ r ∈ rows', isBad r.status) ↔ (∃ r ∈ rows, isBad r.status) ∨ ∃ disk ∈ reported disks, isBad (status disk)) := by
  induction disks with
  | nil =>
      intro idx rows rows' _ h
      obtain rfl := Option.some.inj h
      simp [reported]
  | cons disk disks ih =>
      intro idx rows rows' hkeyed h
      rw [diskRows] at h
      split at h
      · next hdisk =>
        obtain ⟨row, hrow, h⟩ := Option.bind_eq_some_iff.1 h
        obtain ⟨hnil, hbad⟩ := ih (keyed_addRow hkeyed row) h
        have hreported : reported (disk :: disks) = disk :: reported disks := List.filter_cons_of_pos hdisk
        rw [hreported]
        refine ⟨?_, ?_⟩
        · rw [hnil]
          simp [addRow_ne_nil]
        · rw [hbad, bad_addRow hkeyed, diskRow_status hrow, or_assoc]
          simp
      · next hdisk =>
        rw [show reported (disk :: disks) = reported disks from List.filter_cons_of_neg hdisk]
        exact ih hkeyed h

theorem worst_fold (rows : List SmartRow) :
    ∀ worst : DiskHealthStatus, worst ≠ .unknown →
      let w := rows.foldl (fun worst r => if worst.order < r.status.order then r.status else worst) worst
      w ≠ .unknown ∧ (isBad w ↔ isBad worst ∨ ∃ r ∈ rows, isBad r.status) := by
  induction rows with
  | nil => simp
  | cons r rows ih =>
      intro worst hworst
      rw [List.foldl_cons]
      split
      · next hlt =>
        have hr : isBad r.status = true := isBad_iff.2 (by omega)
        obtain ⟨hne, hbad⟩ := ih r.status (by rintro h; rw [h] at hlt; cases hlt)
        exact ⟨hne, by rw [hbad]; simp [hr]⟩
      · next hle =>
        obtain ⟨hne, hbad⟩ := ih worst hworst
        refine ⟨hne, ?_⟩
        have hr : isBad r.status = true → isBad worst = true := fun h =>
          isBad_iff.2 ((isBad_iff.1 h).trans (not_lt.1 hle))
        rw [hbad]
        simp only [List.exists_mem_cons_iff]
        tauto

/-- The overall level is never 'unknown', and bad exactly where a row is. -/
theorem worstStatus_spec (rows : List SmartRow) :
    worstStatus rows ≠ .unknown ∧ (isBad (worstStatus rows) ↔ ∃ r ∈ rows, isBad r.status) := by
  obtain ⟨hne, hbad⟩ := worst_fold rows .good (by decide)
  exact ⟨hne, hbad.trans (or_iff_right (by decide))⟩

/-! ## The payloads that keep the incident and the level together -/

variable (d) (id : ℕ)

def levelBad (s : DiskState) : Bool := (level s).any isBad

/-- The payload gets as far as the level of the device. -/
def Applies (s : DiskState) (p : Payload) : Prop :=
  (diskRows d p.tenantId p.now 0 [] p.disks).isSome = true ∧ reported p.disks ≠ [] ∧ p.rowsOk = true ∧
    p.levelOk = true ∧ s.device.isSome = true

/-- No disk is caution or bad any more. -/
def Clears (s : DiskState) (p : Payload) : Prop :=
  Applies d s p ∧ levelBad s = true ∧ ∀ disk ∈ reported p.disks, isBad (status disk) = false

def Raises (s : DiskState) (p : Payload) : Prop :=
  Applies d s p ∧ levelBad s = false ∧ ∃ disk ∈ reported p.disks, isBad (status disk) = true

/-- A payload that clears the level reports good disks only, and the alert service answers where the incident
starts or ends. -/
def Clean (s : DiskState) (p : Payload) : Prop :=
  (Clears d s p → (∀ disk ∈ reported p.disks, status disk = .good) ∧ p.alertOk = true) ∧
    (Raises d s p → p.alertOk = true)

instance decidableApplies (s : DiskState) (p : Payload) : Decidable (Applies d s p) :=
  inferInstanceAs (Decidable (_ ∧ _ ∧ _ ∧ _ ∧ _))

instance decidableClears (s : DiskState) (p : Payload) : Decidable (Clears d s p) :=
  inferInstanceAs (Decidable (_ ∧ _ ∧ _))

instance decidableRaises (s : DiskState) (p : Payload) : Decidable (Raises d s p) :=
  inferInstanceAs (Decidable (_ ∧ _ ∧ _))

instance decidableClean (s : DiskState) (p : Payload) : Decidable (Clean d s p) :=
  inferInstanceAs (Decidable ((_ → _ ∧ _) ∧ (_ → _)))

def RecoversWhenGood (s : DiskState) : Prop :=
  ∀ e ∈ s.sent, e.2.kind = .up → reported e.1 ≠ [] ∧ ∀ disk ∈ reported e.1, status disk = .good

def DiskInv (s : DiskState) : Prop := s.alerts.Used ∧ Agrees id s ∧ RecoversWhenGood s

variable {d id} {s : DiskState} {p : Payload} {rows : List SmartRow}

theorem agrees_levelBad : Agrees id s ↔ (s.alerts.Active (diskIncident id) ↔ levelBad s = true) := by
  have hlevel : levelBad s = true ↔ level s = some .caution ∨ level s = some .bad := by
    rw [levelBad]
    cases level s with
    | none => simp
    | some l => cases l <;> decide
  rw [Agrees, hlevel]

section Transition
variable {prev : Option DiskHealthStatus} {worst : DiskHealthStatus}

theorem transition_up (h : transition prev worst = some .up) : prev.any isBad = true ∧ isBad worst = false := by
  revert h
  cases prev with
  | none => cases worst <;> decide
  | some p => cases p <;> cases worst <;> decide

theorem transition_alert (h : transition prev worst = some .alert) : isBad worst = true := by
  revert h
  cases prev with
  | none => cases worst <;> decide
  | some p => cases p <;> cases worst <;> decide

/-- From 'bad' to 'caution' the incident goes on without a word. -/
theorem transition_none (h : transition prev worst = none) (hne : prev ≠ some worst) (hworst : worst ≠ .unknown) :
    prev.any isBad = isBad worst := by
  revert h hne hworst
  cases prev with
  | none => cases worst <;> decide
  | some p => cases p <;> cases worst <;> decide

end Transition

theorem active_diskAlert {alerts : AlertTable} (hused : alerts.Used) {dev : DiskDevice} {worst : DiskHealthStatus}
    (hworst : isBad worst = true) (name : String) (violations : List String) (tenantId : ℕ) (now : ℤ) :
    (alerts.add (some dev.alertDevice) (diskIncident id) tenantId (diskAlertOpts id name worst violations)
      now).Active (diskIncident id) := by
  refine AlertTable.active_add hused rfl rfl ?_
  have hsuffix : "diskhealth:" ++ worst.text ∈ incidentKeySuffixes .diskhealth := by
    cases worst with
    | caution => decide
    | bad => decide
    | _ => cases hworst
  exact List.mem_map.2 ⟨_, hsuffix, rfl⟩

/-- One change of level, of a payload that does what the guard asks for. -/
theorem inv_evaluateTransition {worst : DiskHealthStatus} (hworst : worst ≠ .unknown) (h : DiskInv id s)
    (hraise : levelBad s = false → isBad worst = true → p.levelOk = true → s.device.isSome = true →
      p.alertOk = true)
    (hclear : levelBad s = true → isBad worst = false → p.levelOk = true → s.device.isSome = true →
      p.alertOk = true ∧ reported p.disks ≠ [] ∧ ∀ disk ∈ reported p.disks, status disk = .good) :
    DiskInv id (evaluateTransition d id s p worst rows) := by
  obtain ⟨hused, hagrees, hgood⟩ := h
  rw [agrees_levelBad] at hagrees
  unfold evaluateTransition
  cases hdev : s.device with
  | none => exact ⟨hused, agrees_levelBad.2 hagrees, hgood⟩
  | some dev =>
      have hlevel : levelBad s = dev.lastDiskHealthStatus.any isBad := by rw [levelBad, level, hdev]; rfl
      have hsome : s.device.isSome = true := by rw [hdev]; rfl
      rw [hlevel] at hagrees hraise hclear
      dsimp only
      split
      · exact ⟨hused, agrees_levelBad.2 (by rw [hlevel]; exact hagrees), hgood⟩
      · next hgo =>
        rw [Bool.or_eq_true, Bool.not_eq_true', decide_eq_true_iff, not_or, Bool.not_eq_false] at hgo
        obtain ⟨hok, hne⟩ := hgo
        cases htr : transition dev.lastDiskHealthStatus worst with
        | none =>
            refine ⟨hused, agrees_levelBad.2 ?_, hgood⟩
            rw [transition_none htr hne hworst] at hagrees
            exact hagrees
        | some kind =>
            have hsent : ∀ n : DiskNotification, n.kind = kind →
                (kind = .up → reported p.disks ≠ [] ∧ ∀ disk ∈ reported p.disks, status disk = .good) →
                ∀ e ∈ s.sent ++ [(p.disks, n)], e.2.kind = .up →
                  reported e.1 ≠ [] ∧ ∀ disk ∈ reported e.1, status disk = .good := by
              intro n hn hup e he hkind
              obtain he | he := List.mem_append.1 he
              · exact hgood e he hkind
              · rw [List.mem_singleton.1 he] at hkind ⊢
                exact hup (hn.symm.trans hkind)
            cases kind with
            | up =>
                obtain ⟨hprev, hclean⟩ := transition_up htr
                obtain ⟨halert, hdisks⟩ := hclear hprev hclean hok hsome
                refine ⟨?_, agrees_levelBad.2 ?_, hsent _ rfl fun _ => hdisks⟩
                · dsimp only [diskAlerts]
                  rw [if_pos halert]
                  exact hused.resolveIncidents
                · dsimp only [diskAlerts]
                  rw [if_pos halert]
                  exact iff_of_false (AlertTable.not_active_resolveIncidents _ _ _)
                    (Bool.eq_false_iff.1 hclean)
            | alert =>
                have hbad := transition_alert htr
                refine ⟨?_, agrees_levelBad.2 (iff_of_true ?_ hbad), hsent _ rfl (fun h => nomatch h)⟩
                · dsimp only [diskAlerts]
                  split
                  · exact hused.add
                  · exact hused
                · dsimp only [diskAlerts]
                  split
                  · exact active_diskAlert hused hbad _ _ _ _
                  · next halert =>
                    -- without a new alert the incident must have been active before
                    by_contra hnot
                    exact halert (hraise (Bool.eq_false_iff.2 fun hp => hnot (hagrees.2 hp)) hbad hok hsome)

theorem inv_saveFromScript (h : DiskInv id s) (hclean : Clean d s p) : DiskInv id (saveFromScript d id s p) := by
  unfold saveFromScript
  cases hrows : diskRows d p.tenantId p.now 0 [] p.disks with
  | none => exact h
  | some rows =>
      obtain ⟨hnil, hbad⟩ := diskRows_spec p.tenantId p.now p.disks
        (show Keyed SmartRow.serial [] from List.nodup_nil) hrows
      rw [eq_self, true_and] at hnil
      rw [or_iff_right (by simp)] at hbad
      obtain ⟨hunknown, hworst⟩ := worstStatus_spec rows
      rw [hbad] at hworst
      dsimp only
      split
      · exact h
      · next hgo =>
        rw [not_or, Bool.not_eq_false, hnil] at hgo
        have happlies : p.levelOk = true → s.device.isSome = true → Applies d s p := fun hlevel hdev =>
          ⟨by rw [hrows]; rfl, hgo.1, hgo.2, hlevel, hdev⟩
        refine inv_evaluateTransition (s := { s with smartDisks := rows }) hunknown h ?_ ?_
        · intro hlevel hbadNow hok hdev
          exact hclean.2 ⟨happlies hok hdev, hlevel, hworst.1 hbadNow⟩
        · intro hlevel hgood hok hdev
          have hnone : ∀ disk ∈ reported p.disks, isBad (status disk) = false := fun disk hdisk =>
            Bool.eq_false_iff.2 fun hb => Bool.eq_false_iff.1 hgood (hworst.2 ⟨disk, hdisk, hb⟩)
          obtain ⟨hall, halert⟩ := hclean.1 ⟨happlies hok hdev, hlevel, hnone⟩
          exact ⟨halert, hgo.1, hall⟩

/-- After every sequence of payloads that meet the guard. -/
theorem sound_of_clean (h : Reach (diskMachine d id) (Clean d) s) : RecoversWhenGood s ∧ Agrees id s := by
  have hinv : DiskInv id s := by
    refine h.invariant ?_ ?_
    · intro s hs
      refine ⟨hs.2.1, hs.2.2, fun e he => ?_⟩
      rw [hs.1] at he
      cases he
    · intro s p t hs hclean hstep
      obtain rfl := Option.some.inj hstep
      exact inv_saveFromScript hs hclean
  exact ⟨hinv.2.2, hinv.2.1⟩

/-! ## A disk that can no longer be read -/

def oneDisk (status : String) : List Json :=
  [.obj [("serial".toList, .str "S1".toList), ("status".toList, .str status.toList)]]

def payloadOf (disks : List Json) (now : ℤ) : Payload := ⟨1, disks, now, true, true, true⟩

def newDevice7 : DiskState := ⟨some ⟨"nas", none, none, ⟨1, .online⟩⟩, [], ⟨[], 1⟩, []⟩

theorem init_newDevice7 (d : Doubles) : (diskMachine d 7).init newDevice7 :=
  ⟨rfl, fun _ h => absurd h List.not_mem_nil, agrees_levelBad.2 (by decide)⟩

theorem sound_bad_then_good :
    let s := saveFromScript exactDoubles 7 (saveFromScript exactDoubles 7 newDevice7 (payloadOf (oneDisk "bad") 1))
      (payloadOf (oneDisk "good") 2)
    RecoversWhenGood s ∧ Agrees 7 s :=
  sound_of_clean (((Reach.start (init_newDevice7 exactDoubles)).next (payloadOf (oneDisk "bad") 1)
    (by decide +kernel) rfl).next (payloadOf (oneDisk "good") 2) (by decide +kernel) rfl)

/-- A bad disk that is unreadable in the next payload counts as recovered. -/
theorem not_sound :
    ¬ ∀ (d : Doubles) (id : ℕ) (s : DiskState), Reach (diskMachine d id) anyStep s → RecoversWhenGood s ∧ Agrees id s := by
  intro hall
  obtain ⟨hgood, -⟩ := hall exactDoubles 7 _ (reach_of_exec (init_newDevice7 exactDoubles)
    [payloadOf (oneDisk "bad") 1, payloadOf (oneDisk "unknown") 2] rfl)
  have hrecovery := (hgood (oneDisk "unknown", ⟨"nas", .up, .bad, []⟩)
    (List.mem_cons_of_mem _ (List.mem_singleton_self _)) rfl).2
  exact absurd (hrecovery _ (List.mem_singleton_self _)) (by decide)

end Obliance.Devices
