import Obliance.Maintenance.Stored

/-!
# The three maintenance answers agree

A query that throws gives no answer, the others may.

* `says_iff`, `batch_iff`, `effective_iff` : what each query says of a device, by the windows over it;
* `Readable` : where a device is found in maintenance, no rule over it and no rule that the list comes to throws;
* `answers_agree_iff`, `maintenance_answers_agree` : there, and only there, the three answers agree;
* `readable_of_answered` : so they do where no rule of the tables throws.
-/

namespace Obliance.Maintenance
open Raising Obliance.Js Obliance.Devices

section Answers
variable {ρ : Type} (active : Window ρ → Option Bool) (db : MaintenanceTables ρ) (now : ℤ)

/-- `isInMaintenance` answers that it is, with nothing cached. -/
def SaysInMaintenance (d : DeviceScope) : Prop :=
  ∃ cache, Stored.isInMaintenance active db now (fun _ => none) d.id d.groupId = some (true, cache)

/-- The answers about the devices of a list. -/
structure AnswersAgree (devices : List DeviceScope) : Prop where
  listed : ∀ ids ∈ Stored.getInMaintenanceDeviceIds active db devices, ∀ id ∈ ids, ∃ d ∈ devices, d.id = id
  batch : ∀ d ∈ devices, (∃ ids ∈ Stored.getInMaintenanceDeviceIds active db devices, d.id ∈ ids) ↔
    SaysInMaintenance active db now d
  effective : ∀ d ∈ devices, SaysInMaintenance active db now d ↔
    ∃ entries ∈ Stored.getEffectiveWindows active db .device d.id d.groupId,
      ∃ e ∈ entries, e.isActiveNow = true ∧ e.isDisabledHere = false

/-- Where an active window comes before any that throws, among those that apply to a device, none over this device
throws, disabled or not, and for no device of the list does one that throws come before an active one. -/
def Readable (devices : List DeviceScope) : Prop :=
  ∀ d ∈ devices, AnsweredBy active (some true) (Stored.candidates db d.id d.groupId) →
    (∀ w ∈ Stored.windowsOver db d.id d.groupId, active w ≠ none) ∧
      ∀ e ∈ devices, ¬ AnsweredBy active none (Stored.candidates db e.id e.groupId)

theorem says_iff (d : DeviceScope) :
    SaysInMaintenance active db now d ↔ AnsweredBy active (some true) (Stored.candidates db d.id d.groupId) := by
  rw [← anyM_eq_true_iff, ← Stored.lookup_eq]
  unfold SaysInMaintenance Stored.isInMaintenance
  cases Stored.lookupMaintenance active db d.id d.groupId with
  | none => simp [getCached]
  | some value => simp [getCached]

theorem batch_iff {devices : List DeviceScope}
    (hdevices : ∀ d ∈ devices, ∀ e ∈ devices, d.id = e.id → d.groupId = e.groupId) {d : DeviceScope}
    (hd : d ∈ devices) :
    (∃ ids ∈ Stored.getInMaintenanceDeviceIds active db devices, d.id ∈ ids) ↔
      (∀ e ∈ devices, ¬ AnsweredBy active none (Stored.candidates db e.id e.groupId)) ∧
        AnsweredBy active (some true) (Stored.candidates db d.id d.groupId) := by
  simp only [← anyM_eq_true_iff, ← anyM_eq_none_iff]
  cases hbatch : Stored.getInMaintenanceDeviceIds active db devices with
  | none =>
      obtain ⟨e, he, hthrows⟩ := (Stored.batch_eq_none_iff active db).1 hbatch
      exact iff_of_false (by simp) fun h => h.1 e he hthrows
  | some ids =>
      have hanswered : ∀ e ∈ devices, (Stored.candidates db e.id e.groupId).anyM active ≠ none := by
        intro e he hthrows
        rw [(Stored.batch_eq_none_iff active db).2 ⟨e, he, hthrows⟩] at hbatch
        cases hbatch
      have hmem : d.id ∈ ids ↔ (Stored.candidates db d.id d.groupId).anyM active = some true := by
        rw [Stored.mem_batch active db hbatch]
        constructor
        · rintro ⟨e, he, hid, hany⟩
          rwa [hid, hdevices e he d hd hid] at hany
        · exact fun hany => ⟨d, hd, rfl, hany⟩
      simpa [hmem] using fun _ => hanswered

theorem effective_iff (d : DeviceScope) :
    (∃ entries ∈ Stored.getEffectiveWindows active db .device d.id d.groupId,
        ∃ e ∈ entries, e.isActiveNow = true ∧ e.isDisabledHere = false) ↔
      (∀ w ∈ Stored.windowsOver db d.id d.groupId, active w ≠ none) ∧
        ∃ w ∈ Stored.candidates db d.id d.groupId, active w = some true := by
  obtain ⟨hthrows, hsilenced⟩ := Stored.lists_effective active db d.id d.groupId
  cases hlist : Stored.getEffectiveWindows active db .device d.id d.groupId with
  | none =>
      obtain ⟨w, hw, hnone⟩ := hthrows.1 hlist
      exact iff_of_false (by simp) fun h => h.1 w hw hnone
  | some entries =>
      rw [← hsilenced entries hlist]
      have hanswered : ∀ w ∈ Stored.windowsOver db d.id d.groupId, active w ≠ none := by
        intro w hw hnone
        rw [hthrows.2 ⟨w, hw, hnone⟩] at hlist
        cases hlist
      exact ⟨fun ⟨_, heq, h⟩ => ⟨hanswered, Option.some.inj heq ▸ h⟩, fun h => ⟨entries, rfl, h.2⟩⟩

/-- **The three answers agree exactly on readable rules**, for devices that are each in one group. -/
theorem answers_agree_iff {devices : List DeviceScope}
    (hdevices : ∀ d ∈ devices, ∀ e ∈ devices, d.id = e.id → d.groupId = e.groupId) :
    AnswersAgree active db now devices ↔ Readable active db devices := by
  constructor
  · intro h d hd hfound
    have hsays := (says_iff active db now d).2 hfound
    exact ⟨((effective_iff active db d).1 ((h.effective d hd).1 hsays)).1,
      ((batch_iff active db hdevices hd).1 ((h.batch d hd).2 hsays)).1⟩
  · intro h
    refine ⟨fun ids hids id hid => ?_, fun d hd => ?_, fun d hd => ?_⟩
    · obtain ⟨d, hd, heq, -⟩ := (Stored.mem_batch active db hids id).1 hid
      exact ⟨d, hd, heq⟩
    · rw [batch_iff active db hdevices hd, says_iff]
      exact ⟨And.right, fun hfound => ⟨(h d hd hfound).2, hfound⟩⟩
    · rw [effective_iff, says_iff]
      constructor
      · exact fun hfound => ⟨(h d hd hfound).1, exists_of_answeredBy hfound⟩
      · rintro ⟨hanswered, w, hw, htrue⟩
        exact answeredBy_of_exists (fun y hy => hanswered y (Stored.candidates_subset db _ _ hy)) hw htrue

/-- Where no rule throws all is readable. -/
theorem readable_of_answered (h : ∀ w ∈ db.windows, active w ≠ none) (devices : List DeviceScope) :
    Readable active db devices := by
  refine fun d _ _ => ⟨fun w hw => h w (Stored.windowsOver_subset db _ _ hw), fun e _ => ?_⟩
  rintro ⟨before, w, after, heq, hnone, -⟩
  have hw : w ∈ Stored.candidates db e.id e.groupId := by
    rw [heq]
    exact List.mem_append_right _ List.mem_cons_self
  exact h w (Stored.windowsOver_subset db _ _ (Stored.candidates_subset db _ _ hw)) hnone

end Answers

/-- On rules that are what their interface says they always agree. -/
theorem typed_answers_agree (host : Host) (now : ℤ) (db : MaintenanceTables Json)
    (htyped : ∀ w ∈ db.windows, ∃ w' : MaintenanceWindow, w = Stored.storedWindow w') {devices : List DeviceScope}
    (hdevices : ∀ d ∈ devices, ∀ e ∈ devices, d.id = e.id → d.groupId = e.groupId) :
    AnswersAgree (fun w => Stored.isWindowActive host w now) db now devices := by
  refine (answers_agree_iff _ db now hdevices).2 (readable_of_answered _ db ?_ devices)
  intro w hw
  obtain ⟨w', rfl⟩ := htyped w hw
  rw [Stored.isWindowActive_stored]
  exact Option.some_ne_none _

/-! ## A group in maintenance -/

/-- UTC, at midnight of a Monday. -/
def midnightHost : Host where
  parts := fun _ _ => some ⟨some "00", some "00", some "Mon"⟩
  doubles := exactDoubles

/-- An hour from now on. -/
def nextHour (id : ℕ) (scopeType : MaintenanceScope) (scopeId : Option ℕ) : Window Json :=
  ⟨id, 1, "patches", scopeType, scopeId, .oneTime, 0, 3600000, .obj [], "UTC", [], none, none, 0, 0⟩

/-- A global window with the time 930 instead of "09:30". -/
def numericTime (id : ℕ) : Window Json :=
  { nextHour id .global none with
    scheduleType := .recurring
    recurrenceRule := .obj [("frequency".toList, .str "daily".toList), ("time".toList, .num 930),
      ("duration".toList, .num 60)] }

/-- A window of an hour on group 3, disabled on device 8. -/
def groupHour : MaintenanceTables Json where
  windows := [nextHour 1 .group (some 3)]
  disables := [⟨1, .device, 8⟩]
  closure := [⟨3, 3, 0⟩, ⟨4, 4, 0⟩, ⟨3, 4, 1⟩]
  groupNames := [(3, "servers"), (4, "web")]

/-- Device 7 is in a group below it; so is device 8, which is left out of it; device 9 is in none. -/
def threeDevices : List DeviceScope := [⟨7, some 4⟩, ⟨8, some 4⟩, ⟨9, none⟩]

/-- The group is in maintenance for an hour every day from midnight on. -/
def dailyHour : MaintenanceWindow :=
  { nextHour 1 .group (some 3) with
    scheduleType := .recurring, recurrenceRule := ⟨some .daily, none, some "00:00", some 60⟩ }

theorem typed_answers_agree_dailyHour :
    let db := { groupHour with windows := [Stored.storedWindow dailyHour] }
    AnswersAgree (fun w => Stored.isWindowActive midnightHost w 60000) db 60000 threeDevices ∧
      Stored.getInMaintenanceDeviceIds (fun w => Stored.isWindowActive midnightHost w 60000) db threeDevices =
        some [7] :=
  ⟨typed_answers_agree midnightHost 60000 _ (fun _ hw => ⟨dailyHour, List.mem_singleton.1 hw⟩) (by decide),
    by decide +kernel⟩

end Obliance.Maintenance
