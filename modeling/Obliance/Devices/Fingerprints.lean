import Obliance.Alerts.Alone
import Obliance.Lib.Recurrence

/-!
# Identity fingerprints of a device (`services/device.service.ts`)

* `recordIdentityFingerprint`, `acknowledgeDuplicateAgentId` : what a contact and an acknowledgement write;
* `pingPong`, `newFlag` : the decision on the recent samples, as the code computes it;
* `Suspicious` : a value that came back after being replaced, or three host names, four IPs or three MACs;
* `newFlag_iff` : the decision is that property; `Suspicious.mono` : more samples never take it away.
-/

namespace Obliance.Devices.Fingerprints
open Alerts Recurrence

structure Identity where
  hostname : Option String
  ipLocal : Option String
  ipPublic : Option String
  mac : Option String
  deriving DecidableEq, Repr

/-- `DeviceIdentityFingerprint`, the instant in milliseconds. -/
structure Fingerprint extends Identity where
  observedAt : ℤ
  deriving DecidableEq, Repr

/-- The columns of `devices` that the two functions write. -/
structure DuplicateColumns where
  tenantId : ℕ
  identityFingerprints : List Fingerprint
  duplicateAgentIdSuspected : Bool
  duplicateAgentIdAcknowledgedAt : Option ℤ
  deriving DecidableEq, Repr

/-- The columns that name the device in the alert. -/
structure DeviceNames where
  displayName : Option String
  hostname : Option String
  deriving DecidableEq, Repr

/-- `(x): x is string => !!x` -/
def truthy (x : Option String) : Option String := x.filter (· ≠ "")

/-! ## The decision -/

def detectionWindow : ℤ := 30 * 60 * 1000

/-- The samples of the last 30 minutes. -/
def recent (now : ℤ) (samples : List Fingerprint) : List Fingerprint :=
  samples.filter fun f => now - detectionWindow ≤ f.observedAt

def hostSeq (samples : List Fingerprint) : List String := samples.filterMap fun f => truthy f.hostname
def ipSeq (samples : List Fingerprint) : List String := samples.filterMap fun f => truthy f.ipLocal
def macSeq (samples : List Fingerprint) : List String := samples.filterMap fun f => truthy f.mac

/-- The loop of `pingPong`, with the values it has seen and the previous one. -/
def pingPongFrom (seen : List String) (prev : Option String) : List String → Bool
  | [] => false
  | v :: vs =>
      if prev ≠ none ∧ prev ≠ some v ∧ v ∈ seen then true
      else pingPongFrom (JsSet.add seen v) (some v) vs

def pingPong (seq : List String) : Bool := pingPongFrom [] none seq

def newFlag (samples : List Fingerprint) : Bool :=
  pingPong (hostSeq samples) || pingPong (ipSeq samples) || pingPong (macSeq samples) ||
    decide (3 ≤ distinct (hostSeq samples)) || decide (4 ≤ distinct (ipSeq samples)) ||
    decide (3 ≤ distinct (macSeq samples))

/-! ## The alert -/

def duplicateIncident (deviceId : ℕ) : IncidentRef := ⟨.duplicateAgentId, deviceId⟩

def duplicateAlert (deviceId : ℕ) (names : DeviceNames) (hosts : List String) : AddOpts :=
  let dispName := (truthy names.displayName).getD ((truthy names.hostname).getD ("#" ++ toString deviceId))
  let hostList := String.intercalate ", " (hosts.take 6)
  { severity := .warning
    title := dispName ++ ": ID agent dupliqué suspecté"
    message :=
      if hostList ≠ "" then
        "Plusieurs machines semblent partager le même agent ID — hostnames vus: " ++ hostList
      else "Plusieurs machines semblent partager le même agent ID (alternance d'IP/MAC observée)."
    navigateTo := some ("/devices/" ++ toString deviceId)
    stableKey := some ("device:" ++ toString deviceId ++ ":duplicate_agent_id") }

/-! ## The two functions -/

/-- A contact; `device` is what the alert service reads of the device. With `alertOk = false` its transaction fails,
which is logged. -/
def recordIdentityFingerprint (deviceId tenantId : ℕ) (device : Option AlertDevice) (names : DeviceNames)
    (next : Identity) (now : ℤ) (alertOk : Bool) (row : DuplicateColumns) (alerts : AlertTable) :
    DuplicateColumns × AlertTable :=
  let buffer := row.identityFingerprints
  if buffer.getLast?.map Fingerprint.toIdentity = some next then (row, alerts)
  else
    let trimmed := (buffer ++ [Fingerprint.mk next now]).rtake 10
    let samples := recent now trimmed
    let flag := newFlag samples
    let wasFlagged := row.duplicateAgentIdSuspected
    let row := { row with identityFingerprints := trimmed, duplicateAgentIdSuspected := flag }
    if flag && !wasFlagged then
      (row, if alertOk then
          alerts.add device (duplicateIncident deviceId) tenantId
            (duplicateAlert deviceId names (JsSet.ofList (hostSeq samples))) now
        else alerts)
    else if wasFlagged && !flag then
      (row, if alertOk then alerts.resolveIncidents (duplicateIncident deviceId) now else alerts)
    else (row, alerts)

/-- An acknowledgement; a device of another tenant is not found. -/
def acknowledgeDuplicateAgentId (deviceId tenantId : ℕ) (now : ℤ) (alertOk : Bool) (row : DuplicateColumns)
    (alerts : AlertTable) : DuplicateColumns × AlertTable :=
  if row.tenantId = tenantId then
    ({ row with
        identityFingerprints := row.identityFingerprints.rtake 1
        duplicateAgentIdSuspected := false
        duplicateAgentIdAcknowledgedAt := some now },
      if alertOk then alerts.resolveIncidents (duplicateIncident deviceId) now else alerts)
  else (row, alerts)

section Spec
variable {deviceId tenantId : ℕ} {device : Option AlertDevice} {names : DeviceNames} {next : Identity} {now : ℤ}
  {alertOk : Bool} {row : DuplicateColumns} {alerts : AlertTable}

theorem record_same (h : row.identityFingerprints.getLast?.map Fingerprint.toIdentity = some next) :
    recordIdentityFingerprint deviceId tenantId device names next now alertOk row alerts = (row, alerts) :=
  if_pos h

/-- Another fingerprint: the row, and the alerts where the flag is not set. -/
theorem record_change (h : row.identityFingerprints.getLast?.map Fingerprint.toIdentity ≠ some next) :
    let trimmed := (row.identityFingerprints ++ [Fingerprint.mk next now]).rtake 10
    let r := recordIdentityFingerprint deviceId tenantId device names next now alertOk row alerts
    r.1 = { row with
        identityFingerprints := trimmed
        duplicateAgentIdSuspected := newFlag (recent now trimmed) } ∧
      (newFlag (recent now trimmed) = false → r.2 =
        if row.duplicateAgentIdSuspected && alertOk then alerts.resolveIncidents (duplicateIncident deviceId) now
        else alerts) := by
  dsimp only
  rw [recordIdentityFingerprint, if_neg h]
  dsimp only
  cases hflag : newFlag (recent now ((row.identityFingerprints ++ [Fingerprint.mk next now]).rtake 10)) with
  | true =>
      refine ⟨?_, fun hfalse => absurd hfalse.symm Bool.false_ne_true⟩
      cases row.duplicateAgentIdSuspected <;> rfl
  | false =>
      cases row.duplicateAgentIdSuspected with
      | true => exact ⟨rfl, fun _ => rfl⟩
      | false => exact ⟨rfl, fun _ => rfl⟩

end Spec

/-! ## What the decision stands for -/

def Suspicious (samples : List Fingerprint) : Prop :=
  CameBack (hostSeq samples) ∨ CameBack (ipSeq samples) ∨ CameBack (macSeq samples) ∨
    3 ≤ distinct (hostSeq samples) ∨ 4 ≤ distinct (ipSeq samples) ∨ 3 ≤ distinct (macSeq samples)

/-- The loop on the values behind `done`, of which it has kept the set and the last one. -/
theorem pingPongFrom_iff (vs : List String) : ∀ {done seen : List String}, ¬ CameBack done →
    (∀ v, v ∈ seen ↔ v ∈ done) → (pingPongFrom seen done.getLast? vs = true ↔ CameBack (done ++ vs)) := by
  induction vs with
  | nil =>
      intro done seen hdone _
      rw [List.append_nil]
      exact iff_of_false Bool.false_ne_true hdone
  | cons v vs ih =>
      intro done seen hdone hseen
      have hcons : done ++ v :: vs = done ++ [v] ++ vs := by rw [List.append_assoc, List.singleton_append]
      have hback : (done.getLast? ≠ none ∧ done.getLast? ≠ some v ∧ v ∈ seen) ↔ CameBack (done ++ [v]) := by
        rw [cameBack_concat hdone, hseen]
        refine ⟨fun h => ⟨h.2.2, h.2.1⟩, fun h => ⟨fun hnone => ?_, h.2, h.1⟩⟩
        exact List.not_mem_nil (List.getLast?_eq_none_iff.1 hnone ▸ h.1)
      rw [pingPongFrom, hcons]
      by_cases hv : CameBack (done ++ [v])
      · rw [if_pos (hback.2 hv)]
        exact iff_of_true rfl (hv.mono (List.sublist_append_left _ _))
      · rw [if_neg fun h => hv (hback.1 h)]
        have hlast : (done ++ [v]).getLast? = some v := List.getLast?_concat
        have hnext := @ih (done ++ [v]) (JsSet.add seen v) hv fun w => by simp [JsSet.mem_add, hseen]
        rwa [hlast] at hnext

theorem pingPong_iff (seq : List String) : pingPong seq = true ↔ CameBack seq :=
  @pingPongFrom_iff seq [] [] (fun h => absurd h.length_le (by simp)) fun _ => Iff.rfl

theorem newFlag_iff (samples : List Fingerprint) : newFlag samples = true ↔ Suspicious samples := by
  unfold newFlag Suspicious
  simp only [Bool.or_eq_true, decide_eq_true_eq, pingPong_iff, or_assoc]

instance decidableSuspicious (samples : List Fingerprint) : Decidable (Suspicious samples) :=
  decidable_of_iff _ (newFlag_iff samples)

/-- Evidence stays when samples are added. -/
theorem Suspicious.mono {samples more : List Fingerprint} (h : samples.Sublist more) :
    Suspicious samples → Suspicious more := by
  rintro (hhost | hip | hmac | hhosts | hips | hmacs)
  · exact .inl (hhost.mono (h.filterMap _))
  · exact .inr (.inl (hip.mono (h.filterMap _)))
  · exact .inr (.inr (.inl (hmac.mono (h.filterMap _))))
  · exact .inr (.inr (.inr (.inl (hhosts.trans (distinct_mono (h.filterMap _).subset)))))
  · exact .inr (.inr (.inr (.inr (.inl (hips.trans (distinct_mono (h.filterMap _).subset))))))
  · exact .inr (.inr (.inr (.inr (.inr (hmacs.trans (distinct_mono (h.filterMap _).subset))))))

/-- As time passes samples leave the window, and no evidence comes. -/
theorem Suspicious.earlier {samples : List Fingerprint} {now later : ℤ} (h : now ≤ later) :
    Suspicious (recent later samples) → Suspicious (recent now samples) := by
  refine Suspicious.mono (List.monotone_filter_right samples fun f hf => ?_)
  have hlater := of_decide_eq_true hf
  exact decide_eq_true (by omega)

/-- Fewer than three samples are no evidence. -/
theorem Suspicious.length_le {samples : List Fingerprint} : Suspicious samples → 3 ≤ samples.length := by
  have hseq : ∀ f : Fingerprint → Option String, (samples.filterMap f).length ≤ samples.length := fun f =>
    List.length_filterMap_le f samples
  rintro (hback | hback | hback | hmany | hmany | hmany)
  · exact hback.length_le.trans (hseq _)
  · exact hback.length_le.trans (hseq _)
  · exact hback.length_le.trans (hseq _)
  · exact (hmany.trans (distinct_le_length _)).trans (hseq _)
  · exact (Nat.le_of_succ_le (hmany.trans (distinct_le_length _))).trans (hseq _)
  · exact (hmany.trans (distinct_le_length _)).trans (hseq _)

end Obliance.Devices.Fingerprints
