import Obliance.Devices.Fingerprints

/-!
# The duplicate-agent flag over the contacts of a device

* `step`, `duplicateMachine` : contacts and acknowledgements of one device in the order of their instants;
* `observed` : the fingerprints the device has taken on, from the whole history;
* `EvidenceKept` : the steps after which the row still knows the evidence of the window;
* `Inv`, `step_inv` : the buffer is the end of what was observed, and the flag is its evidence;
* `flag_follows_evidence` : the flag and the incident over every run of such steps.
-/

namespace Obliance.Devices.Fingerprints
open Alerts Recurrence GuardedRun

/-- A contact, with the columns of the device that it finds and whether the alert service works. -/
structure Contact where
  tenantId : ℕ
  device : Option AlertDevice
  names : DeviceNames
  next : Identity
  now : ℤ
  alertOk : Bool
  deriving DecidableEq, Repr

inductive Action where
  | contact (c : Contact)
  | acknowledge (tenantId : ℕ) (now : ℤ) (alertOk : Bool)
  deriving DecidableEq, Repr

def Contact.sample (c : Contact) : Fingerprint := ⟨c.next, c.now⟩

def Action.now : Action → ℤ
  | .contact c => c.now
  | .acknowledge _ now _ => now

/-- The row, the alerts, and the actions so far. -/
structure State where
  row : DuplicateColumns
  alerts : AlertTable
  history : List Action

def act (deviceId : ℕ) (s : State) : Action → DuplicateColumns × AlertTable
  | .contact c =>
      recordIdentityFingerprint deviceId c.tenantId c.device c.names c.next c.now c.alertOk s.row s.alerts
  | .acknowledge tenantId now alertOk => acknowledgeDuplicateAgentId deviceId tenantId now alertOk s.row s.alerts

def State.after (deviceId : ℕ) (s : State) (a : Action) : State :=
  ⟨(act deviceId s a).1, (act deviceId s a).2, s.history ++ [a]⟩

/-- No action is earlier than the one before it. -/
def step (deviceId : ℕ) (s : State) (a : Action) : Option State :=
  if ∀ b ∈ s.history.getLast?, b.now ≤ a.now then some (s.after deviceId a) else none

/-- A device that was just created. -/
def duplicateMachine (deviceId : ℕ) : Machine State Action where
  init s := s.row.identityFingerprints = [] ∧ s.row.duplicateAgentIdSuspected = false ∧ s.history = [] ∧
    ¬ s.alerts.Active (duplicateIncident deviceId)
  step := step deviceId

/-! ## What was observed -/

/-- A contact that shows another fingerprint than the one before it adds a sample; after an acknowledgement by the
tenant of the device only the latest fingerprint counts. -/
def observe (tenantId : ℕ) (log : List Fingerprint) : Action → List Fingerprint
  | .contact c => if log.getLast?.map Fingerprint.toIdentity = some c.next then log else log ++ [c.sample]
  | .acknowledge by_ _ _ => if tenantId = by_ then log.getLast?.toList else log

def observed (tenantId : ℕ) (history : List Action) : List Fingerprint := history.foldl (observe tenantId) []

def State.observed (s : State) : List Fingerprint := Fingerprints.observed s.row.tenantId s.history

/-- Every contact, whatever it showed. -/
def contacts (history : List Action) : List Fingerprint :=
  history.filterMap fun
    | .contact c => some c.sample
    | .acknowledge .. => none

def ResolveOk (deviceId : ℕ) (s : State) (alertOk : Bool) : Prop :=
  alertOk = true ∨ ¬ s.alerts.Active (duplicateIncident deviceId)

/-- The steps that keep the evidence of the window: when the last fingerprint is repeated, the evidence that set the
flag is still in the window; a new fingerprint is at most the tenth of its window; and where the incident is to be
resolved, the alert service does not fail. -/
def EvidenceKept (deviceId : ℕ) (s : State) : Action → Prop
  | .contact c =>
      if s.observed.getLast?.map Fingerprint.toIdentity = some c.next then
        s.row.duplicateAgentIdSuspected = true → Suspicious (recent c.now s.observed)
      else
        (recent c.now (s.observed ++ [c.sample])).length ≤ 10 ∧
          (s.row.duplicateAgentIdSuspected = true → ¬ Suspicious (recent c.now (s.observed ++ [c.sample])) →
            ResolveOk deviceId s c.alertOk)
  | .acknowledge tenantId _ alertOk => s.row.tenantId = tenantId → ResolveOk deviceId s alertOk

instance decidableResolveOk (deviceId : ℕ) (s : State) (alertOk : Bool) : Decidable (ResolveOk deviceId s alertOk) :=
  inferInstanceAs (Decidable (_ ∨ _))

instance decidableEvidenceKept (deviceId : ℕ) (s : State) : (a : Action) → Decidable (EvidenceKept deviceId s a)
  | .contact c =>
      if h : s.observed.getLast?.map Fingerprint.toIdentity = some c.next then
        decidable_of_iff (_ → _) (by rw [EvidenceKept, if_pos h])
      else decidable_of_iff (_ ∧ (_ → ¬ _ → _)) (by rw [EvidenceKept, if_neg h])
  | .acknowledge _ _ _ => inferInstanceAs (Decidable (_ → _))

/-- After a contact the flag is the evidence of the window, and the incident is active only under the flag. -/
def FlagFollows (deviceId : ℕ) (s : State) : Prop :=
  (∀ c, s.history.getLast? = some (.contact c) →
    (s.row.duplicateAgentIdSuspected = true ↔ Suspicious (recent c.now s.observed))) ∧
  (s.alerts.Active (duplicateIncident deviceId) → s.row.duplicateAgentIdSuspected = true)

/-! ## Histories -/

theorem observed_concat (tenantId : ℕ) (history : List Action) (a : Action) :
    observed tenantId (history ++ [a]) = observe tenantId (observed tenantId history) a := by
  rw [observed, List.foldl_append]
  rfl

theorem observe_sublist (tenantId : ℕ) (log : List Fingerprint) (a : Action) :
    (observe tenantId log a).Sublist (log ++ contacts [a]) := by
  cases a with
  | contact c =>
      dsimp only [observe]
      split
      · exact List.sublist_append_left _ _
      · exact List.Sublist.refl _
  | acknowledge t now ok =>
      dsimp only [observe]
      split
      · cases hlast : log.getLast? with
        | none => exact List.nil_sublist _
        | some f =>
            have hmem : f ∈ log := List.mem_of_getLast? hlast
            exact (List.singleton_sublist.2 hmem).trans (List.sublist_append_left _ _)
      · exact List.sublist_append_left _ _

/-- What counts as observed is among the contacts. -/
theorem observed_sublist (tenantId : ℕ) (history : List Action) :
    (observed tenantId history).Sublist (contacts history) := by
  induction history using List.reverseRecOn with
  | nil => exact List.Sublist.refl _
  | append_singleton history a ih =>
      have hcontacts : contacts (history ++ [a]) = contacts history ++ contacts [a] := List.filterMap_append
      rw [observed_concat, hcontacts]
      exact (observe_sublist tenantId _ a).trans (ih.append (List.Sublist.refl _))

/-! ## The invariant -/

structure Inv (deviceId : ℕ) (s : State) : Prop where
  buffer : s.row.identityFingerprints = s.observed.rtake 10
  sorted : s.observed.Pairwise fun f g => f.observedAt ≤ g.observedAt
  past : ∀ b ∈ s.history.getLast?, ∀ f ∈ s.observed, f.observedAt ≤ b.now
  unflagged : s.row.duplicateAgentIdSuspected = false → ∀ now, (∀ b ∈ s.history.getLast?, b.now ≤ now) →
    ¬ Suspicious (recent now s.observed)
  follows : FlagFollows deviceId s

variable {deviceId : ℕ} {s t : State} {a : Action}

theorem resolve_of_ok {alertOk : Bool} (h : ResolveOk deviceId s alertOk) (now : ℤ) :
    ¬ (if alertOk then s.alerts.resolveIncidents (duplicateIncident deviceId) now else s.alerts).Active
      (duplicateIncident deviceId) := by
  cases alertOk with
  | true => exact s.alerts.not_active_resolveIncidents _ now
  | false => exact h.resolve_left Bool.false_ne_true

/-- The samples of the window are in the buffer when there are at most ten. -/
theorem recent_rtake {log : List Fingerprint} (hsorted : log.Pairwise fun f g => f.observedAt ≤ g.observedAt)
    {now : ℤ} (hn : (recent now log).length ≤ 10) : recent now (log.rtake 10) = recent now log := by
  refine filter_rtake (hsorted.imp fun {f g} hfg hf => ?_) hn
  have hrecent := of_decide_eq_true hf
  exact decide_eq_true (by omega)

theorem inv_of_init (h : (duplicateMachine deviceId).init s) : Inv deviceId s := by
  obtain ⟨hbuffer, hflag, hhistory, hnone⟩ := h
  have hobserved : s.observed = [] := by rw [State.observed, hhistory]; rfl
  refine ⟨by rw [hbuffer, hobserved]; rfl, by rw [hobserved]; exact .nil, fun b hb => ?_, fun _ now _ hsus => ?_,
    fun _ hlast => ?_, fun hact => absurd hact hnone⟩
  · rw [hhistory] at hb
    cases hb
  · rw [hobserved] at hsus
    exact absurd hsus.length_le (by simp [recent])
  · rw [hhistory] at hlast
    cases hlast

/-! ## One step -/

/-- Everything observed is in the past. -/
theorem Inv.observed_le (h : Inv deviceId s) {now : ℤ} (hnow : ∀ b ∈ s.history.getLast?, b.now ≤ now) :
    ∀ f ∈ s.observed, f.observedAt ≤ now := by
  intro f hf
  cases hlast : s.history.getLast? with
  | none =>
      rw [State.observed, List.getLast?_eq_none_iff.1 hlast] at hf
      cases hf
  | some b => exact (h.past b hlast f hf).trans (hnow b hlast)

theorem Inv.getLast?_buffer (h : Inv deviceId s) : s.row.identityFingerprints.getLast? = s.observed.getLast? := by
  rw [h.buffer, getLast?_rtake]

theorem getLast?_after (deviceId : ℕ) (s : State) (a : Action) : (s.after deviceId a).history.getLast? = some a :=
  List.getLast?_concat

/-- A step that writes nothing and adds no sample: time has passed, and a contact must find the flag right. -/
theorem Inv.unchanged (h : Inv deviceId s) (hnow : ∀ b ∈ s.history.getLast?, b.now ≤ a.now)
    (hact : act deviceId s a = (s.row, s.alerts)) (hobserved : (s.after deviceId a).observed = s.observed)
    (hright : ∀ c, a = .contact c → s.row.duplicateAgentIdSuspected = true → Suspicious (recent c.now s.observed)) :
    Inv deviceId (s.after deviceId a) := by
  have hrow : (s.after deviceId a).row = s.row := congrArg Prod.fst hact
  have halerts : (s.after deviceId a).alerts = s.alerts := congrArg Prod.snd hact
  refine ⟨?_, by rw [hobserved]; exact h.sorted, ?_, ?_, ?_, by rw [halerts, hrow]; exact h.follows.2⟩
  · rw [hrow, hobserved]
    exact h.buffer
  · intro b hb f hf
    obtain rfl := Option.some.inj ((getLast?_after deviceId s a).symm.trans hb)
    rw [hobserved] at hf
    exact h.observed_le hnow f hf
  · intro hflag later hlater hsus
    rw [hrow] at hflag
    rw [hobserved] at hsus
    exact h.unflagged hflag a.now hnow (hsus.earlier (hlater _ (getLast?_after deviceId s a)))
  · intro c hcontact
    obtain rfl := Option.some.inj ((getLast?_after deviceId s a).symm.trans hcontact)
    rw [hrow, hobserved]
    refine ⟨hright _ rfl, fun hsus => ?_⟩
    by_contra hflag
    exact h.unflagged (Bool.eq_false_of_not_eq_true hflag) c.now hnow hsus

/-- The last fingerprint is repeated. -/
theorem contact_same (h : Inv deviceId s) {c : Contact} (hnow : ∀ b ∈ s.history.getLast?, b.now ≤ c.now)
    (hsame : s.observed.getLast?.map Fingerprint.toIdentity = some c.next)
    (hok : s.row.duplicateAgentIdSuspected = true → Suspicious (recent c.now s.observed)) :
    Inv deviceId (s.after deviceId (.contact c)) := by
  have hact : act deviceId s (.contact c) = (s.row, s.alerts) :=
    record_same (by rw [h.getLast?_buffer, hsame])
  refine h.unchanged hnow hact ?_ ?_
  · rw [State.observed, State.after, hact, observed_concat]
    exact if_pos hsame
  · intro c' hcontact hflag
    obtain rfl := Action.contact.inj hcontact
    exact hok hflag

/-! ### Another fingerprint -/

section Change
variable {c : Contact}

theorem Inv.trimmed (h : Inv deviceId s) :
    (s.row.identityFingerprints ++ [c.sample]).rtake 10 = (s.observed ++ [c.sample]).rtake 10 := by
  rw [h.buffer, rtake_concat]

theorem Inv.sorted_concat (h : Inv deviceId s) (hnow : ∀ b ∈ s.history.getLast?, b.now ≤ c.now) :
    (s.observed ++ [c.sample]).Pairwise fun f g => f.observedAt ≤ g.observedAt := by
  refine List.pairwise_append.2 ⟨h.sorted, List.pairwise_singleton _ _, fun f hf g hg => ?_⟩
  rw [List.mem_singleton.1 hg]
  exact h.observed_le hnow f hf

/-- What the contact writes, in terms of what was observed. -/
theorem Inv.act_change (h : Inv deviceId s) (hnow : ∀ b ∈ s.history.getLast?, b.now ≤ c.now)
    (hnew : s.observed.getLast?.map Fingerprint.toIdentity ≠ some c.next)
    (hfits : (recent c.now (s.observed ++ [c.sample])).length ≤ 10) :
    (act deviceId s (.contact c)).1 = { s.row with
      identityFingerprints := (s.observed ++ [c.sample]).rtake 10
      duplicateAgentIdSuspected := newFlag (recent c.now (s.observed ++ [c.sample])) } ∧
    (newFlag (recent c.now (s.observed ++ [c.sample])) = false → (act deviceId s (.contact c)).2 =
      if s.row.duplicateAgentIdSuspected && c.alertOk then
        s.alerts.resolveIncidents (duplicateIncident deviceId) c.now
      else s.alerts) := by
  have hchange := @record_change deviceId c.tenantId c.device c.names c.next c.now c.alertOk s.row s.alerts
    (by rwa [h.getLast?_buffer])
  rw [← recent_rtake (h.sorted_concat hnow) hfits, ← h.trimmed]
  exact hchange

/-- The incident is resolved where the flag was set, and was not active where it was not. -/
theorem Inv.incident_change (h : Inv deviceId s)
    (hresolve : s.row.duplicateAgentIdSuspected = true → ResolveOk deviceId s c.alertOk) :
    ¬ (if s.row.duplicateAgentIdSuspected && c.alertOk then
        s.alerts.resolveIncidents (duplicateIncident deviceId) c.now
      else s.alerts).Active (duplicateIncident deviceId) := by
  intro hact
  cases hwas : s.row.duplicateAgentIdSuspected with
  | false =>
      rw [hwas, Bool.false_and] at hact
      exact absurd (hwas.symm.trans (h.follows.2 hact)) Bool.false_ne_true
  | true =>
      rw [hwas, Bool.true_and] at hact
      exact resolve_of_ok (hresolve hwas) c.now hact

/-- The flag is the evidence of the window. -/
theorem contact_change (h : Inv deviceId s) (hnow : ∀ b ∈ s.history.getLast?, b.now ≤ c.now)
    (hnew : s.observed.getLast?.map Fingerprint.toIdentity ≠ some c.next)
    (hfits : (recent c.now (s.observed ++ [c.sample])).length ≤ 10)
    (hresolve : s.row.duplicateAgentIdSuspected = true →
      ¬ Suspicious (recent c.now (s.observed ++ [c.sample])) → ResolveOk deviceId s c.alertOk) :
    Inv deviceId (s.after deviceId (.contact c)) := by
  obtain ⟨hrow, halerts⟩ := h.act_change hnow hnew hfits
  have hobserved : (s.after deviceId (.contact c)).observed = s.observed ++ [c.sample] := by
    have htenant : (s.after deviceId (.contact c)).row.tenantId = s.row.tenantId := by
      rw [State.after, hrow]
    rw [State.observed, htenant, State.after, observed_concat]
    exact if_neg hnew
  have hflag : (s.after deviceId (.contact c)).row.duplicateAgentIdSuspected =
      newFlag (recent c.now (s.observed ++ [c.sample])) :=
    congrArg DuplicateColumns.duplicateAgentIdSuspected hrow
  have hlast := getLast?_after deviceId s (.contact c)
  refine ⟨?_, by rw [hobserved]; exact h.sorted_concat hnow, ?_, ?_, ?_, ?_⟩
  · rw [hobserved]
    exact congrArg DuplicateColumns.identityFingerprints hrow
  · intro b hb f hf
    obtain rfl := Option.some.inj (hlast.symm.trans hb)
    rw [hobserved] at hf
    rcases List.mem_append.1 hf with hf | hf
    · exact h.observed_le hnow f hf
    · exact le_of_eq (congrArg Fingerprint.observedAt (List.mem_singleton.1 hf))
  · intro hfalse later hlater hsus
    rw [hobserved] at hsus
    have htrue := (newFlag_iff _).2 (hsus.earlier (hlater _ hlast))
    exact absurd (hfalse.symm.trans (hflag.trans htrue)) Bool.false_ne_true
  · intro c' hcontact
    obtain rfl := Action.contact.inj (Option.some.inj (hlast.symm.trans hcontact))
    rw [hobserved, ← newFlag_iff, ← hflag]
  · intro hact
    by_contra hfalse
    rw [Bool.not_eq_true, hflag] at hfalse
    have hnot : ¬ Suspicious (recent c.now (s.observed ++ [c.sample])) := by
      rw [← newFlag_iff, hfalse]
      exact Bool.false_ne_true
    rw [State.after, halerts hfalse] at hact
    exact h.incident_change (fun hwas => hresolve hwas hnot) hact

end Change

/-! ### An acknowledgement and the run -/

/-- The flag is cleared, and the latest fingerprint alone is no evidence. -/
theorem acknowledge_inv (h : Inv deviceId s) {tenantId : ℕ} {now : ℤ} {alertOk : Bool}
    (hnow : ∀ b ∈ s.history.getLast?, b.now ≤ now)
    (hresolve : s.row.tenantId = tenantId → ResolveOk deviceId s alertOk) :
    Inv deviceId (s.after deviceId (.acknowledge tenantId now alertOk)) := by
  by_cases htenant : s.row.tenantId = tenantId
  · have hact : act deviceId s (.acknowledge tenantId now alertOk) = _ := if_pos htenant
    have hobserved : (s.after deviceId (.acknowledge tenantId now alertOk)).observed = s.observed.getLast?.toList := by
      rw [State.observed, State.after, hact, observed_concat]
      exact if_pos htenant
    have hmem : ∀ f ∈ (s.after deviceId (.acknowledge tenantId now alertOk)).observed, f ∈ s.observed := by
      intro f hf
      rw [hobserved] at hf
      exact List.mem_of_getLast? (Option.mem_toList.1 hf)
    refine ⟨?_, ?_, ?_, ?_, ?_, ?_⟩
    · rw [hobserved, State.after, hact, h.buffer]
      dsimp only
      rw [rtake_rtake, ← rtake_one, rtake_rtake]
      rfl
    · rw [hobserved]
      cases s.observed.getLast? with
      | none => exact .nil
      | some f => exact List.pairwise_singleton _ f
    · intro b hb f hf
      obtain rfl := Option.some.inj ((getLast?_after deviceId s _).symm.trans hb)
      exact h.observed_le hnow f (hmem f hf)
    · intro _ later _ hsus
      have hthree := hsus.length_le.trans (List.length_filter_le _ _)
      rw [hobserved] at hthree
      exact absurd (hthree.trans Option.length_toList_le) (by decide)
    · intro c hc
      cases (getLast?_after deviceId s _).symm.trans hc
    · intro hactive
      rw [State.after, hact] at hactive
      exact absurd hactive (resolve_of_ok (hresolve htenant) now)
  · have hact : act deviceId s (.acknowledge tenantId now alertOk) = (s.row, s.alerts) := if_neg htenant
    refine h.unchanged hnow hact ?_ fun _ hcontact => by cases hcontact
    rw [State.observed, State.after, hact, observed_concat]
    exact if_neg htenant

/-- **A step that keeps the evidence keeps the invariant.** -/
theorem step_inv (h : Inv deviceId s) (hok : EvidenceKept deviceId s a) (hs : step deviceId s a = some t) :
    Inv deviceId t := by
  unfold step at hs
  split at hs
  · next hnow =>
    obtain rfl := Option.some.inj hs
    cases a with
    | contact c =>
        by_cases hsame : s.observed.getLast?.map Fingerprint.toIdentity = some c.next
        · exact contact_same h hnow hsame (by simpa only [EvidenceKept, if_pos hsame] using hok)
        · simp only [EvidenceKept, if_neg hsame] at hok
          exact contact_change h hnow hsame hok.1 hok.2
    | acknowledge tenantId now alertOk => exact acknowledge_inv h hnow hok
  · cases hs

/-- The evidence of what was observed is evidence of the contacts. -/
theorem suspicious_contacts {now : ℤ} (h : Suspicious (recent now s.observed)) :
    Suspicious (recent now (contacts s.history)) :=
  h.mono ((observed_sublist _ _).filter _)

/-- **The flag follows its evidence.** In every run whose steps keep the evidence, the flag after a contact is the
evidence of the fingerprints observed in the last 30 minutes, and the incident is active only while the flag is set.
A set flag is also evidence of all contacts of these 30 minutes, the repeated and the acknowledged ones included, and it
is exactly that evidence where these add none. -/
theorem flag_follows_evidence (deviceId : ℕ) (s : State)
    (h : Reach (duplicateMachine deviceId) (EvidenceKept deviceId) s) :
    FlagFollows deviceId s ∧ ∀ c, s.history.getLast? = some (.contact c) →
      (s.row.duplicateAgentIdSuspected = true → Suspicious (recent c.now (contacts s.history))) ∧
      ((s.row.duplicateAgentIdSuspected = true ↔ Suspicious (recent c.now (contacts s.history))) ↔
        (Suspicious (recent c.now (contacts s.history)) → Suspicious (recent c.now s.observed))) := by
  have hinv : Inv deviceId s := h.invariant (fun _ => inv_of_init) fun _ _ _ hi hok hs => step_inv hi hok hs
  refine ⟨hinv.follows, fun c hlast => ?_⟩
  have hflag := hinv.follows.1 c hlast
  refine ⟨fun hset => suspicious_contacts (hflag.1 hset), fun hcontacts hsus => hflag.1 (hcontacts.2 hsus), ?_⟩
  exact fun hadd => ⟨fun hset => suspicious_contacts (hflag.1 hset), fun hsus => hflag.2 (hadd hsus)⟩

/-- The device of a new agent. -/
def newDevice : State := ⟨⟨1, [], false, none⟩, ⟨[], 1⟩, []⟩

def showsHost (host : String) (minute : ℤ) : Action :=
  .contact ⟨1, some ⟨1, .online⟩, ⟨none, some host⟩, ⟨some host, some "10.0.0.5", none, none⟩, minute * 60000, true⟩

/-- Two machines alternate; the administrator acknowledges, and they go on. -/
def alternation : List Action :=
  [showsHost "PC1" 0, showsHost "PC2" 1, showsHost "PC1" 2, .acknowledge 1 180000 true, showsHost "PC2" 4,
    showsHost "PC1" 5]

theorem flag_follows_evidence_alternation :
    ∃ s, (duplicateMachine 5).exec newDevice alternation = some s ∧ s.row.duplicateAgentIdSuspected = true ∧
      Suspicious (recent 300000 (contacts s.history)) := by
  have hinit : Reach (duplicateMachine 5) (EvidenceKept 5) newDevice := .start ⟨rfl, rfl, rfl, by decide⟩
  have hadmits : (duplicateMachine 5).Admits (EvidenceKept 5) newDevice alternation := by decide +kernel
  refine ⟨_, rfl, by decide +kernel, ?_⟩
  have hreach := hinit.of_exec alternation hadmits rfl
  exact ((flag_follows_evidence 5 _ hreach).2 _ rfl).1 (by decide +kernel)

/-- **The flag outlives its evidence**: the alternation ends, the remaining machine goes on with the fingerprint it has
shown last, and 40 minutes later the flag is still set. -/
theorem flag_outlives_evidence : ¬ ∀ s, Reach (duplicateMachine 5) anyStep s → FlagFollows 5 s := by
  refine not_forall_reach (s := newDevice) ⟨rfl, rfl, rfl, by decide⟩
    [showsHost "PC1" 0, showsHost "PC2" 1, showsHost "PC1" 2, showsHost "PC1" 40] ⟨_, rfl, fun h => ?_⟩
  have hsus := (h.1 _ rfl).1 (by decide +kernel)
  exact absurd hsus (by decide +kernel)

end Obliance.Devices.Fingerprints
