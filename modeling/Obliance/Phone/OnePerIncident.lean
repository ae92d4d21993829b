import Obliance.Phone.Pass

/-!
# One notification per incident (`notifications` `NotificationPass.kt`)

An alert whose incident is read from its device, and not from a stable key, may be recorded under an
incident it did not replace anything of: `Incidents` reads no absolute URL, the record is made with
`NotificationRoutes`, which does.

* `Vouched` : what a feed says of an alert whose notification stays;
* `Unshared` : no alert is recorded under the incident of another entry that it does not replace;
* `one_notification_per_incident` : then each incident has at most one entry, in every run.
-/

namespace Obliance.Phone
open GuardedRun
open Obliance.Alerts (Severity IncidentRef)

/-- No two entries have the same incident. -/
def OnePerIncident (posted : List PostedAlert) : Prop := (posted.filterMap PostedAlert.incidentKey).Nodup

instance (posted : List PostedAlert) : Decidable (OnePerIncident posted) :=
  inferInstanceAs (Decidable (List.Nodup _))

/-- The feed lists the alert as active, unread and of a tenant that is not excluded, or it does not list
it and does not say that it is over. -/
def Vouched (excluded : List ℤ) (feed : AlertsFeed) (alertId : ℤ) : Prop :=
  (∃ a ∈ feed.alerts, a.id = alertId ∧ a.readAt = none ∧ isVisible excluded a = true) ∨
    alertId ∉ feed.alerts.map LiveAlert.id ∧ feed.isActive alertId ≠ some false

variable (p : Platform)

/-- The feeds carry no recovery rows. -/
def CarriesNoRecovery : PhoneState → PhoneOp → Prop
  | _, .answered ans => ∀ a ∈ ans.feed.alerts, category p a.title ≠ .recovery
  | _, _ => True

/-- An alert that may ring and has no incident of its own is recorded under one that neither an entry
that stays nor another such alert has. -/
def RecordsApart (settings : PassSettings) (state : ServerNotifState) (ans : PassAnswer) : Prop :=
  ∀ c ∈ mayRing p settings state ans, incidentKey p c.a = none → ∀ key ∈ (postedAlert p c).incidentKey,
    (∀ q ∈ state.postedAlerts, isGone state.excludedTenants ans.feed q = false → q.alertId ≠ c.a.id →
      q.incidentKey ≠ some key) ∧
    ∀ c' ∈ mayRing p settings state ans, c'.a.id ≠ c.a.id → (postedAlert p c').incidentKey ≠ some key

/-- **The steps that keep one notification per incident.** -/
def Unshared (s : PhoneState) (op : PhoneOp) : Prop :=
  CarriesNoRecovery p s op ∧
    match op with
    | .answered ans => ∀ r ∈ s.running, RecordsApart p r.1 r.2 ans
    | _ => True

instance decidableCarriesNoRecovery (s : PhoneState) : (op : PhoneOp) → Decidable (CarriesNoRecovery p s op)
  | .answered ans => inferInstanceAs (Decidable (∀ a ∈ ans.feed.alerts, category p a.title ≠ .recovery))
  | .startPass _ _ | .failed | .resolved _ | .markRead _ | .edit _ _ | .scope _ | .signOut | .signIn =>
      .isTrue trivial

instance (settings : PassSettings) (state : ServerNotifState) (ans : PassAnswer) :
    Decidable (RecordsApart p settings state ans) :=
  inferInstanceAs (Decidable (∀ c ∈ mayRing p settings state ans, incidentKey p c.a = none →
    ∀ key ∈ (postedAlert p c).incidentKey, _ ∧ _))

instance decidableUnshared (s : PhoneState) : (op : PhoneOp) → Decidable (Unshared p s op)
  | .answered ans => inferInstanceAs (Decidable (CarriesNoRecovery p s (.answered ans) ∧
      ∀ r ∈ s.running, RecordsApart p r.1 r.2 ans))
  | .startPass _ _ | .failed | .resolved _ | .markRead _ | .edit _ _ | .scope _ | .signOut | .signIn =>
      .isTrue ⟨trivial, trivial⟩

variable {p}

/-! ## The entries of a pass -/

section Entries
variable {posted posted' : List PostedAlert} {q : PostedAlert} {c : Candidate}

theorem OnePerIncident.sublist (h : OnePerIncident posted) (hsub : posted'.Sublist posted) :
    OnePerIncident posted' :=
  List.Nodup.sublist (hsub.filterMap _) h

theorem OnePerIncident.perm (h : OnePerIncident posted) (hperm : posted.Perm posted') : OnePerIncident posted' :=
  (hperm.filterMap _).nodup_iff.1 h

/-- An entry is added whose incident no other has. -/
theorem OnePerIncident.concat (h : OnePerIncident posted)
    (hfree : ∀ key, q.incidentKey = some key → ∀ q' ∈ posted, q'.incidentKey ≠ some key) :
    OnePerIncident (posted ++ [q]) := by
  rw [OnePerIncident, List.filterMap_append]
  cases hkey : q.incidentKey with
  | none =>
      rw [List.filterMap_cons_none hkey, List.filterMap_nil, List.append_nil]
      exact h
  | some key =>
      rw [List.filterMap_cons_some hkey, List.filterMap_nil]
      refine List.nodup_append.2 ⟨h, List.nodup_singleton _, ?_⟩
      intro a ha b hb heq
      obtain rfl := List.mem_singleton.1 hb
      obtain ⟨q', hq', hk⟩ := List.mem_filterMap.1 ha
      exact hfree _ hkey q' hq' (heq ▸ hk)

/-- An entry that stays when an alert is posted. -/
theorem mem_of_mem_replaced (h : q ∈ posted.filter (fun q => !(decide (q.alertId = c.a.id) ||
    (incidentKey p c.a).any fun key => decide (q.incidentKey = some key)))) :
    q ∈ posted ∧ q.alertId ≠ c.a.id ∧ ∀ key, incidentKey p c.a = some key → q.incidentKey ≠ some key := by
  rw [List.mem_filter, Bool.not_eq_true', Bool.or_eq_false_iff, decide_eq_false_iff_not] at h
  refine ⟨h.1, h.2.1, fun key hkey => ?_⟩
  have hany := h.2.2
  rw [hkey] at hany
  simpa using hany

theorem OnePerIncident.replacePosted (h : OnePerIncident posted)
    (hfree : incidentKey p c.a = none → ∀ key ∈ (postedAlert p c).incidentKey, ∀ q ∈ posted,
      q.alertId ≠ c.a.id → q.incidentKey ≠ some key) : OnePerIncident (replacePosted p posted c) := by
  refine (h.sublist List.filter_sublist).concat fun key hkey q hq => ?_
  obtain ⟨hmem, hid, hother⟩ := mem_of_mem_replaced hq
  cases hincident : incidentKey p c.a with
  | none => exact hfree hincident key hkey q hmem hid
  | some key' =>
      have hrecord : (postedAlert p c).incidentKey = some key' := by
        rw [PostedAlert.incidentKey, postedAlert, hincident, Option.some_or]
      obtain rfl := Option.some.inj (hrecord.symm.trans hkey)
      exact hother key' hincident

/-- Every entry is one that was kept, or the record of an alert that may ring. -/
def Recorded (kept : List PostedAlert) (ring : List Candidate) (posted : List PostedAlert) : Prop :=
  ∀ q ∈ posted, q ∈ kept ∨ ∃ c ∈ ring, q = postedAlert p c

theorem Recorded.replacePosted {kept : List PostedAlert} {ring : List Candidate}
    (h : Recorded (p := p) kept ring posted) (hc : c ∈ ring) :
    Recorded (p := p) kept ring (replacePosted p posted c) := by
  intro q hq
  rcases List.mem_append.1 hq with hq | hq
  · exact h q (mem_of_mem_replaced hq).1
  · exact .inr ⟨c, hc, List.mem_singleton.1 hq⟩

end Entries

/-! ## One pass -/

section Pass
variable {settings : PassSettings} {state : ServerNotifState} {ans : PassAnswer}

def keptPosted (state : ServerNotifState) (ans : PassAnswer) : List PostedAlert :=
  state.postedAlerts.filter fun q => !isGone state.excludedTenants ans.feed q

theorem mem_keptPosted {q : PostedAlert} :
    q ∈ keptPosted state ans ↔ q ∈ state.postedAlerts ∧ isGone state.excludedTenants ans.feed q = false := by
  rw [keptPosted, List.mem_filter, Bool.not_eq_true']

theorem Recorded.postChosen {kept posted : List PostedAlert} {ring : List Candidate} {accepts : ℕ → Bool}
    {cs : List (Candidate × ℕ)} (h : Recorded (p := p) kept ring posted) (hcs : ∀ c ∈ cs, c.1 ∈ ring) :
    Recorded (p := p) kept ring (postChosen p accepts posted cs) := by
  induction cs generalizing posted with
  | nil => exact h
  | cons c cs ih =>
      have hrest : ∀ c' ∈ cs, c'.1 ∈ ring := fun c' hc' => hcs c' (List.mem_cons_of_mem _ hc')
      rw [Phone.postChosen, List.foldl_cons]
      split_ifs
      · exact ih (h.replacePosted (hcs c List.mem_cons_self)) hrest
      · exact ih h hrest

/-- The record of an alert meets no entry of its incident. -/
theorem RecordsApart.replacePosted (h : RecordsApart p settings state ans) {posted : List PostedAlert}
    {c : Candidate} (hrec : Recorded (p := p) (keptPosted state ans) (mayRing p settings state ans) posted)
    (hone : OnePerIncident posted) (hc : c ∈ mayRing p settings state ans) :
    OnePerIncident (replacePosted p posted c) := by
  refine hone.replacePosted fun hnone key hkey q hq hid => ?_
  obtain ⟨hkept, hring⟩ := h c hc hnone key hkey
  rcases hrec q hq with hq | ⟨c', hc', rfl⟩
  · obtain ⟨hmem, hgone⟩ := mem_keptPosted.1 hq
    exact hkept q hmem hgone hid
  · exact hring c' hc' hid

theorem RecordsApart.postChosen (h : RecordsApart p settings state ans) {posted : List PostedAlert}
    {cs : List (Candidate × ℕ)} (hrec : Recorded (p := p) (keptPosted state ans) (mayRing p settings state ans) posted)
    (hone : OnePerIncident posted) (hcs : ∀ c ∈ cs, c.1 ∈ mayRing p settings state ans) :
    OnePerIncident (postChosen p ans.accepts posted cs) := by
  induction cs generalizing posted with
  | nil => exact hone
  | cons c cs ih =>
      have hc := hcs c List.mem_cons_self
      have hrest : ∀ c' ∈ cs, c'.1 ∈ mayRing p settings state ans :=
        fun c' hc' => hcs c' (List.mem_cons_of_mem _ hc')
      rw [Phone.postChosen, List.foldl_cons]
      split_ifs
      · exact ih (hrec.replacePosted hc) (h.replacePosted hrec hone hc) hrest
      · exact ih hrec hone hrest

theorem mem_mayRing_of_chosen {ring : List Candidate} {c : Candidate × ℕ}
    (h : c ∈ (chosen p ring).reverse.zipIdx) : c.1 ∈ ring := by
  have hmem : c.1 ∈ chosen p ring := List.mem_reverse.1 (List.mem_of_getElem? (List.mem_zipIdx_iff_getElem?.1 h))
  exact List.mem_of_mem_filter ((List.mem_insertionSort _).1 (List.mem_of_mem_take hmem))

theorem mem_freshAlerts {a : LiveAlert} (h : a ∈ freshAlerts state ans.feed) :
    a ∈ ans.feed.alerts ∧ a.readAt = none ∧ isVisible state.excludedTenants a = true := by
  obtain ⟨hmem, hvisible⟩ := List.mem_filter.1 h
  obtain ⟨hfeed, hunread, -⟩ := fresh_of_mem_process hmem
  exact ⟨hfeed, hunread, hvisible⟩

theorem alert_of_candidate {inOnCall isServer : Bool} {a : LiveAlert} {c : Candidate}
    (h : candidate p settings inOnCall a isServer = some c) : c.a = a := by
  unfold candidate at h
  dsimp only at h
  split at h
  · cases h
  · obtain ⟨kind, -, h⟩ := Option.bind_eq_some_iff.1 h
    simp only [Option.ite_none_left_eq_some] at h
    obtain ⟨-, -, -, h⟩ := h
    exact (Option.some.inj h) ▸ rfl

theorem mem_fresh_of_mayRing {c : Candidate} (h : c ∈ mayRing p settings state ans) :
    c.a ∈ freshAlerts state ans.feed := by
  obtain ⟨a, ha, hc⟩ := List.mem_filterMap.1 h
  rw [alert_of_candidate hc]
  exact ha

/-- Without recovery rows the new entries are those of the alerts posted. -/
theorem posted_alertsPart (hnone : ∀ a ∈ ans.feed.alerts, category p a.title ≠ .recovery) :
    (alertsPart p settings state ans).posted =
      ((postChosen p ans.accepts (keptPosted state ans)
        (chosen p (mayRing p settings state ans)).reverse.zipIdx).insertionSort
          fun q q' => q'.alertId ≤ q.alertId).take maxPosted := by
  have hrecoveries : (freshAlerts state ans.feed).filter (fun a => decide (category p a.title = .recovery)) = [] := by
    rw [List.filter_eq_nil_iff]
    intro a ha he
    exact hnone a (mem_freshAlerts ha).1 (of_decide_eq_true he)
  simp only [alertsPart, hrecoveries, sortedById, List.insertionSort_nil, List.foldl_nil]
  rfl

theorem recorded_kept : Recorded (p := p) (keptPosted state ans) (mayRing p settings state ans)
    (keptPosted state ans) := fun _ hq => .inl hq

theorem RecordsApart.alertsPart (h : RecordsApart p settings state ans)
    (hnone : ∀ a ∈ ans.feed.alerts, category p a.title ≠ .recovery) (hone : OnePerIncident state.postedAlerts) :
    OnePerIncident (alertsPart p settings state ans).posted := by
  rw [posted_alertsPart hnone]
  have hkept : OnePerIncident (keptPosted state ans) := hone.sublist List.filter_sublist
  have hposted := h.postChosen recorded_kept hkept fun c hc => mem_mayRing_of_chosen (p := p) hc
  exact (hposted.perm (List.perm_insertionSort _ _).symm).sublist (List.take_sublist _ _)

theorem vouched_of_kept {q : PostedAlert} (h : q ∈ keptPosted state ans) :
    Vouched state.excludedTenants ans.feed q.alertId := by
  obtain ⟨-, hgone⟩ := mem_keptPosted.1 h
  unfold isGone at hgone
  cases hfind : ans.feed.alerts.reverse.find? fun a => decide (a.id = q.alertId) with
  | none =>
      rw [hfind] at hgone
      refine .inr ⟨fun hmem => ?_, of_decide_eq_false hgone⟩
      obtain ⟨a, ha, hid⟩ := List.mem_map.1 hmem
      exact absurd (decide_eq_true hid) (List.find?_eq_none.1 hfind a (List.mem_reverse.2 ha))
  | some a =>
      rw [hfind, Bool.or_eq_false_iff, Bool.not_eq_false'] at hgone
      have hid := List.find?_some hfind
      refine .inl ⟨a, List.mem_reverse.1 (List.mem_of_find?_eq_some hfind), of_decide_eq_true hid, ?_, hgone.2⟩
      simpa using hgone.1

/-- Every entry a pass leaves is one its feed vouches for. -/
theorem vouched_alertsPart (hnone : ∀ a ∈ ans.feed.alerts, category p a.title ≠ .recovery) {q : PostedAlert}
    (h : q ∈ (alertsPart p settings state ans).posted) : Vouched state.excludedTenants ans.feed q.alertId := by
  rw [posted_alertsPart hnone] at h
  have hmem := (List.mem_insertionSort _).1 (List.mem_of_mem_take h)
  rcases recorded_kept.postChosen (fun c hc => mem_mayRing_of_chosen (p := p) hc) q hmem with hkept | ⟨c, hc, rfl⟩
  · exact vouched_of_kept hkept
  · obtain ⟨hfeed, hunread, hvisible⟩ := mem_freshAlerts (mem_fresh_of_mayRing hc)
    exact .inl ⟨c.a, hfeed, rfl, hunread, hvisible⟩

end Pass

/-! ## Runs -/

/-- The record, and the record a pass in progress has read. -/
def PhoneInv (s : PhoneState) : Prop :=
  OnePerIncident s.server.postedAlerts ∧ ∀ r ∈ s.running, OnePerIncident r.2.postedAlerts

variable {s t : PhoneState} {op : PhoneOp}

theorem PhoneInv.startPass (h : PhoneInv s) (settings : PassSettings) (hasSession : Bool) :
    PhoneInv (startPass s settings hasSession) := by
  unfold Phone.startPass
  split
  · exact h
  · split
    · exact h
    · refine ⟨?_, fun r hr => ?_⟩
      · dsimp only
        split <;> exact h.1
      · obtain rfl := Option.some.inj hr
        dsimp only
        split <;> exact h.1

theorem PhoneInv.step (h : PhoneInv s) (hok : Unshared p s op) (hs : phoneStep p s op = some t) :
    PhoneInv t := by
  cases op with
  | startPass settings hasSession =>
      simp only [phoneStep] at hs
      split at hs
      · cases hs
      · exact Option.some.inj hs ▸ h.startPass settings hasSession
  | answered ans =>
      obtain ⟨⟨settings, state⟩, hrun, rfl⟩ := Option.map_eq_some_iff.1 hs
      refine ⟨(hok.2 _ hrun).alertsPart hok.1 (h.2 _ hrun), ?_⟩
      simp
  | failed =>
      obtain ⟨r, -, rfl⟩ := Option.map_eq_some_iff.1 hs
      refine ⟨h.1, ?_⟩
      simp
  | resolved ids =>
      simp only [phoneStep] at hs
      split at hs
      · cases hs
      · cases hs
        exact ⟨h.1.sublist List.filter_sublist, h.2⟩
  | markRead id =>
      simp only [phoneStep] at hs
      split at hs
      · cases hs
      · cases hs
        exact ⟨h.1.sublist List.filter_sublist, h.2⟩
  | edit excludedTenants inOnCall =>
      cases hs
      exact h
  | scope notify =>
      cases hs
      refine ⟨?_, h.2⟩
      dsimp only
      split
      · exact List.nodup_nil
      · exact h.1
  | signOut =>
      cases hs
      exact ⟨List.nodup_nil, h.2⟩
  | signIn =>
      cases hs
      refine ⟨?_, h.2⟩
      dsimp only
      split <;> exact h.1

/-- **One notification per incident, as long as no alert is recorded under an incident it shares; and
each pass leaves only entries its feed vouches for.** -/
theorem one_notification_per_incident (p : Platform) :
    (∀ s, Reach (phoneMachine p) (Unshared p) s → OnePerIncident s.server.postedAlerts) ∧
      ∀ s, Reach (phoneMachine p) (CarriesNoRecovery p) s → ∀ settings state ans t,
        s.running = some (settings, state) → CarriesNoRecovery p s (.answered ans) →
        phoneStep p s (.answered ans) = some t → ∀ q ∈ t.server.postedAlerts,
          Vouched state.excludedTenants ans.feed q.alertId := by
  refine ⟨fun s h => ?_, ?_⟩
  · have hinv : PhoneInv s := by
      refine h.invariant ?_ fun s op t hI hok hs => hI.step hok hs
      rintro s ⟨hserver, hrunning⟩
      rw [PhoneInv, hserver, hrunning]
      exact ⟨List.nodup_nil, by simp⟩
    exact hinv.1
  · intro s _ settings state ans t hrun hnone hs q hq
    obtain ⟨⟨settings', state'⟩, hrun', rfl⟩ := Option.map_eq_some_iff.1 hs
    obtain ⟨rfl, rfl⟩ := Prod.mk.inj (Option.some.inj (hrun.symm.trans hrun'))
    exact vouched_alertsPart hnone hq

/-- A platform whose texts are ASCII. -/
def asciiPlatform : Platform where
  fold := Char.toLower
  blank c := c = ' '
  digit c := if c.isDigit then some (c.toNat - 48) else none
  lineEnd c := c = '\n'
  uriPath url := if url = "https://obliance/devices/5" then some "/devices/5" else none
  parseTime _ := none

/-- Every alert rings, at any time. -/
def ringsAlways : PassSettings := ⟨.all, ⟨false, [], 0, 0, .none⟩, ⟨1, 0⟩, false⟩

/-- A whole pass that is answered with these alerts, its notifications accepted. -/
def wholePass (alerts : List LiveAlert) : List PhoneOp :=
  [.startPass ringsAlways true, .answered ⟨⟨alerts, none, some (alerts.map LiveAlert.id)⟩, fun _ => none,
    fun _ => true, fun _ => true⟩]

/-- An alert of device 5. -/
def deviceAlert (id : ℤ) (severity : Severity) (title navigateTo : String) : LiveAlert :=
  ⟨id, some 1, severity, title, some navigateTo, none, none, none⟩

/-- After the baseline the device warns, then is critical. -/
def warningThenCritical : List PhoneOp :=
  wholePass [] ++ wholePass [deviceAlert 1 .warning "pc: Alerte" "/devices/5"] ++
    wholePass [deviceAlert 2 .critical "pc: Critique" "/devices/5"]

theorem one_notification_of_two_alerts :
    ∃ s ∈ (phoneMachine asciiPlatform).exec ⟨.fresh, none⟩ warningThenCritical,
      s.server.postedAlerts.map PostedAlert.alertId = [2] ∧ OnePerIncident s.server.postedAlerts := by
  have hinit : (phoneMachine asciiPlatform).init ⟨.fresh, none⟩ := ⟨rfl, rfl⟩
  refine ⟨_, rfl, by decide, (one_notification_per_incident asciiPlatform).1 _ ?_⟩
  exact (Reach.start hinit).of_exec warningThenCritical (by decide) rfl

/-- After the baseline there are two alerts, with absolute URLs. -/
def absoluteUrls : List PhoneOp :=
  wholePass [] ++ wholePass [deviceAlert 1 .warning "pc: Alerte" "https://obliance/devices/5",
    deviceAlert 2 .critical "pc: Critique" "https://obliance/devices/5"]

theorem two_notifications_of_an_incident :
    ¬ ∀ s, Reach (phoneMachine asciiPlatform) (CarriesNoRecovery asciiPlatform) s →
      OnePerIncident s.server.postedAlerts := by
  have hinit : (phoneMachine asciiPlatform).init ⟨.fresh, none⟩ := ⟨rfl, rfl⟩
  intro h
  have htwo := h _ ((Reach.start hinit).of_exec absoluteUrls (by decide) rfl)
  revert htwo
  decide

end Obliance.Phone
