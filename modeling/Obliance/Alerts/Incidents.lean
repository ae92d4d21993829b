import Obliance.Alerts.Service

/-!
# One active row per incident

* `AlertInv` : the invariant; a raise that has read its rows has seen every active row of its
  incident, because only the holder of the lock inserts one;
* `alertStep_inv` : every operation and every statement keeps it;
* `one_active_row_per_incident` : over any run each incident has at most one active row in all
  tenants, and a device that left 'offline' and was resolved since has no active offline row.
-/

namespace Obliance.Alerts
open GuardedRun

/-- The device is offline, or has not been resolved since it was. -/
def OfflineOrUnrecovered (s : AlertState) (d : ℕ) : Prop :=
  (∃ dev, s.devices d = some dev ∧ dev.status = .offline) ∨ s.unrecovered d = true

/-- What `add` knows about the key of a call. -/
def CallOk : Call → Prop
  | .raise _ opts inc => parseIncidentStableKey opts.stableKey = some inc
  | .insert _ opts => parseIncidentStableKey opts.stableKey = none
  | _ => True

structure AlertInv (s : AlertState) : Prop where
  rows : AtMostOne s.alerts s.nextId
  calls : ∀ c ∈ s.calls, CallOk c
  held : ∀ inc r, s.holders inc = some r → parseIncidentStableKey r.opts.stableKey = some inc
  seen : ∀ inc r active, s.holders inc = some r → r.active = some active →
    ∀ a ∈ s.alerts, a.activeOf inc = true → ∃ b ∈ active, b.id = a.id
  openOffline : ∀ d r, s.holders ⟨.offline, d⟩ = some r → r.isOpen = true → OfflineOrUnrecovered s d
  rowOffline : ∀ d, ∀ a ∈ s.alerts, a.activeOf ⟨.offline, d⟩ = true → OfflineOrUnrecovered s d

variable {s : AlertState}

/-! ## Parts of a step -/

theorem AlertInv.shrink (h : AlertInv s) {alerts : List LiveAlert} (hs : Shrinks s.alerts alerts) :
    AlertInv { s with alerts := alerts } := by
  refine ⟨h.rows.shrinks hs, h.calls, h.held, ?_, h.openOffline, ?_⟩
  · intro inc r active hr ha a' ha' hact
    obtain ⟨a, hmem, hid, haact⟩ := activeOf_of_shrinks hs ha' hact
    obtain ⟨b, hb, hbid⟩ := h.seen inc r active hr ha a hmem haact
    exact ⟨b, hb, hbid.trans hid.symm⟩
  · intro d a' ha' hact
    obtain ⟨a, hmem, -, haact⟩ := activeOf_of_shrinks hs ha' hact
    exact h.rowOffline d a hmem haact

theorem AlertInv.withCalls (h : AlertInv s) {calls : List Call} (hc : ∀ c ∈ calls, CallOk c) :
    AlertInv { s with calls := calls } :=
  ⟨h.rows, hc, h.held, h.seen, h.openOffline, h.rowOffline⟩

theorem AlertInv.addCall (h : AlertInv s) {c : Call} (hc : CallOk c) :
    AlertInv { s with calls := s.calls ++ [c] } := by
  refine h.withCalls fun c' hc' => ?_
  rcases List.mem_append.1 hc' with hc' | hc'
  · exact h.calls c' hc'
  · exact List.mem_singleton.1 hc' ▸ hc

theorem AlertInv.setCall (h : AlertInv s) (i : ℕ) {c : Option Call} (hc : ∀ c', c = some c' → CallOk c') :
    AlertInv (setCall s i c) := by
  refine h.withCalls fun c' hc' => ?_
  cases c with
  | none => exact h.calls c' (List.mem_of_mem_eraseIdx hc')
  | some c =>
      rcases List.mem_or_eq_of_mem_set hc' with hc' | rfl
      · exact h.calls c' hc'
      · exact hc c' rfl

theorem AlertInv.release (h : AlertInv s) (inc : IncidentRef) :
    AlertInv (setHolder s inc none) := by
  have hold : ∀ inc' r, (setHolder s inc none).holders inc' = some r → s.holders inc' = some r := by
    intro inc' r hr
    by_cases he : inc' = inc
    · rw [he, setHolder_self] at hr
      cases hr
    · rwa [setHolder_of_ne s he] at hr
  exact ⟨h.rows, h.calls, fun inc' r hr => h.held inc' r (hold inc' r hr),
    fun inc' r active hr => h.seen inc' r active (hold inc' r hr),
    fun d r hr => h.openOffline d r (hold _ r hr), h.rowOffline⟩

/-- A row may be inserted when nobody holds the lock of its incident, no row of it is active and, for
an offline row, the device is offline or unrecovered. -/
theorem AlertInv.insert (h : AlertInv s) (tenantId : ℕ) (opts : AddOpts) (now : ℤ)
    (hfree : ∀ inc, parseIncidentStableKey opts.stableKey = some inc →
      s.holders inc = none ∧ (∀ a ∈ s.alerts, a.activeOf inc = false) ∧
        (inc.kind = .offline → OfflineOrUnrecovered s inc.deviceId)) :
    AlertInv { s with alerts := insertAlert s.alerts s.nextId tenantId opts now
                      nextId := s.nextId + 1 } := by
  have hnew : ∀ inc (a : LiveAlert), a.stableKey = opts.stableKey → a.activeOf inc = true →
      parseIncidentStableKey opts.stableKey = some inc := by
    intro inc a hkey hact
    rw [LiveAlert.activeOf, Bool.and_eq_true, LiveAlert.ofIncident, hkey] at hact
    cases hk : opts.stableKey with
    | none => rw [hk] at hact; simp at hact
    | some key =>
        rw [hk] at hact
        exact parse_of_mem_keys (of_decide_eq_true hact.1)
  refine ⟨h.rows.insert tenantId opts now fun inc hp => (hfree inc hp).2.1, h.calls, h.held, ?_,
    h.openOffline, ?_⟩
  · intro inc r active hr ha a hmem hact
    rcases List.mem_append.1 hmem with hmem | hmem
    · exact h.seen inc r active hr ha a hmem hact
    · rw [List.mem_singleton.1 hmem] at hact
      have hnone := (hfree inc (hnew inc _ rfl hact)).1
      rw [show s.holders inc = some r from hr] at hnone
      cases hnone
  · intro d a hmem hact
    rcases List.mem_append.1 hmem with hmem | hmem
    · exact h.rowOffline d a hmem hact
    · rw [List.mem_singleton.1 hmem] at hact
      exact (hfree _ (hnew _ _ rfl hact)).2.2 rfl

/-! ## Resolving and device writes -/

theorem AlertInv.resolveRefs (h : AlertInv s) (refs : List IncidentRef) (now : ℤ)
    (hfree : ∀ inc ∈ refs, s.holders inc = none) : AlertInv (resolveRefs s refs now) := by
  have hshrink := h.shrink (shrinks_resolveWhere s.alerts (fun a => refs.any fun inc => a.ofIncident inc) now)
  -- nothing of a resolved device depends on its recovery any more
  have hkeep : ∀ d, (⟨.offline, d⟩ : IncidentRef) ∉ refs → OfflineOrUnrecovered s d →
      OfflineOrUnrecovered (Alerts.resolveRefs s refs now) d := by
    intro d hd ho
    refine ho.imp id fun hu => ?_
    simp [Alerts.resolveRefs, hu, hd]
  refine ⟨hshrink.rows, h.calls, h.held, hshrink.seen, ?_, ?_⟩
  · intro d r hr hopen
    refine hkeep d (fun hm => ?_) (h.openOffline d r hr hopen)
    have hsome : s.holders ⟨.offline, d⟩ = some r := hr
    rw [hfree _ hm] at hsome
    cases hsome
  · intro d a ha hact
    have hactive : a.active = true := (Bool.and_eq_true _ _ ▸ hact).2
    obtain ⟨hold, hnot⟩ := mem_resolveWhere_active ha hactive
    refine hkeep d (fun hm => ?_) (h.rowOffline d a hold hact)
    have hof : a.ofIncident ⟨.offline, d⟩ = true := (Bool.and_eq_true _ _ ▸ hact).1
    have : (refs.any fun inc => a.ofIncident inc) = true := List.any_eq_true.2 ⟨_, hm, hof⟩
    rw [this] at hnot
    cases hnot

theorem AlertInv.writeDevice (h : AlertInv s) (id : ℕ) (d : Option AlertDevice) :
    AlertInv (writeDevice s id d) := by
  have hkeep : ∀ x, OfflineOrUnrecovered s x → OfflineOrUnrecovered (Alerts.writeDevice s id d) x := by
    rintro x (⟨dev, hdev, hst⟩ | hu)
    · by_cases hx : x = id
      · subst hx
        cases hoff : d.any fun d => decide (d.status = .offline) with
        | true =>
            cases d with
            | none => cases hoff
            | some dev' => exact .inl ⟨dev', Function.update_self _ _ _, of_decide_eq_true hoff⟩
        | false => exact .inr (by simp [Alerts.writeDevice, hdev, hst, hoff])
      · exact .inl ⟨dev, (Function.update_of_ne hx _ _).trans hdev, hst⟩
    · exact .inr (by simp [Alerts.writeDevice, hu])
  exact ⟨h.rows, h.calls, h.held, h.seen, fun x r hr ho => hkeep x (h.openOffline x r hr ho),
    fun x a ha hact => hkeep x (h.rowOffline x a ha hact)⟩

/-! ## Raises -/

theorem raiseOpen_offline {d : ℕ} (h : raiseOpen (s.devices d) ⟨.offline, d⟩ = true) :
    OfflineOrUnrecovered s d := by
  unfold raiseOpen at h
  cases hd : s.devices d with
  | none => rw [hd] at h; cases h
  | some dev =>
      rw [hd] at h
      exact .inl ⟨dev, hd, by simpa using h⟩

/-- A call takes the lock of its incident. -/
theorem AlertInv.acquire (h : AlertInv s) (tenantId : ℕ) {opts : AddOpts} {inc : IncidentRef}
    (hk : parseIncidentStableKey opts.stableKey = some inc) :
    AlertInv (setHolder s inc
      (some ⟨tenantId, opts, raiseOpen (s.devices inc.deviceId) inc, none⟩)) := by
  refine ⟨h.rows, h.calls, ?_, ?_, ?_, h.rowOffline⟩
  · intro inc' r hr
    by_cases he : inc' = inc
    · subst he
      obtain rfl := Option.some.inj ((setHolder_self _ _ _).symm.trans hr)
      exact hk
    · exact h.held inc' r ((setHolder_of_ne _ he _).symm.trans hr)
  · intro inc' r active hr ha
    by_cases he : inc' = inc
    · subst he
      obtain rfl := Option.some.inj ((setHolder_self _ _ _).symm.trans hr)
      cases ha
    · exact h.seen inc' r active ((setHolder_of_ne _ he _).symm.trans hr) ha
  · intro d r hr ho
    by_cases he : (⟨.offline, d⟩ : IncidentRef) = inc
    · subst he
      obtain rfl := Option.some.inj ((setHolder_self _ _ _).symm.trans hr)
      exact raiseOpen_offline ho
    · exact h.openOffline d r ((setHolder_of_ne _ he _).symm.trans hr) ho

theorem mem_readActive {inc : IncidentRef} {a : LiveAlert} :
    a ∈ readActive s.alerts inc ↔ a ∈ s.alerts ∧ a.activeOf inc = true := by
  rw [readActive, List.mem_insertionSort, List.mem_filter]

theorem AlertInv.read (h : AlertInv s) {inc : IncidentRef} {r : Raise} (hr : s.holders inc = some r) :
    AlertInv (setHolder s inc (some { r with active := some (readActive s.alerts inc) })) := by
  refine ⟨h.rows, h.calls, ?_, ?_, ?_, h.rowOffline⟩
  · intro inc' r' hr'
    by_cases he : inc' = inc
    · subst he
      obtain rfl := Option.some.inj ((setHolder_self _ _ _).symm.trans hr')
      exact h.held inc' r hr
    · exact h.held inc' r' ((setHolder_of_ne _ he _).symm.trans hr')
  · intro inc' r' active hr' hact a ha haact
    by_cases he : inc' = inc
    · subst he
      obtain rfl := Option.some.inj ((setHolder_self _ _ _).symm.trans hr')
      obtain rfl := Option.some.inj hact
      exact ⟨a, mem_readActive.2 ⟨ha, haact⟩, rfl⟩
    · exact h.seen inc' r' active ((setHolder_of_ne _ he _).symm.trans hr') hact a ha haact
  · intro d r' hr' ho
    by_cases he : (⟨.offline, d⟩ : IncidentRef) = inc
    · subst he
      obtain rfl := Option.some.inj ((setHolder_self _ _ _).symm.trans hr')
      exact h.openOffline d r hr ho
    · exact h.openOffline d r' ((setHolder_of_ne _ he _).symm.trans hr') ho

/-- When the raise keeps no row, none of its incident is active after its updates. -/
theorem none_active_after_stale (h : AlertInv s) {inc : IncidentRef} {r : Raise}
    {active : List LiveAlert} (hr : s.holders inc = some r) (ha : r.active = some active) (now : ℤ) :
    ∀ a ∈ resolveWhere s.alerts (fun a => decide (a.id ∈ raiseStale none active)) now,
      a.activeOf inc = false := by
  intro a hmem
  by_contra hact
  rw [Bool.not_eq_false] at hact
  have hactive : a.active = true := (Bool.and_eq_true _ _ ▸ hact).2
  obtain ⟨hold, hnot⟩ := mem_resolveWhere_active hmem hactive
  obtain ⟨b, hb, hid⟩ := h.seen inc r active hr ha a hold hact
  have : a.id ∈ raiseStale none active := by
    rw [raiseStale, List.mem_map]
    exact ⟨b, List.mem_filter.2 ⟨hb, rfl⟩, hid⟩
  simp [this] at hnot

theorem raiseCommit_inv (h : AlertInv s) {inc : IncidentRef} {now : ℤ} {t : AlertState}
    (hs : raiseCommit s inc now = some t) : AlertInv t := by
  unfold raiseCommit at hs
  cases hr : s.holders inc with
  | none => rw [hr] at hs; cases hs
  | some r =>
      rw [hr] at hs
      cases ha : r.active with
      | none => simp only [ha] at hs; cases hs
      | some active =>
          simp only [ha] at hs
          rcases commitRaise_cases s.alerts s.nextId r.isOpen active r.tenantId r.opts now with
            ⟨he, -⟩ | ⟨he, -, hopen⟩
          · rw [he] at hs
            rw [← Option.some.inj hs]
            exact (h.release inc).shrink (shrinks_resolveWhere _ _ _)
          · rw [he] at hs
            rw [← Option.some.inj hs]
            refine (((h.release inc).shrink (shrinks_resolveWhere _ _ _)).insert r.tenantId r.opts now
              fun inc' hp => ?_).addCall trivial
            obtain rfl : inc' = inc := Option.some.inj (hp.symm.trans (h.held inc r hr))
            refine ⟨setHolder_self _ _ _, none_active_after_stale h hr ha now, fun hk => ?_⟩
            obtain ⟨kind, d⟩ := inc'
            subst hk
            exact h.openOffline d r hr hopen

/-! ## Steps and runs -/

theorem runCall_inv (h : AlertInv s) {i : ℕ} {now : ℤ} {t : AlertState}
    (hs : runCall s i now = some t) : AlertInv t := by
  unfold runCall at hs
  cases hc : s.calls[i]? with
  | none => rw [hc] at hs; cases hs
  | some c =>
      have hok := h.calls c (List.mem_of_getElem? hc)
      rw [hc] at hs
      cases c with
      | raise tenantId opts inc =>
          dsimp only at hs
          split at hs
          · cases hs
          · rw [← Option.some.inj hs]
            exact (h.setCall i (c := none) (by simp)).acquire tenantId hok
      | insert tenantId opts =>
          rw [← Option.some.inj hs]
          refine (h.setCall i (c := some (.trim tenantId)) (by rintro _ ⟨⟩; trivial)).insert
            tenantId opts now fun inc hp => ?_
          rw [show parseIncidentStableKey opts.stableKey = none from hok] at hp
          cases hp
      | trim tenantId =>
          rw [← Option.some.inj hs]
          exact (h.setCall i (c := none) (by simp)).shrink (shrinks_deleteWhere _ _)
      | resolve refs =>
          dsimp only at hs
          split at hs
          · cases hs
          · rename_i hlock
            rw [← Option.some.inj hs]
            have hfree : ∀ inc ∈ refs.take resolveChunk, s.holders inc = none := by
              intro inc hinc
              by_contra hne
              refine hlock (List.any_eq_true.2 ⟨inc, hinc, ?_⟩)
              exact Option.isSome_iff_ne_none.2 hne
            refine (h.resolveRefs _ now hfree).setCall i ?_
            intro c' hc'
            split at hc'
            · cases hc'
            · rw [← Option.some.inj hc']
              trivial
      | mute todo ids =>
          rw [← Option.some.inj hs]
          refine (h.setCall i (c := some _) ?_).shrink (shrinks_readWhere _ _ _)
          rintro _ ⟨⟩
          split <;> trivial

/-- **Every operation and every statement keeps the invariant.** -/
theorem alertStep_inv (h : AlertInv s) {op : AlertOp} {t : AlertState} (hs : alertStep s op = some t) :
    AlertInv t := by
  cases op with
  | add tenantId opts =>
      rw [← Option.some.inj hs]
      unfold startAdd
      cases hk : parseIncidentStableKey opts.stableKey with
      | some inc => exact h.addCall hk
      | none =>
          dsimp only
          split
          · exact h
          · exact h.addCall hk
  | resolveIncidents kind ids =>
      rw [← Option.some.inj hs]
      exact h.addCall trivial
  | resolveDeviceIncidents ids =>
      rw [← Option.some.inj hs]
      exact h.addCall trivial
  | resolveMutedMetricAlerts ids =>
      simp only [alertStep] at hs
      split at hs
      · exact Option.some.inj hs ▸ h
      · rw [← Option.some.inj hs]
        exact h.addCall trivial
  | run i now => exact runCall_inv h hs
  | raiseRead inc =>
      simp only [alertStep, raiseRead] at hs
      cases hr : s.holders inc with
      | none => rw [hr] at hs; cases hs
      | some r =>
          rw [hr] at hs
          dsimp only at hs
          split at hs
          · cases hs
          · rw [← Option.some.inj hs]
            exact h.read hr
  | raiseCommit inc now => exact raiseCommit_inv h hs
  | raiseAbort inc => exact Option.some.inj hs ▸ h.release inc
  | dropCall i => exact Option.some.inj hs ▸ h.setCall i (c := none) (by simp)
  | markRead id tenantId now => exact Option.some.inj hs ▸ h.shrink (shrinks_readWhere _ _ _)
  | markAllRead tenantId now => exact Option.some.inj hs ▸ h.shrink (shrinks_readWhere _ _ _)
  | deleteAlert id => exact Option.some.inj hs ▸ h.shrink (shrinks_deleteWhere _ _)
  | clearAll tenantId => exact Option.some.inj hs ▸ h.shrink (shrinks_deleteWhere _ _)
  | cleanup before => exact Option.some.inj hs ▸ h.shrink (shrinks_deleteWhere _ _)
  | createDevice id tenantId status =>
      simp only [alertStep] at hs
      split at hs
      · cases hs
      · exact Option.some.inj hs ▸ h.writeDevice id _
  | writeStatus id status => exact Option.some.inj hs ▸ h.writeDevice id _
  | moveDevice id tenantId => exact Option.some.inj hs ▸ h.writeDevice id _
  | deleteDevice id => exact Option.some.inj hs ▸ h.writeDevice id _

theorem inv_of_init (h : alertMachine.init s) : AlertInv s := by
  obtain ⟨ha, hc, hh⟩ := h
  refine ⟨⟨?_, ?_, ?_⟩, ?_, ?_, ?_, ?_, ?_⟩
  · rw [ha]; exact List.nodup_nil
  · rw [ha]; simp
  · rw [ha]; simp
  · rw [hc]; simp
  · intro inc r hr; rw [hh] at hr; cases hr
  · intro inc r active hr; rw [hh] at hr; cases hr
  · intro d r hr; rw [hh] at hr; cases hr
  · rw [ha]; simp

/-- **One active row per incident**, over all tenants and any interleaving; and a device that is not
offline, and was resolved each time it left 'offline', has no active offline row. -/
theorem one_active_row_per_incident (h : Reach alertMachine anyStep s) :
    (∀ inc, (s.alerts.filter (LiveAlert.activeOf inc)).length ≤ 1) ∧
      ∀ d, s.unrecovered d = false → (∀ dev, s.devices d = some dev → dev.status ≠ .offline) →
        ∀ a ∈ s.alerts, a.activeOf ⟨.offline, d⟩ = false := by
  have hinv : AlertInv s := h.invariant (fun _ => inv_of_init) fun _ _ _ hi _ hs => alertStep_inv hi hs
  refine ⟨hinv.rows.count_le_one, fun d hu hoff a ha => ?_⟩
  by_contra hact
  rw [Bool.not_eq_false] at hact
  rcases hinv.rowOffline d a ha hact with ⟨dev, hdev, hst⟩ | hun
  · exact hoff dev hdev hst
  · rw [hu] at hun
    cases hun

/-- An offline alert of device 5 is raised; the device moves to another tenant, where it is raised
again; then the device comes back and is resolved. -/
theorem one_active_row_after_move :
    ∃ s, Reach alertMachine anyStep s ∧ s.alerts.length = 2 ∧ s.unrecovered 5 = false ∧
      (∀ inc, (s.alerts.filter (LiveAlert.activeOf inc)).length ≤ 1) ∧
      ∀ a ∈ s.alerts, a.activeOf ⟨.offline, 5⟩ = false := by
  let opts : AddOpts := ⟨.critical, "Offline", "", none, some "device:5:offline"⟩
  have h0 : Reach alertMachine anyStep
      ⟨[], 1, fun _ => none, fun _ => none, [], fun _ => false⟩ := .start ⟨rfl, rfl, fun _ => rfl⟩
  have h1 := h0.next (.createDevice 5 1 .offline) trivial rfl
  have h2 := h1.next (.add 1 opts) trivial rfl
  have h3 := h2.next (.run 0 10) trivial rfl
  have h4 := h3.next (.raiseRead ⟨.offline, 5⟩) trivial rfl
  have h5 := h4.next (.raiseCommit ⟨.offline, 5⟩ 11) trivial rfl
  have h6 := h5.next (.moveDevice 5 2) trivial rfl
  have h7 := h6.next (.add 2 opts) trivial rfl
  have h8 := h7.next (.run 1 20) trivial rfl
  have h9 := h8.next (.raiseRead ⟨.offline, 5⟩) trivial rfl
  have h10 := h9.next (.raiseCommit ⟨.offline, 5⟩ 21) trivial rfl
  have h11 := h10.next (.writeStatus 5 .online) trivial rfl
  have h12 := h11.next (.resolveIncidents .offline [5]) trivial rfl
  have h13 := h12.next (.run 2 30) trivial rfl
  obtain ⟨hone, hoff⟩ := one_active_row_per_incident h13
  refine ⟨_, h13, rfl, rfl, hone, hoff 5 rfl ?_⟩
  rintro dev ⟨⟩
  decide

end Obliance.Alerts
