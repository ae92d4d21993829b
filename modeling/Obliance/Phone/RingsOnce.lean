import Mathlib.Data.Finset.Max
import Obliance.Phone.OnePerIncident
import Obliance.Phone.Ringing

/-!
# Every alert rings once (`notifications` `NotificationPass.kt`, `services/liveAlert.service.ts`)

* `le_process_mark`, `mem_process` : what the mark lets through, and where it moves;
* `rang_perm` : a quiet pass posts the newest alert of each incident that may ring;
* `RingInv` : the rows of the feeds so far are not above the mark, and those that should have rung did;
* `rings_once` : when no row comes up below the mark, every critical alert rings once.
-/

namespace Obliance.Phone
open GuardedRun KeyedTable
open Obliance.Alerts (Severity IncidentRef AlertState AlertOp alertStep alertMachine getForTenants
  activeOfTenants mem_activeOfTenants getForTenants_perm Fades Grows alertStep_grows raiseKeep)

/-! ## The mark -/

section Mark
variable {alerts : List LiveAlert} {highWater : Option ℤ} {n : ℕ} {a : LiveAlert}

/-- The newest id of a feed with an alert in it. -/
theorem exists_max (ha : a ∈ alerts) : ∃ maxId, (alerts.map LiveAlert.id).max? = some maxId ∧ a.id ≤ maxId := by
  have hid : a.id ∈ alerts.map LiveAlert.id := List.mem_map_of_mem ha
  cases hmax : (alerts.map LiveAlert.id).max? with
  | none =>
      rw [List.max?_eq_none_iff] at hmax
      rw [hmax] at hid
      exact absurd hid List.not_mem_nil
  | some maxId => exact ⟨maxId, rfl, (List.max?_eq_some_iff.1 hmax).2 _ hid⟩

/-- After a pass no alert of the feed is above the mark. -/
theorem le_process_mark (ha : a ∈ alerts) : a.id ≤ (process alerts highWater n).2 := by
  obtain ⟨maxId, hmax, hle⟩ := exists_max ha
  unfold process
  rw [hmax]
  cases highWater with
  | none => exact hle
  | some mark =>
      dsimp only
      split
      · exact hle
      · exact hle.trans (le_max_right _ _)

/-- An unread alert above the mark is fresh. -/
theorem mem_process {mark : ℤ} (ha : a ∈ alerts) (hunread : a.readAt = none) (habove : mark < a.id)
    (hn : alerts.length ≤ n) : a ∈ (process alerts (some mark) n).1 := by
  obtain ⟨maxId, hmax, hle⟩ := exists_max ha
  unfold process
  rw [hmax]
  dsimp only
  rw [if_neg (by omega)]
  have hfew : (sortedById (alerts.filter fun a => decide (mark < a.id) && a.readAt.isNone)).length ≤ n := by
    rw [sortedById, List.length_insertionSort]
    exact (List.length_filter_le _ _).trans hn
  rw [Nat.sub_eq_zero_of_le hfew, List.drop_zero, mem_sortedById, List.mem_filter]
  exact ⟨ha, by simp [habove, hunread]⟩

/-- An alert of the feed is fresh once. -/
theorem nodup_process (h : (alerts.map LiveAlert.id).Nodup) : ((process alerts highWater n).1.map LiveAlert.id).Nodup := by
  unfold process
  split
  · exact List.nodup_nil
  · exact List.nodup_nil
  · split
    · exact List.nodup_nil
    · dsimp only
      refine List.Nodup.sublist ((List.drop_sublist _ _).map _) ?_
      refine ((List.perm_insertionSort _ _).map _).nodup_iff.2 ?_
      exact h.sublist (List.filter_sublist.map _)

end Mark

/-! ## A quiet pass -/

section Quiet
variable {p : Platform} {onCall : OnCallSettings} {time : LocalTime} {state : ServerNotifState} {ans : PassAnswer}
  {settings : PassSettings} {ring : List Candidate} {c : Candidate}

theorem freshAlerts_of_quiet (h : state.excludedTenants = []) :
    freshAlerts state ans.feed = (process ans.feed.alerts state.alertsMark 2147483647).1 := by
  rw [freshAlerts, List.filter_eq_self]
  intro a _
  rw [isVisible, h]
  cases a.tenantId <;> simp

/-- A critical alert that is no recovery may ring. -/
theorem exists_mayRing {a : LiveAlert} (ha : a ∈ freshAlerts state ans.feed) (hcritical : a.severity = .critical)
    (hcategory : category p a.title ≠ .recovery) :
    ∃ c ∈ mayRing p (quietSettings onCall time) state ans, c.a = a := by
  have hcandidate (isServer : Bool) : ∃ c, candidate p (quietSettings onCall time) state.inOnCall a isServer = some c := by
    simp [candidate, rank, hcategory, hcritical, quietSettings, delivery]
  obtain ⟨c, hc⟩ := hcandidate (((deviceHints p ans (freshAlerts state ans.feed)).reverse.find?
    fun h => decide (h.1 = a.id)).any Prod.snd)
  exact ⟨c, List.mem_filterMap.2 ⟨a, ha, hc⟩, alert_of_candidate hc⟩

theorem map_filterMap_sublist {f : LiveAlert → Option Candidate} (hf : ∀ a c, f a = some c → c.a = a)
    (alerts : List LiveAlert) : ((alerts.filterMap f).map Candidate.a).Sublist alerts := by
  induction alerts with
  | nil => exact .slnil
  | cons a alerts ih =>
      cases hc : f a with
      | none =>
          rw [List.filterMap_cons_none hc]
          exact ih.cons a
      | some c =>
          rw [List.filterMap_cons_some hc, List.map_cons, hf a c hc]
          exact ih.cons_cons a

/-- The alerts that may ring are fresh ones, each once. -/
theorem mayRing_sublist : ((mayRing p settings state ans).map Candidate.a).Sublist (freshAlerts state ans.feed) :=
  map_filterMap_sublist (fun _ _ hc => alert_of_candidate hc) _

theorem isNewest_of_key {key : IncidentRef} (hkey : incidentKey p c.a = some key)
    (h : ∀ x ∈ ring, incidentKey p x.a = some key → x.a.id ≤ c.a.id) : isNewest p ring c = true := by
  rw [isNewest, hkey, Option.all_some, List.all_eq_true]
  intro x hx
  exact decide_eq_true (h x hx)

/-- An alert that may ring, or a newer one of its incident, is the newest. -/
theorem exists_newest (hc : c ∈ ring) : ∃ c' ∈ ring, isNewest p ring c' = true ∧
    (c' = c ∨ c.a.id < c'.a.id ∧ (incidentKey p c'.a).isSome ∧ incidentKey p c'.a = incidentKey p c.a) := by
  cases hkey : incidentKey p c.a with
  | none => exact ⟨c, hc, by simp [isNewest, hkey], .inl rfl⟩
  | some key =>
      have hmem : c ∈ (ring.filter fun c => decide (incidentKey p c.a = some key)).toFinset := by
        simp [hc, hkey]
      obtain ⟨c', hc', hmax⟩ := Finset.exists_max_image _ (fun c => c.a.id) ⟨c, hmem⟩
      rw [List.mem_toFinset, List.mem_filter, decide_eq_true_eq] at hc'
      have hnewest : ∀ x ∈ ring, incidentKey p x.a = some key → x.a.id ≤ c'.a.id := fun x hx hk =>
        hmax x (by simp [hx, hk])
      rcases (hnewest c hc hkey).eq_or_lt with heq | hlt
      · exact ⟨c, hc, isNewest_of_key hkey fun x hx hk => (hnewest x hx hk).trans_eq heq.symm, .inl rfl⟩
      · exact ⟨c', hc'.1, isNewest_of_key hc'.2 hnewest, .inr ⟨hlt, by simp [hc'.2], hc'.2⟩⟩

/-- **A pass whose notifications are accepted posts the newest of each incident**, up to the cap. -/
theorem rang_perm (haccepts : ∀ i, ans.accepts i = true)
    (hfew : (freshAlerts state ans.feed).length ≤ maxPerServer) :
    (alertsPart p settings state ans).rang.Perm
      (((mayRing p settings state ans).filter (isNewest p (mayRing p settings state ans))).map Candidate.a) := by
  have hlength : (mayRing p settings state ans).length ≤ maxPerServer := by
    have hsub : ((mayRing p settings state ans).map Candidate.a).Sublist (freshAlerts state ans.feed) :=
      mayRing_sublist
    have hle := hsub.length_le
    rw [List.length_map] at hle
    exact hle.trans hfew
  have hcalls : (alertsPart p settings state ans).rang =
      (chosen p (mayRing p settings state ans)).reverse.map Candidate.a := by
    simp only [alertsPart, haccepts, List.filter_true]
    rw [← Function.comp_def Candidate.a Prod.fst, ← List.map_map, List.zipIdx_map_fst]
  rw [hcalls]
  refine (List.reverse_perm _).map _ |>.trans (List.Perm.map _ ?_)
  have hsorted := List.perm_insertionSort (moreUrgent p)
    ((mayRing p settings state ans).filter (isNewest p (mayRing p settings state ans)))
  rw [chosen, List.take_of_length_le]
  · exact hsorted
  · rw [hsorted.length_eq]
    exact (List.length_filter_le _ _).trans hlength

end Quiet

/-! ## The ids of the server -/

/-- The ids of the rows, those taken and those seen by the phone. -/
structure IdsInv (server : AlertState) (taken : IncidentRef → Option ℕ) (seen : List ℕ) : Prop where
  keyed : Keyed Alerts.LiveAlert.id server.alerts
  used : ∀ a ∈ server.alerts, a.id < server.nextId
  seen_used : ∀ id ∈ seen, id < server.nextId
  taken_used : ∀ inc id, taken inc = some id → id < server.nextId ∧ id ∉ seen ∧ ∀ a ∈ server.alerts, a.id ≠ id
  distinct : ∀ inc inc' id, taken inc = some id → taken inc' = some id → inc = inc'

section Ids
variable {server server' : AlertState} {taken taken' : IncidentRef → Option ℕ} {seen : List ℕ}

/-- A feed shows rows of the table. -/
theorem IdsInv.see (h : IdsInv server taken seen) {rows : List Alerts.LiveAlert} (hrows : ∀ r ∈ rows, r ∈ server.alerts) :
    IdsInv server taken (seen ++ rows.map Alerts.LiveAlert.id) := by
  refine ⟨h.keyed, h.used, fun id hid => ?_, fun inc id hinc => ?_, h.distinct⟩
  · rcases List.mem_append.1 hid with hid | hid
    · exact h.seen_used id hid
    · obtain ⟨r, hr, rfl⟩ := List.mem_map.1 hid
      exact h.used r (hrows r hr)
  · obtain ⟨hlt, hseen, hfree⟩ := h.taken_used inc id hinc
    refine ⟨hlt, fun hid => ?_, hfree⟩
    rcases List.mem_append.1 hid with hid | hid
    · exact hseen hid
    · obtain ⟨r, hr, heq⟩ := List.mem_map.1 hid
      exact hfree r (hrows r hr) heq

theorem IdsInv.fades (h : IdsInv server taken seen) (hfades : Fades server.alerts server'.alerts)
    (hnext : server.nextId ≤ server'.nextId) (htaken : ∀ inc id, taken' inc = some id → taken inc = some id) :
    IdsInv server' taken' seen := by
  have hmem : ∀ a ∈ server'.alerts, ∃ b ∈ server.alerts, b.id = a.id := fun a ha =>
    List.mem_map.1 (hfades.ids.subset (List.mem_map_of_mem ha))
  refine ⟨h.keyed.sublist hfades.ids, ?_, fun id hid => (h.seen_used id hid).trans_le hnext, ?_,
    fun inc inc' id hinc hinc' => h.distinct inc inc' id (htaken _ _ hinc) (htaken _ _ hinc')⟩
  · intro a ha
    obtain ⟨b, hb, hid⟩ := hmem a ha
    exact hid ▸ (h.used b hb).trans_le hnext
  · intro inc id hinc
    obtain ⟨hlt, hseen, hrows⟩ := h.taken_used inc id (htaken _ _ hinc)
    refine ⟨hlt.trans_le hnext, hseen, fun a ha => ?_⟩
    obtain ⟨b, hb, hid⟩ := hmem a ha
    exact hid ▸ hrows b hb

/-- A row is inserted, with an id that is nobody else's. -/
theorem IdsInv.insert (h : IdsInv server taken seen) {row : Alerts.LiveAlert}
    (halerts : server'.alerts = server.alerts ++ [row]) (hnext : server.nextId ≤ server'.nextId)
    (hrow : row.id < server'.nextId) (hfresh : ∀ a ∈ server.alerts, a.id ≠ row.id)
    (htaken : ∀ inc id, taken' inc = some id → taken inc = some id ∧ id ≠ row.id) : IdsInv server' taken' seen := by
  refine ⟨?_, ?_, fun id hid => (h.seen_used id hid).trans_le hnext, ?_,
    fun inc inc' id hinc hinc' => h.distinct inc inc' id (htaken _ _ hinc).1 (htaken _ _ hinc').1⟩
  · rw [halerts]
    exact nodup_append h.keyed (get_eq_none_iff.2 hfresh)
  · intro a ha
    rw [halerts, List.mem_append, List.mem_singleton] at ha
    rcases ha with ha | rfl
    · exact (h.used a ha).trans_le hnext
    · exact hrow
  · intro inc id hinc
    obtain ⟨hold, hne⟩ := htaken inc id hinc
    obtain ⟨hlt, hseen, hrows⟩ := h.taken_used inc id hold
    refine ⟨hlt.trans_le hnext, hseen, fun a ha => ?_⟩
    rw [halerts, List.mem_append, List.mem_singleton] at ha
    rcases ha with ha | rfl
    · exact hrows a ha
    · exact hne.symm

end Ids

/-- A step of the server: an active row was one before, or its id is not one the phone has seen. -/
structure ServerMoves (s : RingState) (server : AlertState) (taken : IncidentRef → Option ℕ) : Prop where
  ids : IdsInv server taken s.seen
  rows : ∀ r' ∈ server.alerts, r'.active = true →
    (∃ r ∈ s.server.alerts, r.active = true ∧ r.id = r'.id ∧ r.tenantId = r'.tenantId ∧
      (r'.readAt = none → r = r')) ∨ r'.id ∉ s.seen

section Server
variable {s t : RingState} {server : AlertState} {taken : IncidentRef → Option ℕ}

theorem ServerMoves.fades (h : IdsInv s.server s.taken s.seen) (hfades : Fades s.server.alerts server.alerts)
    (hnext : s.server.nextId ≤ server.nextId) (htaken : ∀ inc id, taken inc = some id → s.taken inc = some id) :
    ServerMoves s server taken :=
  ⟨h.fades hfades hnext htaken, fun r' hr' hact => .inl (hfades.rows r' hr' hact)⟩

theorem ServerMoves.insert (h : IdsInv s.server s.taken s.seen) {left : List Alerts.LiveAlert}
    {row : Alerts.LiveAlert} (hfades : Fades s.server.alerts left) (halerts : server.alerts = left ++ [row])
    (hnext : s.server.nextId ≤ server.nextId) (hrow : row.id < server.nextId) (hseen : row.id ∉ s.seen)
    (hfresh : ∀ a ∈ s.server.alerts, a.id ≠ row.id)
    (htaken : ∀ inc id, taken inc = some id → s.taken inc = some id ∧ id ≠ row.id) :
    ServerMoves s server taken := by
  have hleft : IdsInv { s.server with alerts := left } s.taken s.seen :=
    h.fades hfades le_rfl fun _ _ hinc => hinc
  have hfreshLeft : ∀ a ∈ left, a.id ≠ row.id := by
    intro a ha
    obtain ⟨b, hb, hid⟩ := List.mem_map.1 (hfades.ids.subset (List.mem_map_of_mem ha))
    exact hid ▸ hfresh b hb
  refine ⟨hleft.insert halerts hnext hrow hfreshLeft htaken, fun r' hr' hact => ?_⟩
  rw [halerts, List.mem_append, List.mem_singleton] at hr'
  rcases hr' with hr' | rfl
  · exact .inl (hfades.rows r' hr' hact)
  · exact .inr hseen

/-- A statement inserts at most one row, with the next id. -/
theorem ServerMoves.of_grows (h : IdsInv s.server s.taken s.seen) (hgrows : Grows s.server server)
    (htaken : ∀ inc id, taken inc = some id → s.taken inc = some id) : ServerMoves s server taken := by
  rcases hgrows with ⟨hfades, hnext⟩ | ⟨left, row, hfades, halerts, hid, hnext⟩
  · exact .fades h hfades hnext.ge htaken
  · refine .insert h hfades halerts (by omega) (by omega) ?_ ?_ ?_
    · exact fun hmem => absurd (h.seen_used _ hmem) (by omega)
    · intro a ha
      have hlt := h.used a ha
      omega
    · intro inc id hinc
      have hlt := (h.taken_used inc id (htaken inc id hinc)).1
      exact ⟨htaken inc id hinc, by omega⟩

theorem of_update_none {inc inc' : IncidentRef} {id : ℕ}
    (h : Function.update s.taken inc none inc' = some id) : inc' ≠ inc ∧ s.taken inc' = some id := by
  by_cases hinc : inc' = inc
  · rw [hinc, Function.update_self] at h
    cases h
  · rw [Function.update_of_ne hinc] at h
    exact ⟨hinc, h⟩

theorem serverStep_moves (h : IdsInv s.server s.taken s.seen) {op : AlertOp} (hs : serverStep s op = some t) :
    ∃ server taken, t = { s with server := server, taken := taken } ∧ ServerMoves s server taken := by
  unfold serverStep at hs
  split at hs
  · cases hs
  · obtain ⟨server, hserver, rfl⟩ := Option.map_eq_some_iff.1 hs
    exact ⟨server, _, rfl, .of_grows h (alertStep_grows hserver) fun _ _ hinc => (of_update_none hinc).2⟩
  · obtain ⟨server, hserver, rfl⟩ := Option.map_eq_some_iff.1 hs
    exact ⟨server, _, rfl, .of_grows h (alertStep_grows hserver) fun _ _ hinc => hinc⟩

theorem raiseInsert_moves (h : IdsInv s.server s.taken s.seen) {inc : IncidentRef}
    (hs : raiseInsert s inc = some t) :
    ∃ server taken, t = { s with server := server, taken := taken } ∧ ServerMoves s server taken := by
  unfold raiseInsert at hs
  split at hs
  · rename_i hinsert
    cases hs
    refine ⟨_, _, rfl, ?_, fun r' hr' hact => .inl ⟨r', hr', hact, rfl, rfl, fun _ => rfl⟩⟩
    have hold : ∀ inc' id, Function.update s.taken inc (some s.server.nextId) inc' = some id →
        inc' = inc ∧ id = s.server.nextId ∨ s.taken inc' = some id ∧ id < s.server.nextId := by
      intro inc' id hinc'
      by_cases heq : inc' = inc
      · rw [heq, Function.update_self] at hinc'
        exact .inl ⟨heq, (Option.some.inj hinc').symm⟩
      · rw [Function.update_of_ne heq] at hinc'
        exact .inr ⟨hinc', (h.taken_used inc' id hinc').1⟩
    refine ⟨h.keyed, fun a ha => (h.used a ha).trans (Nat.lt_succ_self _),
      fun id hid => (h.seen_used id hid).trans (Nat.lt_succ_self _), ?_, ?_⟩
    · intro inc' id hinc'
      rcases hold inc' id hinc' with ⟨-, rfl⟩ | ⟨hbefore, hlt⟩
      · refine ⟨Nat.lt_succ_self _, fun hmem => (h.seen_used _ hmem).false, fun a ha => (h.used a ha).ne⟩
      · obtain ⟨-, hseen, hrows⟩ := h.taken_used inc' id hbefore
        exact ⟨hlt.trans (Nat.lt_succ_self _), hseen, hrows⟩
    · intro inc₁ inc₂ id h₁ h₂
      rcases hold inc₁ id h₁ with ⟨rfl, rfl⟩ | ⟨h₁, hlt₁⟩ <;> rcases hold inc₂ _ h₂ with ⟨rfl, heq⟩ | ⟨h₂, hlt₂⟩
      · rfl
      · omega
      · omega
      · exact h.distinct inc₁ inc₂ id h₁ h₂
  · cases hs

theorem commitRaise_moves (h : IdsInv s.server s.taken s.seen) {inc : IncidentRef} {now : ℤ}
    (hs : commitRaise s inc now = some t) :
    ∃ server taken, t = { s with server := server, taken := taken } ∧ ServerMoves s server taken := by
  unfold commitRaise at hs
  cases htaken : s.taken inc with
  | none =>
      rw [htaken] at hs
      dsimp only at hs
      split at hs
      · cases hs
      · obtain ⟨server, hserver, rfl⟩ := Option.map_eq_some_iff.1 hs
        exact ⟨server, _, rfl, .of_grows h (alertStep_grows hserver) fun _ _ hinc => hinc⟩
  | some id =>
      rw [htaken] at hs
      obtain ⟨server, hserver, rfl⟩ := Option.map_eq_some_iff.1 hs
      obtain ⟨hlt, hseen, hrows⟩ := h.taken_used inc id htaken
      refine ⟨_, _, rfl, ?_⟩
      rcases alertStep_grows hserver with ⟨hfades, -⟩ | ⟨left, row, hfades, halerts, hid, -⟩
      · exact .fades h hfades le_rfl fun _ _ hinc => (of_update_none hinc).2
      · have hrow : row.id = id := hid
        refine .insert h hfades halerts le_rfl (hrow ▸ hlt) (hrow ▸ hseen) (hrow ▸ hrows) fun inc' id' hinc' => ?_
        obtain ⟨hne, hbefore⟩ := of_update_none hinc'
        exact ⟨hbefore, fun heq => hne (h.distinct inc' inc id' hbefore (heq ▸ hrow ▸ htaken))⟩

end Server

/-! ## The invariant -/

/-- Nothing but passes has touched the phone. -/
structure PhoneQuiet (s : PhoneState) : Prop where
  idle : s.running = none
  shown : s.server.excludedTenants = []
  signedIn : s.server.signedOutByUser = false
  notified : s.server.lastNotify ≠ some .none

/-- The row was posted, or a newer one of its incident. -/
def Rung (p : Platform) (rang : List LiveAlert) (r : Alerts.LiveAlert) : Prop :=
  ∃ a ∈ rang, a.id = (r.id : ℤ) ∨ SupersededBy p r a

structure RingInv (p : Platform) (tenantIds : List ℕ) (s : RingState) : Prop where
  ids : IdsInv s.server s.taken s.seen
  quiet : PhoneQuiet s.phone
  first : s.phone.server.alertsMark = none → s.seen = []
  marked : ∀ r ∈ activeOfTenants s.server.alerts tenantIds, r.id ∈ s.seen →
    ∀ mark ∈ s.phone.server.alertsMark, (r.id : ℤ) ≤ mark
  rang_seen : ∀ a ∈ s.rang, ∃ id ∈ s.seen, a.id = (id : ℤ)
  rang_once : (s.rang.map LiveAlert.id).Nodup
  rung : ∀ r ∈ activeOfTenants s.server.alerts tenantIds, isUrgent r = true → r.id ∈ s.seen →
    r.id ∈ s.baseline ∨ Rung p s.rang r
  noticed : ∀ r ∈ s.noticed, r.id ∈ s.seen ∧ (r.id ∈ s.baseline ∨ Rung p s.rang r)

section Inv
variable {p : Platform} {tenantIds : List ℕ} {s t : RingState}

theorem Rung.append {rang : List LiveAlert} {r : Alerts.LiveAlert} (h : Rung p rang r) (more : List LiveAlert) :
    Rung p (rang ++ more) r := by
  obtain ⟨a, ha, hrung⟩ := h
  exact ⟨a, List.mem_append_left _ ha, hrung⟩

theorem Rung.append_right {more : List LiveAlert} {r : Alerts.LiveAlert} (h : Rung p more r)
    (rang : List LiveAlert) : Rung p (rang ++ more) r := by
  obtain ⟨a, ha, hrung⟩ := h
  exact ⟨a, List.mem_append_right _ ha, hrung⟩

theorem RingInv.moves (h : RingInv p tenantIds s) {server : AlertState} {taken : IncidentRef → Option ℕ}
    (hmoves : ServerMoves s server taken) : RingInv p tenantIds { s with server := server, taken := taken } := by
  have hrows : ∀ r' ∈ activeOfTenants server.alerts tenantIds, r'.id ∈ s.seen →
      ∃ r ∈ activeOfTenants s.server.alerts tenantIds, r.id = r'.id ∧ (r'.readAt = none → r = r') := by
    intro r' hr' hseen
    obtain ⟨hmem, hact, htenant⟩ := mem_activeOfTenants.1 hr'
    rcases hmoves.rows r' hmem hact with ⟨r, hr, hract, hid, htid, hsame⟩ | hnew
    · exact ⟨r, mem_activeOfTenants.2 ⟨hr, hract, htid ▸ htenant⟩, hid, hsame⟩
    · exact absurd hseen hnew
  refine ⟨hmoves.ids, h.quiet, h.first, ?_, h.rang_seen, h.rang_once, ?_, h.noticed⟩
  · intro r' hr' hseen mark hmark
    obtain ⟨r, hr, hid, -⟩ := hrows r' hr' hseen
    exact hid ▸ h.marked r hr (hid ▸ hseen) mark hmark
  · intro r' hr' hurgent hseen
    obtain ⟨r, hr, -, hsame⟩ := hrows r' hr' hseen
    have hunread : r'.readAt = none := by
      rw [isUrgent, Bool.and_eq_true, Option.isNone_iff_eq_none] at hurgent
      exact hurgent.2
    exact hsame hunread ▸ h.rung r hr (hsame hunread ▸ hurgent) (hsame hunread ▸ hseen)

/-! ## A pass -/

/-- The part of a pass that posts. -/
def partOf (p : Platform) (tenantIds : List ℕ) (s : RingState) (chance : PassChance) : AlertsPart :=
  alertsPart p (quietSettings chance.onCall chance.time) s.phone.server (answerOf p tenantIds s chance)

theorem passStep_eq (hquiet : PhoneQuiet s.phone) {chance : PassChance}
    (hs : passStep p tenantIds s chance = some t) :
    (feedRows tenantIds s).length < 200 ∧
      (freshAlerts s.phone.server (answerOf p tenantIds s chance).feed).length ≤ maxPerServer ∧
      t = { s with
        phone := ⟨{ s.phone.server with
          alertsMark := some (partOf p tenantIds s chance).mark
          postedAlerts := (partOf p tenantIds s chance).posted
          lastNotify := some .all }, none⟩
        baseline := if s.phone.server.alertsMark.isNone then (feedRows tenantIds s).map Alerts.LiveAlert.id
          else s.baseline
        seen := s.seen ++ (feedRows tenantIds s).map Alerts.LiveAlert.id
        noticed := if s.phone.server.alertsMark.isNone then s.noticed
          else s.noticed ++ (feedRows tenantIds s).filter isUrgent
        rang := s.rang ++ (partOf p tenantIds s chance).rang } := by
  have hstart : phoneStep p s.phone (.startPass (quietSettings chance.onCall chance.time) true) =
      some ⟨s.phone.server, some (quietSettings chance.onCall chance.time, s.phone.server)⟩ := by
    simp [phoneStep, startPass, quietSettings, hquiet.idle, hquiet.signedIn, hquiet.notified]
  unfold passStep at hs
  dsimp only at hs
  split at hs
  · rename_i hfew
    rw [hstart] at hs
    exact ⟨hfew.1, hfew.2, (Option.some.inj hs).symm⟩
  · cases hs

/-- A feed that is not full holds every active row. -/
theorem feedRows_perm (h : (feedRows tenantIds s).length < 200) :
    (feedRows tenantIds s).Perm (activeOfTenants s.server.alerts tenantIds) := by
  refine getForTenants_perm ?_
  rw [feedRows, getForTenants, List.length_take, List.length_insertionSort] at h
  omega

theorem feed_answerOf {chance : PassChance} :
    (answerOf p tenantIds s chance).feed.alerts = (feedRows tenantIds s).map (phoneAlert p) := rfl

theorem nodup_feed (h : IdsInv s.server s.taken s.seen) (hfew : (feedRows tenantIds s).length < 200)
    {chance : PassChance} : ((answerOf p tenantIds s chance).feed.alerts.map LiveAlert.id).Nodup := by
  have hids : (activeOfTenants s.server.alerts tenantIds).map Alerts.LiveAlert.id |>.Nodup :=
    h.keyed.sublist (List.filter_sublist.map _)
  rw [feed_answerOf, List.map_map]
  have hrows := ((feedRows_perm hfew).map Alerts.LiveAlert.id).nodup_iff.2 hids
  have hcast : LiveAlert.id ∘ phoneAlert p = (fun id : ℕ => (id : ℤ)) ∘ Alerts.LiveAlert.id := rfl
  rw [hcast, ← List.map_map]
  exact hrows.map fun _ _ heq => Int.ofNat.inj heq

/-- The alerts of a pass that may ring. -/
def ringOf (p : Platform) (tenantIds : List ℕ) (s : RingState) (chance : PassChance) : List Candidate :=
  mayRing p (quietSettings chance.onCall chance.time) s.phone.server (answerOf p tenantIds s chance)

theorem rang_partOf_perm {chance : PassChance}
    (hfive : (freshAlerts s.phone.server (answerOf p tenantIds s chance).feed).length ≤ maxPerServer) :
    (partOf p tenantIds s chance).rang.Perm
      (((ringOf p tenantIds s chance).filter (isNewest p (ringOf p tenantIds s chance))).map Candidate.a) :=
  rang_perm (fun _ => rfl) hfive

theorem ringOf_sublist {chance : PassChance} : ((ringOf p tenantIds s chance).map Candidate.a).Sublist
    (freshAlerts s.phone.server (answerOf p tenantIds s chance).feed) := mayRing_sublist

/-- What a pass posts is fresh, and posted once. -/
theorem rang_partOf (h : RingInv p tenantIds s) {chance : PassChance} (hfew : (feedRows tenantIds s).length < 200)
    (hfive : (freshAlerts s.phone.server (answerOf p tenantIds s chance).feed).length ≤ maxPerServer) :
    ((partOf p tenantIds s chance).rang.map LiveAlert.id).Nodup ∧
      ∀ a ∈ (partOf p tenantIds s chance).rang, ∃ r ∈ activeOfTenants s.server.alerts tenantIds,
        a.id = (r.id : ℤ) ∧ ∃ mark ∈ s.phone.server.alertsMark, mark < a.id := by
  have hperm := rang_partOf_perm (p := p) hfive
  have hsub : (((ringOf p tenantIds s chance).filter (isNewest p (ringOf p tenantIds s chance))).map
      Candidate.a).Sublist (freshAlerts s.phone.server (answerOf p tenantIds s chance).feed) :=
    (List.filter_sublist.map _).trans ringOf_sublist
  have hfresh : freshAlerts s.phone.server (answerOf p tenantIds s chance).feed = _ :=
    freshAlerts_of_quiet h.quiet.shown
  constructor
  · refine (hperm.map _).nodup_iff.2 (List.Nodup.sublist (hsub.map _) ?_)
    rw [hfresh]
    exact nodup_process (nodup_feed h.ids hfew)
  · intro a ha
    have hmem := hsub.subset (hperm.mem_iff.1 ha)
    rw [hfresh] at hmem
    obtain ⟨hfeed, -, mark, hmark, habove⟩ := fresh_of_mem_process hmem
    obtain ⟨r, hr, rfl⟩ := List.mem_map.1 hfeed
    exact ⟨r, (feedRows_perm hfew).mem_iff.1 hr, rfl, mark, hmark, habove⟩

/-- A critical row above the mark rings, or a newer one of its incident does. -/
theorem rung_of_above (h : RingInv p tenantIds s) {chance : PassChance} (hfew : (feedRows tenantIds s).length < 200)
    (hfive : (freshAlerts s.phone.server (answerOf p tenantIds s chance).feed).length ≤ maxPerServer)
    {r : Alerts.LiveAlert} (hr : r ∈ feedRows tenantIds s) (hurgent : isUrgent r = true) {mark : ℤ}
    (hmark : s.phone.server.alertsMark = some mark) (habove : mark < r.id)
    (hcategory : category p (phoneAlert p r).title ≠ .recovery) : Rung p (partOf p tenantIds s chance).rang r := by
  rw [isUrgent, Bool.and_eq_true, decide_eq_true_eq, Option.isNone_iff_eq_none] at hurgent
  have hfeed : phoneAlert p r ∈ (answerOf p tenantIds s chance).feed.alerts := List.mem_map_of_mem hr
  have hfresh : phoneAlert p r ∈ freshAlerts s.phone.server (answerOf p tenantIds s chance).feed := by
    rw [freshAlerts_of_quiet h.quiet.shown, hmark]
    refine mem_process hfeed ?_ habove ?_
    · rw [phoneAlert, hurgent.2]
      rfl
    · rw [feed_answerOf, List.length_map]
      omega
  obtain ⟨c, hc, hca⟩ : ∃ c ∈ ringOf p tenantIds s chance, c.a = phoneAlert p r :=
    exists_mayRing hfresh hurgent.1 hcategory
  obtain ⟨c', hc', hnewest, hor⟩ := exists_newest (p := p) hc
  refine ⟨c'.a, (rang_partOf_perm hfive).mem_iff.2 (List.mem_map_of_mem (List.mem_filter.2 ⟨hc', hnewest⟩)), ?_⟩
  rcases hor with rfl | ⟨hlt, hsome, hkey⟩
  · exact .inl (by rw [hca]; rfl)
  · rw [hca] at hlt hkey
    exact .inr ⟨hlt, hsome, hkey⟩

/-- After a quiet pass an urgent row of its feed has rung, before or now, or is one of the baseline. -/
theorem rung_after_pass (h : RingInv p tenantIds s) {chance : PassChance}
    (hok : AboveMark p tenantIds s (.pass chance)) (hfew : (feedRows tenantIds s).length < 200)
    (hfive : (freshAlerts s.phone.server (answerOf p tenantIds s chance).feed).length ≤ maxPerServer)
    {r : Alerts.LiveAlert} (hr : r ∈ feedRows tenantIds s) (hurgent : isUrgent r = true) :
    r.id ∈ (if s.phone.server.alertsMark.isNone then (feedRows tenantIds s).map Alerts.LiveAlert.id
      else s.baseline) ∨ Rung p (s.rang ++ (partOf p tenantIds s chance).rang) r := by
  cases hmark : s.phone.server.alertsMark with
  | none => exact .inl (List.mem_map_of_mem hr)
  | some mark =>
      by_cases hseen : r.id ∈ s.seen
      · have hactive := (feedRows_perm hfew).mem_iff.1 hr
        exact (h.rung r hactive hurgent hseen).imp id fun hrung => hrung.append _
      · obtain ⟨habove, hcategory⟩ := hok mark hmark r hr hurgent hseen
        exact .inr ((rung_of_above h hfew hfive hr hurgent hmark habove hcategory).append_right _)

theorem RingInv.pass (h : RingInv p tenantIds s) {chance : PassChance}
    (hok : AboveMark p tenantIds s (.pass chance)) (hs : passStep p tenantIds s chance = some t) :
    RingInv p tenantIds t := by
  obtain ⟨hfew, hfive, rfl⟩ := passStep_eq h.quiet hs
  obtain ⟨hnodup, hrang⟩ := rang_partOf h hfew hfive
  have hmem : ∀ r, r ∈ feedRows tenantIds s ↔ r ∈ activeOfTenants s.server.alerts tenantIds :=
    fun r => (feedRows_perm hfew).mem_iff
  have hids : ∀ r ∈ feedRows tenantIds s, r.id ∈ (feedRows tenantIds s).map Alerts.LiveAlert.id :=
    fun r hr => List.mem_map_of_mem hr
  refine ⟨?_, ⟨rfl, h.quiet.shown, h.quiet.signedIn, by simp⟩, by simp, ?_, ?_, ?_, ?_, ?_⟩
  · exact h.ids.see fun r hr => (mem_activeOfTenants.1 ((hmem r).1 hr)).1
  · intro r hr _ mark hmark
    obtain rfl := Option.some.inj hmark
    have hfeed : phoneAlert p r ∈ (answerOf p tenantIds s chance).feed.alerts :=
      List.mem_map_of_mem ((hmem r).2 hr)
    exact le_process_mark hfeed
  · intro a ha
    rcases List.mem_append.1 ha with ha | ha
    · obtain ⟨id, hid, heq⟩ := h.rang_seen a ha
      exact ⟨id, List.mem_append_left _ hid, heq⟩
    · obtain ⟨r, hr, heq, -⟩ := hrang a ha
      exact ⟨r.id, List.mem_append_right _ (hids r ((hmem r).2 hr)), heq⟩
  · rw [List.map_append, List.nodup_append]
    refine ⟨h.rang_once, hnodup, fun id hold id' hnew heq => ?_⟩
    obtain ⟨a, ha, rfl⟩ := List.mem_map.1 hold
    obtain ⟨b, hb, rfl⟩ := List.mem_map.1 hnew
    obtain ⟨seen, hseen, hid⟩ := h.rang_seen a ha
    obtain ⟨r, hr, hrid, mark, hmark, habove⟩ := hrang b hb
    -- the row is still active, so an earlier feed has put the mark at its id
    have hrseen : r.id ∈ s.seen := by
      have hcast : (r.id : ℤ) = (seen : ℤ) := by rw [← hrid, ← heq, hid]
      rwa [Int.ofNat.inj hcast]
    have hle := h.marked r hr hrseen mark hmark
    omega
  · intro r hr hurgent _
    exact rung_after_pass h hok hfew hfive ((hmem r).2 hr) hurgent
  · intro r hr
    cases hmark : s.phone.server.alertsMark with
    | none =>
        simp only [hmark, Option.isNone_none, if_true] at hr
        have hseen := (h.noticed r hr).1
        rw [h.first hmark] at hseen
        exact absurd hseen List.not_mem_nil
    | some mark =>
        simp only [hmark, Option.isNone_some, Bool.false_eq_true, if_false, List.mem_append] at hr ⊢
        rcases hr with hr | hr
        · obtain ⟨hseen, hrang⟩ := h.noticed r hr
          exact ⟨.inl hseen, hrang.imp id fun hrung => hrung.append _⟩
        · obtain ⟨hfeed, hurgent⟩ := List.mem_filter.1 hr
          have hor := rung_after_pass h hok hfew hfive hfeed hurgent
          simp only [hmark, Option.isNone_some, Bool.false_eq_true, if_false] at hor
          exact ⟨.inr (hids r hfeed), hor⟩

theorem RingInv.step (h : RingInv p tenantIds s) {op : RingOp} (hok : AboveMark p tenantIds s op)
    (hs : ringStep p tenantIds s op = some t) : RingInv p tenantIds t := by
  cases op with
  | server op =>
      obtain ⟨server, taken, rfl, hmoves⟩ := serverStep_moves h.ids hs
      exact h.moves hmoves
  | raiseInsert inc =>
      obtain ⟨server, taken, rfl, hmoves⟩ := raiseInsert_moves h.ids hs
      exact h.moves hmoves
  | raiseCommit inc now =>
      obtain ⟨server, taken, rfl, hmoves⟩ := commitRaise_moves h.ids hs
      exact h.moves hmoves
  | pass chance => exact h.pass hok hs

theorem ringInv_of_init (h : (ringMachine p tenantIds).init s) : RingInv p tenantIds s := by
  obtain ⟨⟨halerts, -, -⟩, htaken, hphone, -, hseen, hnoticed, hrang⟩ := h
  refine ⟨⟨?_, ?_, ?_, ?_, ?_⟩, ?_, fun _ => hseen, ?_, ?_, ?_, ?_, ?_⟩
  · rw [halerts]
    exact List.nodup_nil
  · simp [halerts]
  · simp [hseen]
  · simp [htaken]
  · simp [htaken]
  · rw [hphone]
    exact ⟨rfl, rfl, rfl, by simp [ServerNotifState.fresh]⟩
  · simp [hseen]
  · simp [hrang]
  · simp [hrang]
  · simp [hseen]
  · simp [hnoticed]

end Inv

/-! ## Ringing once -/

/-- An alert posted at most once is posted once, or never. -/
theorem RingState.timesRung_of_nodup {s : RingState} (h : (s.rang.map LiveAlert.id).Nodup) (id : ℕ) :
    s.timesRung id = if ∃ a ∈ s.rang, a.id = (id : ℤ) then 1 else 0 := by
  have hcount : s.timesRung id = (s.rang.map LiveAlert.id).count (id : ℤ) := by
    rw [RingState.timesRung, List.count, List.countP_map]
    rfl
  rw [hcount, h.count]
  simp

/-- **Every critical alert rings once, or a newer one of its incident does, as long as no pass meets a
row that came up below its mark or has the title of a recovery.** -/
theorem rings_once (p : Platform) (tenantIds : List ℕ) {s : RingState}
    (h : Reach (ringMachine p tenantIds) (AboveMark p tenantIds) s) : RingsOnce p s := by
  have hinv : RingInv p tenantIds s :=
    h.invariant (fun s hinit => ringInv_of_init hinit) fun s op t hI hok hs => hI.step hok hs
  intro r hr hbaseline
  rw [RingState.timesRung_of_nodup hinv.rang_once]
  split
  · exact .inl rfl
  · rename_i hnone
    obtain ⟨a, ha, heq | hnewer⟩ := (hinv.noticed r hr).2.resolve_left hbaseline
    · exact absurd ⟨a, ha, heq⟩ hnone
    · exact .inr ⟨rfl, a, ha, hnewer⟩

/-- No alert yet; every device is offline, in tenant 1. -/
def noAlertYet : RingState :=
  ⟨⟨[], 1, fun _ => some ⟨1, .offline⟩, fun _ => none, [], fun _ => false⟩, fun _ => none, ⟨.fresh, none⟩,
    [], [], [], []⟩

/-- The raise of an offline alert, up to its INSERT. -/
def offlineInserted (device : ℕ) (stableKey : String) : List RingOp :=
  [.server (.add 1 ⟨.critical, "pc", "", none, some stableKey⟩), .server (.run 0 0),
    .server (.raiseRead ⟨.offline, device⟩), .raiseInsert ⟨.offline, device⟩]

def ringPass : RingOp := .pass ⟨⟨false, [], 0, 0, .none⟩, ⟨1, 0⟩, none, fun _ => none, fun _ => true⟩

/-- The first pass, then an alert, then two passes. -/
def ringsAfterCommit : List RingOp :=
  [ringPass] ++ offlineInserted 5 "device:5:offline" ++ [.raiseCommit ⟨.offline, 5⟩ 0, ringPass, ringPass]

theorem rings_once_after_commit :
    ∃ s ∈ (ringMachine asciiPlatform [1]).exec noAlertYet ringsAfterCommit,
      s.timesRung 1 = 1 ∧ RingsOnce asciiPlatform s := by
  have hinit : (ringMachine asciiPlatform [1]).init noAlertYet :=
    ⟨⟨rfl, rfl, fun _ => rfl⟩, fun _ => rfl, rfl, rfl, rfl, rfl, rfl⟩
  refine ⟨_, rfl, by decide, rings_once asciiPlatform [1] ?_⟩
  exact (Reach.start hinit).of_exec ringsAfterCommit (by decide) rfl

/-- Alerts of devices 5 and 6 take the ids 1 and 2. The second is committed, and posted by a pass;
then the first is committed. -/
def commitsOutOfOrder : List RingOp :=
  [ringPass] ++ offlineInserted 5 "device:5:offline" ++ offlineInserted 6 "device:6:offline" ++
    [.raiseCommit ⟨.offline, 6⟩ 0, ringPass, .raiseCommit ⟨.offline, 5⟩ 1, ringPass, ringPass]

theorem never_rings_below_the_mark :
    ¬ ∀ s, Reach (ringMachine asciiPlatform [1]) anyStep s → RingsOnce asciiPlatform s := by
  refine not_forall_reach (s := noAlertYet) ?_ commitsOutOfOrder ⟨_, rfl, by decide⟩
  exact ⟨⟨rfl, rfl, fun _ => rfl⟩, fun _ => rfl, rfl, rfl, rfl, rfl, rfl⟩

end Obliance.Phone
