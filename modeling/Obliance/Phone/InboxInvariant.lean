import Obliance.Phone.Inbox

/-!
# No alert comes back (`data` `DefaultAlertsRepository.kt`)

* `mem_recordResolved`, `mem_recordArrival`, `mem_mergeAlert` : what the side tables and the list hold;
* `InboxInv` : nothing shown, or about to be, is deleted, or resolved unless the event that removes it is being
  handled; `InboxInv.step`;
* `HeardInv` : what a refresh has to keep; `HeardInv.step`;
* `never_resurrects` : both, over every run.
-/

namespace Obliance.Phone
open GuardedRun

/-! ## The side tables and the list -/

section Tables
variable {part : Option Part} {a b : LiveAlert} {ids : List ℤ} {id : ℤ}

theorem mem_recordResolved {resolvedIds : List ℤ} (h : (ids.foldl JsSet.add resolvedIds).length ≤ maxResolved) :
    id ∈ recordResolved resolvedIds ids ↔ id ∈ resolvedIds ∨ id ∈ ids := by
  rw [recordResolved, keepNewest, Nat.sub_eq_zero_of_le h, List.drop_zero, JsSet.mem_foldl_add]

/-- The number of an arrival is the last one; no other arrival is forgotten. -/
theorem mem_recordArrival {arrivals : List (ℤ × ℕ)} (h : arrivals.length < maxArrivals) {n : ℕ} {e : ℤ × ℕ} :
    e ∈ recordArrival arrivals id n ↔ e ∈ arrivals ∧ e.1 ≠ id ∨ e = (id, n) := by
  have hlength : ((arrivals.filter fun e => decide (e.1 ≠ id)) ++ [(id, n)]).length ≤ maxArrivals := by
    have hle := List.length_filter_le (fun e : ℤ × ℕ => decide (e.1 ≠ id)) arrivals
    rw [List.length_append, List.length_singleton]
    omega
  rw [recordArrival, keepNewest, Nat.sub_eq_zero_of_le hlength, List.drop_zero]
  simp

theorem mem_arrivedAfter {arrivals : List (ℤ × ℕ)} {since : ℕ} :
    id ∈ arrivedAfter arrivals since ↔ ∃ n, (id, n) ∈ arrivals ∧ since < n := by
  simp [arrivedAfter]

theorem alertsOf_known : (part.getD { Part.empty with status := .ok }).alerts = alertsOf part := by
  cases part <;> rfl

theorem mem_mergeAlert (h : b ∈ alertsOf (mergeAlert part a)) : b = a ∨ b ∈ alertsOf part := by
  unfold mergeAlert at h
  dsimp only at h
  split at h
  · exact .inr h
  · rw [← alertsOf_known]
    exact List.mem_cons.1 h

theorem mem_mergeAlert_of_mem (h : b ∈ alertsOf part) : b ∈ alertsOf (mergeAlert part a) := by
  unfold mergeAlert
  dsimp only
  split
  · exact h
  · rw [← alertsOf_known] at h
    exact List.mem_cons_of_mem a h

theorem exists_mem_mergeAlert : ∃ b ∈ alertsOf (mergeAlert part a), b.id = a.id := by
  unfold mergeAlert
  dsimp only
  split
  · rename_i hany
    rw [alertsOf_known, List.any_eq_true] at hany
    simpa using hany
  · exact ⟨a, List.mem_cons_self, rfl⟩

theorem mem_withoutIds : b ∈ alertsOf (withoutIds part ids) ↔ b ∈ alertsOf part ∧ b.id ∉ ids := by
  cases part with
  | none => simp [withoutIds, alertsOf, Part.empty]
  | some part => simp [withoutIds, alertsOf]

end Tables

/-! ## The refresh in progress -/

/-- The alerts of the feed still to be checked. -/
def Refresh.todo : Refresh → List LiveAlert
  | .listing _ _ _ todo _ => todo
  | _ => []

/-- The alerts kept beyond the feed, checked or not. -/
def Refresh.kept : Refresh → List LiveAlert
  | .keeping _ _ _ _ todo kept => todo ++ kept
  | _ => []

/-- The event in progress removes the alert from the list. -/
def SocketEvent.removes : SocketEvent → ℤ → Bool
  | .resolved ids, id => decide (id ∈ ids)
  | _, _ => false

structure RefreshInv (resolvedIds deleted : List ℤ) (r : Refresh) : Prop where
  feed : ∀ a ∈ r.feed, a.id ∉ deleted
  todo : ∀ a ∈ r.todo, a ∈ r.feed
  listed : ∀ a ∈ r.listed, a ∈ r.feed ∧ (a.id ∈ resolvedIds → ∃ b ∈ r.compared, b.id = a.id)
  kept : ∀ a ∈ r.kept, a ∈ r.compared

section RefreshInv
variable {resolvedIds deleted : List ℤ} {r : Refresh} {since : ℕ} {feed todo listed kept : List LiveAlert}
  {previous : Option Part}

theorem RefreshInv.of_empty (hfeed : r.feed = []) (htodo : r.todo = []) (hlisted : r.listed = [])
    (hkept : r.kept = []) : RefreshInv resolvedIds deleted r :=
  ⟨by simp [hfeed], by simp [htodo], by simp [hlisted], by simp [hkept]⟩

theorem RefreshInv.read {feed : Option (List LiveAlert)} (h : ∀ a ∈ feed.getD [], a.id ∉ deleted) :
    RefreshInv resolvedIds deleted (.read since feed) :=
  ⟨h, by simp [Refresh.todo], by simp [Refresh.listed], by simp [Refresh.kept]⟩

/-- Ids that were not resolved are, of alerts the refresh compares with. -/
theorem RefreshInv.record (h : RefreshInv resolvedIds deleted r) {resolvedIds' : List ℤ}
    (hnew : ∀ a ∈ r.listed, a.id ∈ resolvedIds' → a.id ∈ resolvedIds ∨ ∃ b ∈ r.compared, b.id = a.id) :
    RefreshInv resolvedIds' deleted r :=
  ⟨h.feed, h.todo, fun a ha => ⟨(h.listed a ha).1, fun hmem => (hnew a ha hmem).elim (h.listed a ha).2 id⟩, h.kept⟩

/-- What one check of the evaluation keeps. -/
theorem RefreshInv.evaluate {s t : InboxState} (h : RefreshInv s.resolvedIds s.deleted s.refresh)
    (hs : Phone.evaluate s = some t) :
    t = { s with refresh := t.refresh } ∧ RefreshInv s.resolvedIds s.deleted t.refresh := by
  unfold Phone.evaluate at hs
  split at hs
  · rename_i since feed hrefresh
    rw [hrefresh] at h
    cases hs
    refine ⟨rfl, h.feed, fun a ha => ha, ?_, ?_⟩ <;> simp [Refresh.listed, Refresh.kept]
  · rename_i since feed previous a todo listed hrefresh
    rw [hrefresh] at h
    cases hs
    refine ⟨rfl, h.feed, fun b hb => h.todo b (List.mem_cons_of_mem a hb), fun b hb => ?_, by simp [Refresh.kept]⟩
    simp only [Refresh.listed] at hb
    split at hb
    · exact h.listed b hb
    · rename_i hresolved
      rcases List.mem_append.1 hb with hb | hb
      · exact h.listed b hb
      · obtain rfl := List.mem_singleton.1 hb
        refine ⟨h.todo b List.mem_cons_self, fun hmem => absurd ?_ hresolved⟩
        exact decide_eq_true hmem
  · rename_i since feed previous listed hrefresh
    rw [hrefresh] at h
    cases hs
    refine ⟨rfl, h.feed, by simp [Refresh.todo], h.listed, fun b hb => ?_⟩
    rw [Refresh.kept, List.append_nil] at hb
    exact List.mem_of_mem_filter hb
  · rename_i since feed previous listed a todo kept hrefresh
    rw [hrefresh] at h
    cases hs
    refine ⟨rfl, h.feed, by simp [Refresh.todo], h.listed, fun b hb => h.kept b ?_⟩
    simp only [Refresh.kept] at hb ⊢
    split at hb
    · exact List.mem_cons_of_mem a hb
    · simp only [List.mem_append, List.cons_append, List.mem_cons] at hb ⊢
      tauto
  · cases hs

end RefreshInv

/-! ## Nothing comes back -/

structure InboxInv (s : InboxState) : Prop where
  rows : ∀ id ∈ s.rows, id < s.nextId
  gone : ∀ id ∈ s.deleting ++ s.deleted, id < s.nextId ∧ id ∉ s.rows
  recorded : ∀ id ∈ s.resolved, id ∈ s.resolvedIds
  news : ∀ id, s.event.isNew id = true → id ∉ s.resolvedIds ∧ id ∉ s.deleted
  removals : ∀ id, s.event.removes id = true → id ∈ s.resolvedIds
  refresh : RefreshInv s.resolvedIds s.deleted s.refresh
  shownResolved : ∀ a ∈ alertsOf s.part, a.id ∈ s.resolvedIds → a.id ∉ s.resolved ∧ s.event.removes a.id = true
  shownDeleted : ∀ a ∈ alertsOf s.part, a.id ∉ s.deleted

section Inv
variable {s t : InboxState}

theorem InboxInv.neverResurrects (h : InboxInv s) : NeverResurrects s := by
  intro a ha
  refine ⟨fun hresolved => ?_, h.shownDeleted a ha⟩
  exact (h.shownResolved a ha (h.recorded _ hresolved)).1 hresolved

/-- The list and the refresh change, and show nothing new. -/
theorem InboxInv.shows (h : InboxInv s) {part : Option Part} {r : Refresh}
    (hpart : ∀ a ∈ alertsOf part, (a.id ∈ s.resolvedIds → a.id ∉ s.resolved ∧ s.event.removes a.id = true) ∧
      a.id ∉ s.deleted) (hr : RefreshInv s.resolvedIds s.deleted r) :
    InboxInv { s with part := part, refresh := r } :=
  ⟨h.rows, h.gone, h.recorded, h.news, h.removals, hr, fun a ha => (hpart a ha).1, fun a ha => (hpart a ha).2⟩

theorem InboxInv.shown (h : InboxInv s) : ∀ a ∈ alertsOf s.part,
    (a.id ∈ s.resolvedIds → a.id ∉ s.resolved ∧ s.event.removes a.id = true) ∧ a.id ∉ s.deleted :=
  fun a ha => ⟨h.shownResolved a ha, h.shownDeleted a ha⟩

theorem InboxInv.refreshing (h : InboxInv s) {r : Refresh} (hr : RefreshInv s.resolvedIds s.deleted r) :
    InboxInv { s with refresh := r } := h.shows h.shown hr

/-- The rows of the server change, none comes back. -/
theorem InboxInv.serverRows (h : InboxInv s) {rows deleting : List ℤ} {nextId : ℤ} (hrows : ∀ id ∈ rows, id < nextId)
    (hgone : ∀ id ∈ deleting ++ s.deleted, id < nextId ∧ id ∉ rows) :
    InboxInv { s with rows := rows, deleting := deleting, nextId := nextId } :=
  ⟨hrows, hgone, h.recorded, h.news, h.removals, h.refresh, h.shownResolved, h.shownDeleted⟩

/-- A refresh begins or ends. -/
theorem InboxInv.restarting (h : InboxInv s) {r : Refresh} (hr : RefreshInv s.resolvedIds s.deleted r)
    {arrivals : List (ℤ × ℕ)} {heard : List ℤ} :
    InboxInv { s with arrivals := arrivals, heard := heard, refresh := r } :=
  ⟨h.rows, h.gone, h.recorded, h.news, h.removals, hr, h.shownResolved, h.shownDeleted⟩

/-- Nothing shown is resolved while no event removes alerts. -/
theorem InboxInv.unresolved (h : InboxInv s) (hevent : ∀ id, s.event.removes id = false) :
    ∀ a ∈ alertsOf s.part, a.id ∉ s.resolvedIds := by
  intro a ha hmem
  have hremoves := (h.shownResolved a ha hmem).2
  rw [hevent] at hremoves
  cases hremoves

theorem InboxInv.insertRow (h : InboxInv s) :
    InboxInv { s with rows := s.rows ++ [s.nextId], nextId := s.nextId + 1 } := by
  refine h.serverRows (fun id hid => ?_) fun id hid => ?_
  · rcases List.mem_append.1 hid with hid | hid
    · exact (h.rows id hid).trans (Int.lt_succ _)
    · rw [List.mem_singleton.1 hid]
      exact Int.lt_succ _
  · obtain ⟨hlt, hrow⟩ := h.gone id hid
    refine ⟨hlt.trans (Int.lt_succ _), fun hmem => ?_⟩
    rcases List.mem_append.1 hmem with hmem | hmem
    · exact hrow hmem
    · exact hlt.ne (List.mem_singleton.1 hmem)

theorem InboxInv.removeRow (h : InboxInv s) (id : ℤ) :
    InboxInv { s with rows := s.rows.filter fun x => decide (x ≠ id) } := by
  refine h.serverRows (fun x hx => h.rows x (List.mem_of_mem_filter hx)) fun x hx => ?_
  obtain ⟨hlt, hrow⟩ := h.gone x hx
  exact ⟨hlt, fun hmem => hrow (List.mem_of_mem_filter hmem)⟩

theorem InboxInv.serverDelete (h : InboxInv s) {id : ℤ} (hid : id ∈ s.rows) :
    InboxInv { s with rows := s.rows.filter fun x => decide (x ≠ id), deleting := s.deleting ++ [id] } := by
  refine h.serverRows (fun x hx => h.rows x (List.mem_of_mem_filter hx)) fun x hx => ?_
  have hor : x ∈ s.deleting ++ s.deleted ∨ x = id := by
    simp only [List.mem_append, List.mem_singleton] at hx ⊢
    tauto
  rcases hor with hx | rfl
  · obtain ⟨hlt, hrow⟩ := h.gone x hx
    exact ⟨hlt, fun hmem => hrow (List.mem_of_mem_filter hmem)⟩
  · exact ⟨h.rows x hid, by simp⟩

theorem InboxInv.newEvent (h : InboxInv s) {a : LiveAlert} (hok : a.id ∉ s.deleted)
    (hs : Phone.newEvent s a = some t) : InboxInv t := by
  unfold Phone.newEvent at hs
  split at hs
  · rename_i hidle
    split at hs
    · exact Option.some.inj hs ▸ h
    · rename_i hresolved
      cases hs
      refine ⟨h.rows, h.gone, h.recorded, fun id hid => ?_, by simp [SocketEvent.removes], h.refresh,
        fun b hb hmem => absurd hmem (h.unresolved (by simp [hidle, SocketEvent.removes]) b hb), h.shownDeleted⟩
      obtain rfl : a.id = id := of_decide_eq_true hid
      exact ⟨fun hmem => hresolved (decide_eq_true hmem), hok⟩
  · cases hs

theorem InboxInv.recordNew (h : InboxInv s) (hs : Phone.recordNew s = some t) : InboxInv t := by
  unfold Phone.recordNew at hs
  split at hs
  · rename_i a hnew
    cases hs
    refine ⟨h.rows, h.gone, h.recorded, fun id hid => h.news id ?_, by simp [SocketEvent.removes], h.refresh,
      fun b hb hmem => absurd hmem (h.unresolved (by simp [hnew, SocketEvent.removes]) b hb), h.shownDeleted⟩
    rw [hnew]
    exact hid
  · cases hs

theorem InboxInv.mergeNew (h : InboxInv s) (hs : Phone.mergeNew s = some t) : InboxInv t := by
  unfold Phone.mergeNew at hs
  split at hs
  · rename_i a n harrived
    have hfresh : a.id ∉ s.resolvedIds ∧ a.id ∉ s.deleted := h.news a.id (by simp [harrived, SocketEvent.isNew])
    have hbefore := h.unresolved (by simp [harrived, SocketEvent.removes])
    cases hs
    refine ⟨h.rows, h.gone, h.recorded, by simp [SocketEvent.isNew], by simp [SocketEvent.removes], h.refresh,
      fun b hb hmem => ?_, fun b hb => ?_⟩
    · rcases mem_mergeAlert hb with rfl | hb
      · exact absurd hmem hfresh.1
      · exact absurd hmem (hbefore b hb)
    · rcases mem_mergeAlert hb with rfl | hb
      · exact hfresh.2
      · exact h.shownDeleted b hb
  · cases hs

theorem InboxInv.resolvedEvent (h : InboxInv s) {ids : List ℤ} (hok : Orderly s (.resolvedEvent ids))
    (hs : Phone.resolvedEvent s ids = some t) : InboxInv t := by
  obtain ⟨hcaps, hlisted⟩ := hok
  have hrecord (id : ℤ) : id ∈ recordResolved s.resolvedIds ids ↔ id ∈ s.resolvedIds ∨ id ∈ ids :=
    mem_recordResolved hcaps
  unfold Phone.resolvedEvent at hs
  split at hs
  · rename_i hidle
    split at hs
    · exact Option.some.inj hs ▸ h
    · cases hs
      have hbefore := h.unresolved (by simp [hidle, SocketEvent.removes])
      refine ⟨h.rows, h.gone, fun id hid => ?_, by simp [SocketEvent.isNew], fun id hid => ?_,
        h.refresh.record fun a ha hmem => ?_, fun a ha hmem => ?_, h.shownDeleted⟩
      · simp only [hrecord]
        exact .inl (h.recorded id hid)
      · simp only [hrecord]
        exact .inr (of_decide_eq_true hid)
      · simp only [hrecord] at hmem
        exact hmem.imp id (hlisted a ha)
      · simp only [hrecord] at hmem
        have hnow := hmem.resolve_left (hbefore a ha)
        exact ⟨fun hresolved => hbefore a ha (h.recorded _ hresolved), decide_eq_true hnow⟩
  · cases hs

theorem InboxInv.removeResolved (h : InboxInv s) (hs : Phone.removeResolved s = some t) : InboxInv t := by
  unfold Phone.removeResolved at hs
  split at hs
  · rename_i ids hevent
    cases hs
    refine ⟨h.rows, h.gone, fun id hid => ?_, by simp [SocketEvent.isNew], by simp [SocketEvent.removes],
      h.refresh, fun a ha hmem => ?_, fun a ha => h.shownDeleted a (mem_withoutIds.1 ha).1⟩
    · rcases List.mem_append.1 hid with hid | hid
      · exact h.recorded id hid
      · exact h.removals id (by simp [hevent, SocketEvent.removes, hid])
    · obtain ⟨hshown, hnot⟩ := mem_withoutIds.1 ha
      have hremoves := (h.shownResolved a hshown hmem).2
      rw [hevent] at hremoves
      exact absurd (of_decide_eq_true hremoves) hnot
  · cases hs

theorem InboxInv.deleteDone (h : InboxInv s) {id : ℤ} (hok : InTime s (.deleteDone id)) (hid : id ∈ s.deleting) :
    InboxInv (Phone.deleteDone s id) := by
  obtain ⟨hnew, hfeed⟩ := hok
  have hmem {x : ℤ} (hx : x ∈ s.deleted ++ [id]) : x ∈ s.deleted ∨ x = id := by simpa using hx
  refine ⟨h.rows, fun x hx => h.gone x ?_, h.recorded, fun x hx => ⟨(h.news x hx).1, fun hdel => ?_⟩, h.removals,
    ⟨fun a ha hdel => ?_, h.refresh.todo, h.refresh.listed, h.refresh.kept⟩, fun a ha => ?_, fun a ha hdel => ?_⟩
  · rcases List.mem_append.1 hx with hx | hx
    · exact List.mem_append_left _ (List.mem_of_mem_filter hx)
    · rcases hmem hx with hx | rfl
      · exact List.mem_append_right _ hx
      · exact List.mem_append_left _ hid
  · rcases hmem hdel with hdel | rfl
    · exact (h.news x hx).2 hdel
    · rw [show s.event.isNew x = true from hx] at hnew
      cases hnew
  · rcases hmem hdel with hdel | hdel
    · exact h.refresh.feed a ha hdel
    · exact hfeed a ha hdel
  · exact h.shownResolved a (List.mem_of_mem_filter ha)
  · obtain ⟨hshown, hne⟩ := List.mem_filter.1 ha
    rcases hmem hdel with hdel | hdel
    · exact h.shownDeleted a hshown hdel
    · exact of_decide_eq_true hne hdel

/-- What is committed is shown already, or is of the feed. -/
theorem InboxInv.commit (h : InboxInv s) {othersChanged : Bool} {now : ℤ}
    (hs : Phone.commit s othersChanged now = some t) : InboxInv t := by
  unfold Phone.commit at hs
  split at hs
  · rename_i since feed previous listed kept hrefresh
    have hr := h.refresh
    rw [hrefresh] at hr
    split at hs
    · rename_i hsame
      obtain ⟨rfl, -⟩ := hsame
      cases hs
      refine h.shows (fun a ha => ?_) (.of_empty rfl rfl rfl rfl)
      rcases List.mem_append.1 ha with ha | ha
      · exact h.shown a (hr.kept a ha)
      · obtain ⟨hfeed, hshown⟩ := hr.listed a ha
        refine ⟨fun hmem => ?_, hr.feed a hfeed⟩
        obtain ⟨b, hb, hid⟩ := hshown hmem
        exact hid ▸ h.shownResolved b hb (hid ▸ hmem)
    · exact Option.some.inj hs ▸ h.refreshing (.read hr.feed)
  · cases hs

theorem InboxInv.step (h : InboxInv s) {op : InboxOp} (hok : Orderly s op) (hs : inboxStep s op = some t) :
    InboxInv t := by
  cases op with
  | insertRow => exact Option.some.inj hs ▸ h.insertRow
  | removeRow id => exact Option.some.inj hs ▸ h.removeRow id
  | serverDelete id =>
      simp only [inboxStep] at hs
      split at hs
      · rename_i hrow
        exact Option.some.inj hs ▸ h.serverDelete hrow
      · cases hs
  | deleteDone id =>
      simp only [inboxStep] at hs
      split at hs
      · rename_i hid
        exact Option.some.inj hs ▸ h.deleteDone hok.2 hid
      · cases hs
  | markRead id readAt =>
      cases hs
      refine h.shows (fun a ha => ?_) h.refresh
      obtain ⟨b, hb, rfl⟩ := List.mem_map.1 ha
      split <;> exact h.shown b hb
  | newEvent a => exact h.newEvent hok.2 hs
  | recordNew => exact h.recordNew hs
  | mergeNew => exact h.mergeNew hs
  | resolvedEvent ids => exact h.resolvedEvent hok hs
  | removeResolved => exact h.removeResolved hs
  | startRefresh =>
      simp only [inboxStep, startRefresh] at hs
      split at hs
      · exact Option.some.inj hs ▸ h.restarting (.of_empty rfl rfl rfl rfl)
      · cases hs
  | readFeed feed =>
      simp only [inboxStep, readFeed] at hs
      split at hs
      · split at hs
        · rename_i hrows
          refine Option.some.inj hs ▸ h.refreshing (.read fun a ha hdel => ?_)
          exact (h.gone a.id (List.mem_append_right _ hdel)).2 (hrows a ha)
        · cases hs
      · cases hs
  | evaluate =>
      obtain ⟨ht, hr⟩ := h.refresh.evaluate hs
      rw [ht]
      exact h.refreshing hr
  | commit othersChanged now => exact h.commit hs
  | applyFailure sessionExpired =>
      simp only [inboxStep, applyFailure] at hs
      split at hs
      · exact Option.some.inj hs ▸ h.shows h.shown (.of_empty rfl rfl rfl rfl)
      · cases hs
  | finish =>
      simp only [inboxStep, finish] at hs
      split at hs
      · exact Option.some.inj hs ▸ h.restarting (.of_empty rfl rfl rfl rfl)
      · cases hs
  | cancelRefresh => exact Option.some.inj hs ▸ h.refreshing (.of_empty rfl rfl rfl rfl)

theorem inboxInv_fresh : InboxInv .fresh := by
  refine ⟨?_, ?_, ?_, ?_, ?_, .of_empty rfl rfl rfl rfl, ?_, ?_⟩ <;>
    simp [InboxState.fresh, SocketEvent.isNew, SocketEvent.removes, alertsOf, Part.empty]

end Inv

/-! ## What a refresh keeps -/

/-- The last arrival when the refresh began, until it is applied. -/
def Refresh.since : Refresh → Option ℕ
  | .idle | .applied _ => none
  | .started since | .read since _ | .listing since _ _ _ _ | .keeping since _ _ _ _ _ => some since

/-- An alert that has been heard of, and that the refresh compares with, is part of its result. -/
def Refresh.Keeps (heard : List ℤ) : Refresh → Prop
  | .keeping _ _ previous listed todo kept => ∀ id ∈ heard, (∃ b ∈ alertsOf previous, b.id = id) →
      (∃ b ∈ listed, b.id = id) ∨ (∃ b ∈ todo, b.id = id) ∨ ∃ b ∈ kept, b.id = id
  | _ => True

structure HeardInv (s : InboxState) : Prop where
  shown : ∀ id ∈ s.heard, ∃ a ∈ alertsOf s.part, a.id = id
  fresh : ∀ id ∈ s.heard, id ∉ s.resolvedIds
  news : ∀ id, s.event.isNew id = true → id ∉ s.resolvedIds
  removals : ∀ id, s.event.removes id = true → id ∈ s.resolvedIds
  number : ∀ a n, s.event = .arrived a n → n ≤ s.arrivalSeq ∧
    ∀ since ∈ s.refresh.since, since < n → (a.id, n) ∈ s.arrivals
  begun : ∀ since ∈ s.refresh.since, since ≤ s.arrivalSeq
  recent : ∀ since ∈ s.refresh.since, ∀ id ∈ s.heard, ∃ n, (id, n) ∈ s.arrivals ∧ since < n
  keeps : s.refresh.Keeps s.heard

section Heard
variable {s t : InboxState}

theorem Refresh.Keeps.subset {heard heard' : List ℤ} {r : Refresh} (h : r.Keeps heard)
    (hsub : ∀ id ∈ heard', id ∈ heard) : r.Keeps heard' := by
  cases r with
  | keeping since feed previous listed todo kept => exact fun id hid => h id (hsub id hid)
  | idle | started _ | read _ _ | listing _ _ _ _ _ | applied _ => trivial

/-- An alert that is heard of while the refresh awaits it is not one that it compares with. -/
theorem Refresh.Keeps.hear {heard : List ℤ} {r : Refresh} (h : r.Keeps heard) (id : ℤ) (n : ℕ) :
    r.Keeps (if r.awaits id n then id :: heard else heard) := by
  cases r with
  | keeping since feed previous listed todo kept =>
      split
      · rename_i hawaits
        intro x hx hprevious
        rcases List.mem_cons.1 hx with rfl | hx
        · obtain ⟨b, hb, heq⟩ := hprevious
          rw [Refresh.awaits, Bool.and_eq_true, Bool.not_eq_true', List.any_eq_false] at hawaits
          exact absurd (decide_eq_true heq) (hawaits.2 b hb)
        · exact h x hx hprevious
      · exact h
  | idle | started _ | read _ _ | listing _ _ _ _ _ | applied _ => trivial

theorem Refresh.lt_of_awaits {r : Refresh} {id : ℤ} {n since : ℕ} (h : r.awaits id n = true)
    (hsince : since ∈ r.since) : since < n := by
  cases r <;> simp_all [Refresh.since, Refresh.awaits]

/-- The list changes, and loses nothing heard of; the refresh goes on, or ends. -/
theorem HeardInv.shows (h : HeardInv s) {part : Option Part} {r : Refresh}
    (hpart : ∀ id ∈ s.heard, ∃ a ∈ alertsOf part, a.id = id) (hsince : ∀ since ∈ r.since, since ∈ s.refresh.since)
    (hkeeps : r.Keeps s.heard) : HeardInv { s with part := part, refresh := r } :=
  ⟨hpart, h.fresh, h.news, h.removals,
    fun a n ha => ⟨(h.number a n ha).1, fun since hmem => (h.number a n ha).2 since (hsince since hmem)⟩,
    fun since hmem => h.begun since (hsince since hmem), fun since hmem => h.recent since (hsince since hmem), hkeeps⟩

theorem HeardInv.refreshing (h : HeardInv s) {r : Refresh} (hsince : ∀ since ∈ r.since, since ∈ s.refresh.since)
    (hkeeps : r.Keeps s.heard) : HeardInv { s with refresh := r } := h.shows h.shown hsince hkeeps

theorem HeardInv.recordNew (h : HeardInv s) (hcaps : s.arrivals.length < maxArrivals)
    (hs : Phone.recordNew s = some t) : HeardInv t := by
  have hrecord (id : ℤ) (n : ℕ) (e : ℤ × ℕ) :
      e ∈ recordArrival s.arrivals id n ↔ e ∈ s.arrivals ∧ e.1 ≠ id ∨ e = (id, n) := mem_recordArrival hcaps
  unfold Phone.recordNew at hs
  split at hs
  · rename_i a hnew
    cases hs
    refine ⟨h.shown, h.fresh, fun id hid => h.news id ?_, by simp [SocketEvent.removes], fun b n hb => ?_,
      fun since hmem => (h.begun since hmem).trans (Nat.le_succ _), fun since hmem id hid => ?_, h.keeps⟩
    · rw [hnew]
      exact hid
    · cases hb
      simp [hrecord]
    · by_cases hne : id = a.id
      · refine ⟨s.arrivalSeq + 1, ?_, Nat.lt_succ_of_le (h.begun since hmem)⟩
        simp [hrecord, hne]
      · obtain ⟨n, hn, hlt⟩ := h.recent since hmem id hid
        refine ⟨n, ?_, hlt⟩
        simp [hrecord, hn, hne]
  · cases hs

theorem HeardInv.mergeNew (h : HeardInv s) (hs : Phone.mergeNew s = some t) : HeardInv t := by
  unfold Phone.mergeNew at hs
  split at hs
  · rename_i a n harrived
    have hfresh : a.id ∉ s.resolvedIds := h.news a.id (by simp [harrived, SocketEvent.isNew])
    obtain ⟨-, hnumber⟩ := h.number a n harrived
    have hor {id : ℤ} (hid : id ∈ if s.refresh.awaits a.id n then a.id :: s.heard else s.heard) :
        id ∈ s.heard ∨ id = a.id ∧ s.refresh.awaits a.id n = true := by
      split at hid
      · rename_i hawaits
        rcases List.mem_cons.1 hid with rfl | hid
        · exact .inr ⟨rfl, hawaits⟩
        · exact .inl hid
      · exact .inl hid
    cases hs
    refine ⟨fun id hid => ?_, fun id hid => ?_, by simp [SocketEvent.isNew], by simp [SocketEvent.removes], by simp,
      h.begun, fun since hmem id hid => ?_, ?_⟩
    · rcases hor hid with hid | ⟨rfl, -⟩
      · obtain ⟨b, hb, heq⟩ := h.shown id hid
        exact ⟨b, mem_mergeAlert_of_mem hb, heq⟩
      · exact exists_mem_mergeAlert
    · rcases hor hid with hid | ⟨rfl, -⟩
      · exact h.fresh id hid
      · exact hfresh
    · rcases hor hid with hid | ⟨rfl, hawaits⟩
      · exact h.recent since hmem id hid
      · have hlt : since < n := Refresh.lt_of_awaits hawaits hmem
        exact ⟨n, hnumber since hmem hlt, hlt⟩
    · exact h.keeps.hear a.id n
  · cases hs

theorem HeardInv.resolvedEvent (h : HeardInv s) {ids : List ℤ}
    (hcaps : (ids.foldl JsSet.add s.resolvedIds).length ≤ maxResolved)
    (hs : Phone.resolvedEvent s ids = some t) : HeardInv t := by
  have hrecord (id : ℤ) : id ∈ recordResolved s.resolvedIds ids ↔ id ∈ s.resolvedIds ∨ id ∈ ids :=
    mem_recordResolved hcaps
  unfold Phone.resolvedEvent at hs
  split at hs
  · split at hs
    · exact Option.some.inj hs ▸ h
    · have hmem {id : ℤ} (hid : id ∈ s.heard.filter fun id => !decide (id ∈ ids)) : id ∈ s.heard ∧ id ∉ ids := by
        simpa using hid
      cases hs
      refine ⟨fun id hid => h.shown id (hmem hid).1, fun id hid => ?_, by simp [SocketEvent.isNew], fun id hid => ?_,
        by simp, h.begun, fun since hs id hid => h.recent since hs id (hmem hid).1,
        h.keeps.subset fun id hid => (hmem hid).1⟩
      · obtain ⟨hheard, hnot⟩ := hmem hid
        simp [hrecord, h.fresh id hheard, hnot]
      · rw [SocketEvent.removes, decide_eq_true_eq] at hid
        simp [hrecord, hid]
  · cases hs

theorem HeardInv.removeResolved (h : HeardInv s) (hs : Phone.removeResolved s = some t) : HeardInv t := by
  unfold Phone.removeResolved at hs
  split at hs
  · rename_i ids hevent
    cases hs
    refine ⟨fun id hid => ?_, h.fresh, by simp [SocketEvent.isNew], by simp [SocketEvent.removes], by simp, h.begun,
      h.recent, h.keeps⟩
    obtain ⟨a, ha, rfl⟩ := h.shown id hid
    refine ⟨a, mem_withoutIds.2 ⟨ha, fun hmem => h.fresh a.id hid (h.removals a.id ?_)⟩, rfl⟩
    simp [hevent, SocketEvent.removes, hmem]
  · cases hs

/-- The checks of the evaluation drop nothing heard of. -/
theorem HeardInv.evaluate (h : HeardInv s) (hs : Phone.evaluate s = some t) : HeardInv t := by
  have hkeeps := h.keeps
  unfold Phone.evaluate at hs
  split at hs
  · rename_i since feed hrefresh
    exact Option.some.inj hs ▸ h.refreshing (by simp [hrefresh, Refresh.since]) trivial
  · rename_i since feed previous a todo listed hrefresh
    exact Option.some.inj hs ▸ h.refreshing (by simp [hrefresh, Refresh.since]) trivial
  · rename_i since feed previous listed hrefresh
    refine Option.some.inj hs ▸ h.refreshing (by simp [hrefresh, Refresh.since]) fun id hid hprevious => ?_
    obtain ⟨b, hb, rfl⟩ := hprevious
    have harrived : b.id ∈ arrivedAfter s.arrivals since :=
      mem_arrivedAfter.2 (h.recent since (by simp [hrefresh, Refresh.since]) b.id hid)
    by_cases hlisted : b.id ∈ listed.map LiveAlert.id
    · obtain ⟨c, hc, heq⟩ := List.mem_map.1 hlisted
      exact .inl ⟨c, hc, heq⟩
    · exact .inr (.inl ⟨b, List.mem_filter.2 ⟨hb, by simp [harrived, hlisted]⟩, rfl⟩)
  · rename_i since feed previous listed a todo kept hrefresh
    rw [hrefresh] at hkeeps
    refine Option.some.inj hs ▸ h.refreshing (by simp [hrefresh, Refresh.since]) fun id hid hprevious => ?_
    rcases hkeeps id hid hprevious with hl | ⟨b, hb, rfl⟩ | ⟨b, hb, rfl⟩
    · exact .inl hl
    · rcases List.mem_cons.1 hb with rfl | hb
      · have hunresolved : s.isResolved b.id = false := decide_eq_false (h.fresh b.id hid)
        rw [hunresolved]
        exact .inr (.inr ⟨b, by simp, rfl⟩)
      · exact .inr (.inl ⟨b, hb, rfl⟩)
    · refine .inr (.inr ⟨b, ?_, rfl⟩)
      split
      · exact hb
      · exact List.mem_append_left _ hb
  · cases hs

theorem HeardInv.commit (h : HeardInv s) {othersChanged : Bool} {now : ℤ}
    (hs : Phone.commit s othersChanged now = some t) : HeardInv t := by
  have hkeeps := h.keeps
  unfold Phone.commit at hs
  split at hs
  · rename_i since feed previous listed kept hrefresh
    rw [hrefresh] at hkeeps
    split at hs
    · rename_i hsame
      obtain ⟨rfl, -⟩ := hsame
      cases hs
      refine h.shows (fun id hid => ?_) (by simp [Refresh.since]) trivial
      rcases hkeeps id hid (h.shown id hid) with ⟨b, hb, heq⟩ | ⟨b, hb, -⟩ | ⟨b, hb, heq⟩
      · exact ⟨b, List.mem_append_right _ hb, heq⟩
      · cases hb
      · exact ⟨b, List.mem_append_left _ hb, heq⟩
    · exact Option.some.inj hs ▸ h.refreshing (by simp [hrefresh, Refresh.since]) trivial
  · cases hs

theorem HeardInv.deleteDone (h : HeardInv s) (id : ℤ) : HeardInv (Phone.deleteDone s id) := by
  have hmem {x : ℤ} (hx : x ∈ s.heard.filter fun x => decide (x ≠ id)) : x ∈ s.heard ∧ x ≠ id := by simpa using hx
  refine ⟨fun x hx => ?_, fun x hx => h.fresh x (hmem hx).1, h.news, h.removals, h.number, h.begun,
    fun since hs x hx => h.recent since hs x (hmem hx).1, h.keeps.subset fun x hx => (hmem hx).1⟩
  obtain ⟨hheard, hne⟩ := hmem hx
  obtain ⟨a, ha, rfl⟩ := h.shown x hheard
  exact ⟨a, List.mem_filter.2 ⟨ha, decide_eq_true hne⟩, rfl⟩

theorem HeardInv.step (h : HeardInv s) {op : InboxOp} (hok : WithinCaps s op) (hs : inboxStep s op = some t) :
    HeardInv t := by
  cases op with
  | insertRow | removeRow id =>
      cases hs
      exact ⟨h.shown, h.fresh, h.news, h.removals, h.number, h.begun, h.recent, h.keeps⟩
  | serverDelete id =>
      simp only [inboxStep] at hs
      split at hs
      · cases hs
        exact ⟨h.shown, h.fresh, h.news, h.removals, h.number, h.begun, h.recent, h.keeps⟩
      · cases hs
  | deleteDone id =>
      simp only [inboxStep] at hs
      split at hs
      · exact Option.some.inj hs ▸ h.deleteDone id
      · cases hs
  | markRead id readAt =>
      cases hs
      refine h.shows (fun x hx => ?_) (fun _ hmem => hmem) h.keeps
      obtain ⟨a, ha, rfl⟩ := h.shown x hx
      refine ⟨_, List.mem_map_of_mem ha, ?_⟩
      split <;> rfl
  | newEvent a =>
      simp only [inboxStep, newEvent] at hs
      split at hs
      · split at hs
        · exact Option.some.inj hs ▸ h
        · rename_i hresolved
          cases hs
          refine ⟨h.shown, h.fresh, fun id hid hmem => hresolved ?_, by simp [SocketEvent.removes], by simp, h.begun,
            h.recent, h.keeps⟩
          obtain rfl : a.id = id := of_decide_eq_true hid
          exact decide_eq_true hmem
      · cases hs
  | recordNew => exact h.recordNew hok hs
  | mergeNew => exact h.mergeNew hs
  | resolvedEvent ids => exact h.resolvedEvent hok hs
  | removeResolved => exact h.removeResolved hs
  | startRefresh =>
      simp only [inboxStep, startRefresh] at hs
      split at hs
      · cases hs
        refine ⟨by simp, by simp, h.news, h.removals, fun a n ha => ⟨(h.number a n ha).1, fun since hmem hlt => ?_⟩,
          by simp [Refresh.since], by simp, trivial⟩
        have hle := (h.number a n ha).1
        obtain rfl := Option.some.inj hmem
        omega
      · cases hs
  | readFeed feed =>
      simp only [inboxStep, readFeed] at hs
      split at hs
      · rename_i since hrefresh
        split at hs
        · exact Option.some.inj hs ▸ h.refreshing (by simp [hrefresh, Refresh.since]) trivial
        · cases hs
      · cases hs
  | evaluate => exact h.evaluate hs
  | commit othersChanged now => exact h.commit hs
  | applyFailure sessionExpired =>
      simp only [inboxStep, applyFailure] at hs
      split at hs
      · exact Option.some.inj hs ▸ h.shows h.shown (by simp [Refresh.since]) trivial
      · cases hs
  | finish =>
      simp only [inboxStep, finish] at hs
      split at hs
      · cases hs
        exact ⟨h.shown, h.fresh, h.news, h.removals, fun a n ha => ⟨(h.number a n ha).1, by simp [Refresh.since]⟩,
          by simp [Refresh.since], by simp [Refresh.since], trivial⟩
      · cases hs
  | cancelRefresh => exact Option.some.inj hs ▸ h.refreshing (by simp [Refresh.since]) trivial

theorem heardInv_fresh : HeardInv .fresh := by
  refine ⟨?_, ?_, ?_, ?_, ?_, ?_, ?_, trivial⟩ <;>
    simp [InboxState.fresh, SocketEvent.isNew, SocketEvent.removes, Refresh.since]

end Heard

/-! ## Every run -/

/-- **As long as the steps are in an order the repository is ready for, no alert comes back; and in any order
an alert whose NEW was handled during a refresh stays listed.** -/
theorem never_resurrects (s : InboxState) :
    (Reach inboxMachine Orderly s → NeverResurrects s) ∧ (Reach inboxMachine WithinCaps s → StillListed s) := by
  refine ⟨fun h => ?_, fun h => ?_⟩
  · have hinv : InboxInv s := h.invariant (fun _ hinit => hinit ▸ inboxInv_fresh) fun _ _ _ hI hok hs => hI.step hok hs
    exact hinv.neverResurrects
  · have hinv : HeardInv s := h.invariant (fun _ hinit => hinit ▸ heardInv_fresh) fun _ _ _ hI hok hs => hI.step hok hs
    exact hinv.shown

/-- An alert of the inbox. -/
def inboxAlert (id : ℤ) : LiveAlert := ⟨id, none, .critical, "", none, none, none, none⟩

/-- The NEW of the rows 1 and 2 arrive while a refresh reads, its feed without them; then 1 is resolved. -/
def newDuringRefresh : List InboxOp :=
  [.startRefresh, .readFeed (some []), .newEvent (inboxAlert 1), .recordNew, .mergeNew, .newEvent (inboxAlert 2),
    .recordNew, .mergeNew, .evaluate, .evaluate, .evaluate, .evaluate, .resolvedEvent [1], .removeResolved,
    .commit false 0, .evaluate, .evaluate, .evaluate, .commit false 0, .finish]

theorem new_during_refresh :
    ∃ s ∈ inboxMachine.exec .fresh newDuringRefresh,
      s.shown.map LiveAlert.id = [2] ∧ s.heard = [2] ∧ NeverResurrects s ∧ StillListed s := by
  refine ⟨_, rfl, by decide, by decide, (never_resurrects _).1 ?_, (never_resurrects _).2 ?_⟩
  · exact (Reach.start rfl).of_exec newDuringRefresh (by decide) rfl
  · exact (Reach.start rfl).of_exec newDuringRefresh (by decide) rfl

/-- A feed with row 1 is read, row 1 is deleted, then the feed is applied. -/
def deletedDuringRefresh : List InboxOp :=
  [.insertRow, .startRefresh, .readFeed (some [inboxAlert 1]), .serverDelete 1, .deleteDone 1, .evaluate, .evaluate,
    .evaluate, .commit false 0]

theorem deleted_alert_comes_back :
    ¬ ∀ s, Reach inboxMachine WithinCaps s → NeverResurrects s ∧ StillListed s := by
  intro h
  have hback := (h _ ((Reach.start rfl).of_exec deletedDuringRefresh (by decide) rfl)).1
  revert hback
  decide

end Obliance.Phone
