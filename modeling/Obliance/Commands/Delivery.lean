import Mathlib.Data.List.Perm.Basic
import Mathlib.Data.List.Sort
import Obliance.Commands.Tables
import Obliance.Lib.GuardedRun
import Obliance.Lib.Pool

/-!
# The deliveries of a command

A row of `command_queue` reaches the agent in the response to a push (`services/device.service.ts`), when
the command channel reconnects (`services/agentHub.service.ts`), or at once when it is posted
(`routes/command.routes.ts`). Each delivery reads pending rows and marks them in separate statements.

* `QueueState` : the queue, the deliveries in progress, what is on its way to the agent, and what the
  agent was given to execute;
* `deliveryMachine` : deliveries, acks and other updates of the queue, in any order;
* `ClaimsAlone` : no delivery takes a row that another has taken and not marked yet;
* `handled_once` : then the agent is given every command at most once.
-/

namespace Obliance.Commands
open GuardedRun

/-- The columns of `command_queue` that a delivery reads; a priority by its place in the enum. -/
structure QueueRow where
  id : ℕ
  deviceId : ℕ
  status : CommandStatus
  priority : ℕ
  createdAt : ℤ
  deriving DecidableEq, Repr

inductive Channel where
  /-- `handlePush` -/
  | pushResponse
  /-- `_drainPendingCommand` -/
  | drain
  deriving DecidableEq, Repr

/-- A delivery in progress, named after its next statement. -/
inductive Delivery where
  | select (via : Channel) (deviceId : ℕ)
  | mark (via : Channel) (ids : List ℕ)
  | send (via : Channel) (ids : List ℕ)
  /-- `POST /commands`: the row is inserted -/
  | push (id : ℕ)
  | markPushed (id : ℕ)
  | done
  deriving DecidableEq, Repr

structure QueueState where
  rows : List QueueRow
  deliveries : List Delivery
  /-- commands sent and not yet received, or lost -/
  wire : List ℕ
  /-- the calls of `HandleCommand` and `dispatchHubCommand` -/
  handled : List ℕ
  deriving DecidableEq, Repr

def QueueRow.isPending (r : QueueRow) : Bool := r.status = .pending

/-- `ORDER BY priority DESC, created_at ASC` -/
def QueueRow.before (r s : QueueRow) : Prop :=
  s.priority < r.priority ∨ (r.priority = s.priority ∧ r.createdAt ≤ s.createdAt)

instance : DecidableRel QueueRow.before := fun _ _ => inferInstanceAs (Decidable (_ ∨ _))

/-- `WHERE device_id = ? AND status = 'pending' .. LIMIT 5` -/
def pendingCommands (rows : List QueueRow) (deviceId : ℕ) : List QueueRow :=
  ((rows.filter fun r => decide (r.deviceId = deviceId) && r.isPending).insertionSort QueueRow.before).take 5

/-- `UPDATE command_queue SET status = ? WHERE ..` -/
def setStatus (rows : List QueueRow) (p : QueueRow → Bool) (status : CommandStatus) : List QueueRow :=
  rows.map fun r => if p r then { r with status := status } else r

def markSent (rows : List QueueRow) (ids : List ℕ) : List QueueRow :=
  setStatus rows (fun r => decide (r.id ∈ ids)) .sent

/-- The next statement of a delivery; `connected` when the socket of the device is open. -/
def stepDelivery (s : QueueState) (connected : Bool) : Delivery → QueueState × Delivery
  | .select via deviceId =>
      let ids := (pendingCommands s.rows deviceId).map QueueRow.id
      (s, if ids = [] then .done else .mark via ids)
  | .mark via ids => ({ s with rows := markSent s.rows ids }, .send via ids)
  | .send via ids =>
      -- a response is written whatever became of the socket
      (if via = .drain ∧ ¬ connected then s else { s with wire := s.wire ++ ids }, .done)
  | .push id => if connected then ({ s with wire := s.wire ++ [id] }, .markPushed id) else (s, .done)
  | .markPushed id => ({ s with rows := markSent s.rows [id] }, .done)
  | .done => (s, .done)

inductive QueueAction where
  /-- `enqueue`; `direct` for `POST /commands`, which then tries the channel -/
  | enqueue (id deviceId priority : ℕ) (createdAt : ℤ) (direct : Bool)
  | push (deviceId : ℕ)
  | reconnect (deviceId : ℕ)
  | resume (i : ℕ) (connected : Bool)
  /-- a statement of the delivery throws -/
  | throw (i : ℕ)
  | ack (deviceId id : ℕ) (status : AckStatus)
  | cancel (id : ℕ)
  | expire (id : ℕ)
  /-- the agent receives the `i`-th command on its way -/
  | receive (i : ℕ)
  | lose (i : ℕ)
  deriving DecidableEq, Repr

def QueueState.start (s : QueueState) (d : Delivery) : QueueState := { s with deliveries := s.deliveries ++ [d] }

def stepQueue (s : QueueState) : QueueAction → Option QueueState
  | .enqueue id deviceId priority createdAt direct =>
      if id ∈ s.rows.map QueueRow.id then none
      else
        let s := { s with rows := s.rows ++ [⟨id, deviceId, .pending, priority, createdAt⟩] }
        some (if direct then s.start (.push id) else s)
  | .push deviceId => some (s.start (.select .pushResponse deviceId))
  | .reconnect deviceId => some (s.start (.select .drain deviceId))
  | .resume i connected => (s.deliveries[i]?).map fun d =>
      { (stepDelivery s connected d).1 with deliveries := s.deliveries.set i (stepDelivery s connected d).2 }
  | .throw i => some { s with deliveries := s.deliveries.set i .done }
  | .ack deviceId id status => some { s with
      rows := setStatus s.rows (fun r => decide (r.id = id ∧ r.deviceId = deviceId)) status.toCommandStatus }
  | .cancel id => some { s with
      rows := setStatus s.rows (fun r => decide (r.id = id) && r.isPending) .cancelled }
  | .expire id => some { s with
      rows := setStatus s.rows (fun r => decide (r.id = id ∧ r.status ∈ [.pending, .sent])) .timeout }
  | .receive i => (s.wire[i]?).map fun id => { s with wire := s.wire.eraseIdx i, handled := s.handled ++ [id] }
  | .lose i => some { s with wire := s.wire.eraseIdx i }

def QueueState.empty : QueueState := ⟨[], [], [], []⟩

def deliveryMachine : Machine QueueState QueueAction := ⟨(· = .empty), stepQueue⟩

/-! ## The condition -/

def Delivery.toMark : Delivery → List ℕ
  | .mark _ ids => ids
  | _ => []

def Delivery.toSend : Delivery → List ℕ
  | .send _ ids => ids
  | _ => []

/-- The rows a delivery has read and not marked. -/
def QueueState.toMark (s : QueueState) : List ℕ := s.deliveries.flatMap Delivery.toMark

/-- The rows a delivery has marked and not sent. -/
def QueueState.toSend (s : QueueState) : List ℕ := s.deliveries.flatMap Delivery.toSend

/-- The commands that were sent, unless they are lost. -/
def QueueState.sent (s : QueueState) : List ℕ := s.wire ++ s.handled

/-- The rows a delivery reads are between the read and the mark of no other one, and were not pushed
without having been marked; the row of a direct push was not taken by any other delivery. -/
def Delivery.claimsAlone (s : QueueState) (connected : Bool) : Delivery → Prop
  | .select _ deviceId => ∀ r ∈ pendingCommands s.rows deviceId, r.id ∉ s.toMark ∧ r.id ∉ s.sent
  | .push id => connected → id ∉ s.toMark ∧ id ∉ s.toSend ∧ id ∉ s.sent
  | _ => True

def ClaimsAlone (s : QueueState) : QueueAction → Prop
  | .resume i connected => ∀ d ∈ s.deliveries[i]?, d.claimsAlone s connected
  | _ => True

instance (s : QueueState) (connected : Bool) : ∀ d : Delivery, Decidable (d.claimsAlone s connected)
  | .select _ deviceId => inferInstanceAs
      (Decidable (∀ r ∈ pendingCommands s.rows deviceId, r.id ∉ s.toMark ∧ r.id ∉ s.sent))
  | .push id => inferInstanceAs
      (Decidable (connected → id ∉ s.toMark ∧ id ∉ s.toSend ∧ id ∉ s.sent))
  | .mark _ _ | .send _ _ | .markPushed _ | .done => .isTrue trivial

instance (s : QueueState) : ∀ a : QueueAction, Decidable (ClaimsAlone s a)
  | .resume i connected => inferInstanceAs (Decidable (∀ d ∈ s.deliveries[i]?, d.claimsAlone s connected))
  | .enqueue _ _ _ _ _ | .push _ | .reconnect _ | .throw _ | .ack _ _ _ | .cancel _ | .expire _
  | .receive _ | .lose _ => .isTrue trivial

/-! ## The queue -/

section Queue
variable {rows : List QueueRow} {p : QueueRow → Bool} {status : CommandStatus} {deviceId : ℕ} {r : QueueRow}

theorem ids_setStatus : (setStatus rows p status).map QueueRow.id = rows.map QueueRow.id := by
  unfold setStatus
  rw [List.map_map]
  apply List.map_congr_left
  intro r _
  simp only [Function.comp_apply]
  split <;> rfl

/-- An update to another status leaves no more rows pending. -/
theorem mem_setStatus (hstatus : status ≠ .pending) (h : r ∈ setStatus rows p status) :
    ∃ r' ∈ rows, r'.id = r.id ∧ (r.isPending → r'.isPending) := by
  obtain ⟨r', hr', rfl⟩ := List.mem_map.mp h
  refine ⟨r', hr', ?_⟩
  split
  · exact ⟨rfl, fun hpend => absurd (of_decide_eq_true hpend) hstatus⟩
  · exact ⟨rfl, id⟩

theorem not_pending_markSent {ids : List ℕ} (h : r ∈ markSent rows ids) (hid : r.id ∈ ids) :
    r.isPending = false := by
  obtain ⟨r', hr', rfl⟩ := List.mem_map.mp h
  split at hid
  · rw [if_pos ‹_›]
    rfl
  · exact absurd (decide_eq_true hid) ‹_›

theorem mem_pendingCommands (h : r ∈ pendingCommands rows deviceId) : r ∈ rows ∧ r.isPending := by
  have hsort := List.mem_of_mem_take h
  rw [List.mem_insertionSort, List.mem_filter, Bool.and_eq_true] at hsort
  exact ⟨hsort.1, hsort.2.2⟩

theorem nodup_pendingCommands (h : (rows.map QueueRow.id).Nodup) :
    ((pendingCommands rows deviceId).map QueueRow.id).Nodup := by
  have hfilter : ((rows.filter fun r => decide (r.deviceId = deviceId) && r.isPending).map QueueRow.id).Nodup :=
    h.sublist (List.filter_sublist.map _)
  have hsort := ((List.perm_insertionSort QueueRow.before _).map QueueRow.id).nodup_iff.mpr hfilter
  exact hsort.sublist ((List.take_sublist _ _).map _)

end Queue

/-! ## What every step keeps -/

/-- Every command is with one delivery, on its way or handled, once; and what a delivery has marked is
not pending. -/
structure DeliveryInv (s : QueueState) : Prop where
  ids : (s.rows.map QueueRow.id).Nodup
  known : ∀ x, x ∈ s.toMark ∨ x ∈ s.toSend → x ∈ s.rows.map QueueRow.id
  marked : ∀ r ∈ s.rows, r.id ∈ s.toSend → r.isPending = false
  once : ∀ x, s.toMark.count x + s.toSend.count x + s.sent.count x ≤ 1

section Steps
variable {s t : QueueState}

theorem deliveryInv_empty : DeliveryInv .empty where
  ids := List.nodup_nil
  known _ h := h.elim (absurd · List.not_mem_nil) (absurd · List.not_mem_nil)
  marked _ h := absurd h List.not_mem_nil
  once _ := Nat.zero_le 1

/-- An update that leaves no more rows pending. -/
theorem DeliveryInv.setStatus (hi : DeliveryInv s) (p : QueueRow → Bool) {status : CommandStatus}
    (hstatus : status ≠ .pending) : DeliveryInv { s with rows := setStatus s.rows p status } where
  ids := by
    rw [ids_setStatus]
    exact hi.ids
  known x hx := by
    rw [ids_setStatus]
    exact hi.known x hx
  marked r hr hsend := by
    obtain ⟨r', hr', hid, hpend⟩ := mem_setStatus hstatus hr
    have hr'' : r'.isPending = false := hi.marked r' hr' (hid ▸ hsend)
    by_contra hne
    rw [hpend (Bool.of_not_eq_false hne)] at hr''
    cases hr''
  once := hi.once

/-- A new delivery holds nothing yet. -/
theorem DeliveryInv.start (hi : DeliveryInv s) {d : Delivery} (hmark : d.toMark = []) (hsend : d.toSend = []) :
    DeliveryInv (s.start d) := by
  have hm : (s.start d).toMark = s.toMark := by
    unfold QueueState.toMark QueueState.start
    rw [List.flatMap_append, List.flatMap_singleton, hmark, List.append_nil]
  have hs : (s.start d).toSend = s.toSend := by
    unfold QueueState.toSend QueueState.start
    rw [List.flatMap_append, List.flatMap_singleton, hsend, List.append_nil]
  refine ⟨hi.ids, ?_, ?_, ?_⟩
  · rw [hm, hs]
    exact hi.known
  · rw [hs]
    exact hi.marked
  · rw [hm, hs]
    exact hi.once

theorem DeliveryInv.enqueue (hi : DeliveryInv s) (row : QueueRow) (hid : row.id ∉ s.rows.map QueueRow.id) :
    DeliveryInv { s with rows := s.rows ++ [row] } where
  ids := by
    rw [List.map_append, List.map_singleton]
    exact List.nodup_append_comm.mpr (List.nodup_cons.mpr ⟨hid, hi.ids⟩)
  known x hx := by
    rw [List.map_append]
    exact List.mem_append_left _ (hi.known x hx)
  marked r hr hsend := by
    obtain hr | hr := List.mem_append.mp hr
    · exact hi.marked r hr hsend
    · rw [List.mem_singleton] at hr
      subst hr
      exact absurd (hi.known _ (.inr hsend)) hid
  once := hi.once

section Replace
variable {i : ℕ} {d : Delivery}

/-- A delivery that ends gives up what it holds. -/
theorem DeliveryInv.drop (hi : DeliveryInv s) (hd : s.deliveries[i]? = some d) (d' : Delivery)
    (hmark : d'.toMark = []) (hsend : d'.toSend = []) :
    DeliveryInv { s with deliveries := s.deliveries.set i d' } where
  ids := hi.ids
  known x hx := by
    apply hi.known x
    refine hx.imp (fun hx => ?_) fun hx => ?_
    · exact (Pool.mem_flatMap_set hx).resolve_right (hmark ▸ List.not_mem_nil)
    · exact (Pool.mem_flatMap_set hx).resolve_right (hsend ▸ List.not_mem_nil)
  marked r hr hx :=
    hi.marked r hr ((Pool.mem_flatMap_set hx).resolve_right (hsend ▸ List.not_mem_nil))
  once x := by
    have hm := Pool.count_flatMap_set hd d' Delivery.toMark x
    have hs := Pool.count_flatMap_set hd d' Delivery.toSend x
    rw [hmark, List.count_nil] at hm
    rw [hsend, List.count_nil] at hs
    have hle : (s.deliveries.flatMap Delivery.toMark).count x + (s.deliveries.flatMap Delivery.toSend).count x +
      s.sent.count x ≤ 1 := hi.once x
    show ((s.deliveries.set i d').flatMap Delivery.toMark).count x +
      ((s.deliveries.set i d').flatMap Delivery.toSend).count x + s.sent.count x ≤ 1
    omega

/-- Rows that are pending and that nobody has taken are taken. -/
theorem DeliveryInv.claim (hi : DeliveryInv s) {via : Channel} {deviceId : ℕ}
    (hd : s.deliveries[i]? = some (.select via deviceId))
    (hclaim : ∀ r ∈ pendingCommands s.rows deviceId, r.id ∉ s.toMark ∧ r.id ∉ s.sent) :
    DeliveryInv { s with
      deliveries := s.deliveries.set i (.mark via ((pendingCommands s.rows deviceId).map QueueRow.id)) } where
  ids := hi.ids
  known x hx := by
    obtain hx | hx := hx
    · obtain hx | hx := Pool.mem_flatMap_set hx
      · exact hi.known x (.inl hx)
      · obtain ⟨r, hr, rfl⟩ := List.mem_map.mp hx
        exact List.mem_map_of_mem (mem_pendingCommands hr).1
    · exact hi.known x (.inr ((Pool.mem_flatMap_set hx).resolve_right List.not_mem_nil))
  marked r hr hx := hi.marked r hr ((Pool.mem_flatMap_set hx).resolve_right List.not_mem_nil)
  once x := by
    have hm := Pool.count_flatMap_set hd (.mark via ((pendingCommands s.rows deviceId).map QueueRow.id))
      Delivery.toMark x
    have hs := Pool.count_flatMap_set hd (.mark via ((pendingCommands s.rows deviceId).map QueueRow.id))
      Delivery.toSend x
    have hone : ((pendingCommands s.rows deviceId).map QueueRow.id).count x ≤ 1 :=
      List.nodup_iff_count_le_one.mp (nodup_pendingCommands hi.ids) x
    have hle := hi.once x
    have hfree : x ∈ (pendingCommands s.rows deviceId).map QueueRow.id →
        s.toMark.count x = 0 ∧ s.toSend.count x = 0 ∧ s.sent.count x = 0 := by
      intro hx
      obtain ⟨r, hr, rfl⟩ := List.mem_map.mp hx
      obtain ⟨hrow, hpend⟩ := mem_pendingCommands hr
      refine ⟨List.count_eq_zero.mpr (hclaim r hr).1, List.count_eq_zero.mpr fun hsend => ?_,
        List.count_eq_zero.mpr (hclaim r hr).2⟩
      rw [hi.marked r hrow hsend] at hpend
      cases hpend
    change ((s.deliveries.set i _).flatMap Delivery.toMark).count x + 0 =
      s.toMark.count x + ((pendingCommands s.rows deviceId).map QueueRow.id).count x at hm
    change ((s.deliveries.set i _).flatMap Delivery.toSend).count x + 0 = s.toSend.count x + 0 at hs
    show ((s.deliveries.set i _).flatMap Delivery.toMark).count x +
      ((s.deliveries.set i _).flatMap Delivery.toSend).count x + s.sent.count x ≤ 1
    by_cases hx : x ∈ (pendingCommands s.rows deviceId).map QueueRow.id
    · obtain ⟨hmark, hsend, hsent⟩ := hfree hx
      omega
    · rw [List.count_eq_zero.mpr hx] at hm
      omega

theorem DeliveryInv.markSent (hi : DeliveryInv s) {via : Channel} {ids : List ℕ}
    (hd : s.deliveries[i]? = some (.mark via ids)) :
    DeliveryInv { s with rows := markSent s.rows ids, deliveries := s.deliveries.set i (.send via ids) } := by
  have hheld : ∀ x ∈ ids, x ∈ s.toMark := fun x hx =>
    List.mem_flatMap.mpr ⟨_, List.mem_of_getElem? hd, hx⟩
  have hset : DeliveryInv { s with rows := Commands.markSent s.rows ids } := hi.setStatus _ (by decide)
  constructor
  · exact hset.ids
  · intro x hx
    obtain hx | hx := hx
    · exact hset.known x (.inl ((Pool.mem_flatMap_set hx).resolve_right List.not_mem_nil))
    · obtain hx | hx := Pool.mem_flatMap_set hx
      · exact hset.known x (.inr hx)
      · exact hset.known x (.inl (hheld x hx))
  · intro r hr hx
    obtain hx | hx := Pool.mem_flatMap_set hx
    · exact hset.marked r hr hx
    · exact not_pending_markSent hr hx
  · intro x
    have hm := Pool.count_flatMap_set hd (.send via ids) Delivery.toMark x
    have hs := Pool.count_flatMap_set hd (.send via ids) Delivery.toSend x
    have hle := hi.once x
    change ((s.deliveries.set i _).flatMap Delivery.toMark).count x + ids.count x = s.toMark.count x + 0 at hm
    change ((s.deliveries.set i _).flatMap Delivery.toSend).count x + 0 = s.toSend.count x + ids.count x at hs
    show ((s.deliveries.set i _).flatMap Delivery.toMark).count x +
      ((s.deliveries.set i _).flatMap Delivery.toSend).count x + s.sent.count x ≤ 1
    omega

theorem DeliveryInv.send (hi : DeliveryInv s) {via : Channel} {ids : List ℕ}
    (hd : s.deliveries[i]? = some (.send via ids)) :
    DeliveryInv { s with wire := s.wire ++ ids, deliveries := s.deliveries.set i .done } := by
  have hdrop := hi.drop hd .done rfl rfl
  refine ⟨hdrop.ids, hdrop.known, hdrop.marked, fun x => ?_⟩
  have hm := Pool.count_flatMap_set hd .done Delivery.toMark x
  have hs := Pool.count_flatMap_set hd .done Delivery.toSend x
  have hle := hi.once x
  change ((s.deliveries.set i _).flatMap Delivery.toMark).count x + 0 = s.toMark.count x + 0 at hm
  change ((s.deliveries.set i _).flatMap Delivery.toSend).count x + ids.count x = s.toSend.count x + 0 at hs
  show ((s.deliveries.set i _).flatMap Delivery.toMark).count x +
    ((s.deliveries.set i _).flatMap Delivery.toSend).count x + (s.wire ++ ids ++ s.handled).count x ≤ 1
  unfold QueueState.sent at hle
  rw [List.count_append] at hle
  rw [List.count_append, List.count_append]
  omega

/-- A command that nobody has taken is sent. -/
theorem DeliveryInv.hand (hi : DeliveryInv s) {id : ℕ} (hmark : id ∉ s.toMark) (hsend : id ∉ s.toSend)
    (hsent : id ∉ s.sent) : DeliveryInv { s with wire := s.wire ++ [id] } := by
  refine ⟨hi.ids, hi.known, hi.marked, fun x => ?_⟩
  have hle := hi.once x
  rw [← List.count_eq_zero] at hmark hsend hsent
  have hadd : (s.wire ++ [id] ++ s.handled).count x = s.sent.count x + [id].count x := by
    unfold QueueState.sent
    simp only [List.count_append]
    omega
  show s.toMark.count x + s.toSend.count x + (s.wire ++ [id] ++ s.handled).count x ≤ 1
  rw [hadd]
  by_cases hx : x = id
  · subst hx
    rw [List.count_singleton_self]
    omega
  · rw [List.count_singleton, if_neg (by simpa using Ne.symm hx)]
    omega

theorem count_eraseIdx_add {wire : List ℕ} {id : ℕ} (h : wire[i]? = some id) (x : ℕ) :
    (wire.eraseIdx i).count x + [id].count x = wire.count x := by
  obtain ⟨hlt, rfl⟩ := List.getElem?_eq_some_iff.mp h
  have hperm := (List.getElem_cons_eraseIdx_perm hlt).count_eq x
  rw [← hperm, List.count_cons, List.count_cons, List.count_nil, Nat.zero_add]

theorem DeliveryInv.receive (hi : DeliveryInv s) {id : ℕ} (h : s.wire[i]? = some id) :
    DeliveryInv { s with wire := s.wire.eraseIdx i, handled := s.handled ++ [id] } := by
  refine ⟨hi.ids, hi.known, hi.marked, fun x => ?_⟩
  have hle := hi.once x
  have hcount := count_eraseIdx_add h x
  unfold QueueState.toMark QueueState.toSend QueueState.sent at *
  simp only [List.count_append] at hle ⊢
  omega

theorem DeliveryInv.lose (hi : DeliveryInv s) (i : ℕ) : DeliveryInv { s with wire := s.wire.eraseIdx i } := by
  refine ⟨hi.ids, hi.known, hi.marked, fun x => ?_⟩
  have hle := hi.once x
  have hcount : (s.wire.eraseIdx i).count x ≤ s.wire.count x := (List.eraseIdx_sublist ..).count_le x
  unfold QueueState.toMark QueueState.toSend QueueState.sent at *
  simp only [List.count_append] at hle ⊢
  omega

end Replace

/-- The next statement of a delivery. -/
theorem deliveryInv_resume (hi : DeliveryInv s) {i : ℕ} {connected : Bool} {d : Delivery}
    (hd : s.deliveries[i]? = some d) (hclaim : d.claimsAlone s connected) :
    DeliveryInv { (stepDelivery s connected d).1 with
      deliveries := s.deliveries.set i (stepDelivery s connected d).2 } := by
  cases d with
  | select via deviceId =>
      simp only [stepDelivery]
      split
      · exact hi.drop hd _ rfl rfl
      · exact hi.claim hd hclaim
  | mark via ids => exact hi.markSent hd
  | send via ids =>
      simp only [stepDelivery]
      split
      · exact hi.drop hd _ rfl rfl
      · exact hi.send hd
  | push id =>
      cases connected with
      | false => exact hi.drop hd _ rfl rfl
      | true =>
          obtain ⟨hmark, hsend, hsent⟩ := hclaim rfl
          exact (hi.hand hmark hsend hsent).drop hd (.markPushed id) rfl rfl
  | markPushed id => exact (hi.setStatus _ (by decide)).drop hd .done rfl rfl
  | done => exact hi.drop hd _ rfl rfl

theorem deliveryInv_step (hi : DeliveryInv s) {a : QueueAction} (ha : ClaimsAlone s a)
    (h : stepQueue s a = some t) : DeliveryInv t := by
  cases a with
  | enqueue id deviceId priority createdAt direct =>
      simp only [stepQueue] at h
      split at h
      · cases h
      · have henq := hi.enqueue ⟨id, deviceId, .pending, priority, createdAt⟩ ‹_›
        cases h
        split
        · exact henq.start rfl rfl
        · exact henq
  | push deviceId =>
      cases h
      exact hi.start rfl rfl
  | reconnect deviceId =>
      cases h
      exact hi.start rfl rfl
  | resume i connected =>
      obtain ⟨d, hd, rfl⟩ := Option.map_eq_some_iff.mp h
      exact deliveryInv_resume hi hd (ha d hd)
  | throw i =>
      cases h
      cases hd : s.deliveries[i]? with
      | none =>
          rw [List.set_eq_of_length_le (List.getElem?_eq_none_iff.mp hd)]
          exact hi
      | some d => exact hi.drop hd _ rfl rfl
  | ack deviceId id status =>
      cases h
      exact hi.setStatus _ (by cases status <;> decide)
  | cancel id | expire id =>
      cases h
      exact hi.setStatus _ (by decide)
  | receive i =>
      obtain ⟨id, hid, rfl⟩ := Option.map_eq_some_iff.mp h
      exact hi.receive hid
  | lose i =>
      cases h
      exact hi.lose i

end Steps

/-! ## Runs -/

/-- **The agent is given every command at most once**, while every delivery takes its rows alone. -/
theorem handled_once {s : QueueState} (h : Reach deliveryMachine ClaimsAlone s) (id : ℕ) :
    s.handled.count id ≤ 1 := by
  have hi : DeliveryInv s := by
    refine h.invariant ?_ fun _ _ _ hi ha hs => deliveryInv_step hi ha hs
    rintro _ rfl
    exact deliveryInv_empty
  have hle := hi.once id
  unfold QueueState.sent at hle
  rw [List.count_append] at hle
  omega

/-- A command posted and pushed, one that waits for a push response, and a reconnect after that. -/
def deliveredAlone : List QueueAction :=
  [.enqueue 10 5 1 0 true, .resume 0 true, .receive 0, .resume 0 true, .enqueue 11 5 1 1 false, .push 5,
    .resume 1 false, .resume 1 false, .reconnect 5, .resume 2 true, .resume 1 false, .receive 0,
    .ack 5 10 .success, .ack 5 11 .success]

def deliveredAloneState : QueueState := (deliveryMachine.exec .empty deliveredAlone).getD .empty

theorem handled_once_deliveredAlone :
    deliveredAloneState.handled = [10, 11] ∧ deliveredAloneState.handled.count 10 ≤ 1 :=
  ⟨by decide, handled_once
    ((Reach.start (M := deliveryMachine) (s := .empty) rfl).of_exec deliveredAlone (by decide) (by decide)) 10⟩

/-- A push and a reconnect both read the row of a reboot before either has marked it. -/
theorem command_handled_twice :
    ¬ ∀ s : QueueState, Reach deliveryMachine anyStep s → ∀ id, s.handled.count id ≤ 1 := by
  intro h
  have htwice := h _ (reach_of_exec (M := deliveryMachine) (s := .empty) rfl
    [.enqueue 10 5 1 0 false, .push 5, .reconnect 5, .resume 0 true, .resume 1 true, .resume 0 true,
      .resume 1 true, .resume 0 true, .resume 1 true, .receive 0, .receive 0] rfl) 10
  exact absurd htwice (by decide)

end Obliance.Commands
