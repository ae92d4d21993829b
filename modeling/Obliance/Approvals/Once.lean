import Mathlib.Order.Nat
import Obliance.Approvals.Service
import Obliance.Lib.Pool

/-!
# A request is handled once

* `ApprovalInv` : in any run, an executor that was or will be run for a request and the request being
  open exclude each other, and no approver is the requester;
* `DecidedInv` : while the unconditional writes spare granted requests, a decision is final, and
  executors go with granted requests, successful denials and cancellations with refused ones;
* `approvals_handled_once` : what both say about every run.
-/

namespace Obliance.Approvals
open KeyedTable GuardedRun

/-- What a status decides about the action. -/
inductive Decision where
  | undecided
  | granted
  | refused
  deriving DecidableEq, Repr

def ApprovalStatus.decision : ApprovalStatus → Decision
  | .pending => .undecided
  | .approved | .executed => .granted
  | .denied | .expired | .cancelled => .refused

def decisionOf (approvals : List ApprovalRow) (id : ℕ) : Option Decision :=
  (get ApprovalRow.id approvals id).map fun r => r.status.decision

/-- Nothing is decided about the request, or it is not filed yet. -/
def isOpen (approvals : List ApprovalRow) (id : ℕ) : Bool :=
  decide (decisionOf approvals id ≠ some .granted ∧ decisionOf approvals id ≠ some .refused)

def requesterOf (approvals : List ApprovalRow) (id : ℕ) : Option ℕ :=
  (get ApprovalRow.id approvals id).map ApprovalRow.requestedBy

/-- The call has claimed the request and has not run its executor yet. -/
def Call.claims (id : ℕ) : Call → Bool
  | .approveExecute _ row => decide (row.id = id)
  | _ => false

/-- The executors run for a request, and those a call is about to run. -/
def claimsOf (s : ApprovalState) (id : ℕ) : ℕ :=
  s.executions.countP (fun e => e.approvalId = id) + s.calls.countP (Call.claims id)

/-- The call has denied or cancelled the request, whether it has returned or not. -/
def Call.refuses (id : ℕ) : Call → Bool
  | .denyReload row | .denyReturned row | .cancelReload row | .cancelReturned row => decide (row.id = id)
  | _ => false

/-- The unconditional writes of `approve` (expiry), `deny` and `cancel` find no granted request. -/
def Call.sparesGranted (approvals : List ApprovalRow) : Call → Prop
  | .approveExpire row | .denyWrite _ row | .cancelWrite row => decisionOf approvals row.id ≠ some .granted
  | _ => True

def SparesGranted (s : ApprovalState) : ApprovalOp → Prop
  | .run i _ _ => ∀ c ∈ s.calls[i]?, c.sparesGranted s.approvals
  | _ => True

instance (approvals : List ApprovalRow) : ∀ c : Call, Decidable (c.sparesGranted approvals)
  | .approveExpire _ | .denyWrite _ _ | .cancelWrite _ => instDecidableNot
  | .approve _ | .approveClaim _ _ | .approveExecute _ _ | .approveExecuted _ | .approveReload _
  | .approveReturned _ | .deny _ | .denyReload _ | .denyReturned _ | .cancel _ | .cancelReload _
  | .cancelReturned _ | .failed _ => .isTrue trivial

instance (s : ApprovalState) : ∀ op : ApprovalOp, Decidable (SparesGranted s op)
  | .run i _ _ => inferInstanceAs (Decidable (∀ c ∈ s.calls[i]?, c.sparesGranted s.approvals))
  | .create _ _ _ _ _ _ | .call _ | .sweepExpired _ => .isTrue trivial

/-! ## What the writes do to a decision -/

/-- A write that decides a request, whatever its row was. -/
structure Decides (f : ApprovalRow → ApprovalRow) (d : Decision) : Prop where
  id : ∀ r, (f r).id = r.id
  requester : ∀ r, (f r).requestedBy = r.requestedBy
  decision : ∀ r, (f r).status.decision = d
  decided : d ≠ .undecided

section Writes
variable {approvals : List ApprovalRow} {f : ApprovalRow → ApprovalRow} {id target : ℕ} {d : Decision}
  {now : ℤ} {params : ReviewParams}

theorem decides_expire : Decides ApprovalRow.expire .refused :=
  ⟨fun _ => rfl, fun _ => rfl, fun _ => rfl, Decision.noConfusion⟩

theorem decides_approve : Decides (ApprovalRow.review .approved params now) .granted :=
  ⟨fun _ => rfl, fun _ => rfl, fun _ => rfl, Decision.noConfusion⟩

theorem decides_markExecuted : Decides (ApprovalRow.markExecuted now) .granted :=
  ⟨fun _ => rfl, fun _ => rfl, fun _ => rfl, Decision.noConfusion⟩

theorem decides_deny : Decides (ApprovalRow.review .denied params now) .refused :=
  ⟨fun _ => rfl, fun _ => rfl, fun _ => rfl, Decision.noConfusion⟩

theorem decides_cancel : Decides (ApprovalRow.cancel now) .refused :=
  ⟨fun _ => rfl, fun _ => rfl, fun _ => rfl, Decision.noConfusion⟩

theorem decisionOf_modify (hf : Decides f d) :
    decisionOf (KeyedTable.modify ApprovalRow.id approvals target f) id =
      if id = target then (decisionOf approvals id).map fun _ => d else decisionOf approvals id := by
  unfold decisionOf
  split_ifs with h
  · subst h
    rw [get_modify_self hf.id, Option.map_map, Option.map_map]
    exact congrFun (congrArg Option.map (funext hf.decision)) _
  · rw [get_modify_ne hf.id h]

theorem requesterOf_map (hid : ∀ r, (f r).id = r.id) (hf : ∀ r, (f r).requestedBy = r.requestedBy) :
    requesterOf (approvals.map f) id = requesterOf approvals id := by
  unfold requesterOf
  rw [get_map hid, Option.map_map]
  exact congrFun (congrArg Option.map (funext hf)) _

theorem requesterOf_modify (hf : Decides f d) :
    requesterOf (KeyedTable.modify ApprovalRow.id approvals target f) id = requesterOf approvals id := by
  refine requesterOf_map (fun r => key_ite hf.id r) fun r => ?_
  split_ifs
  · exact hf.requester r
  · rfl

/-- A decision is one of the rows the sweeper leaves alone. -/
theorem decisionOf_sweepExpired (now : ℤ) (hd : d ≠ .undecided) (h : decisionOf approvals id = some d) :
    decisionOf (sweepExpired approvals now) id = some d := by
  obtain ⟨r, hr, rfl⟩ := Option.map_eq_some_iff.1 h
  have hkey : ∀ r : ApprovalRow, (if r.status = .pending ∧ r.expiresAt < now then
      r.expire else r).id = r.id := by
    intro r
    split_ifs <;> rfl
  rw [decisionOf, sweepExpired, get_map hkey, hr, Option.map_some, Option.map_some, if_neg]
  rintro ⟨hpending, -⟩
  rw [hpending] at hd
  exact hd rfl

theorem requesterOf_sweepExpired (now : ℤ) : requesterOf (sweepExpired approvals now) id =
    requesterOf approvals id := by
  refine requesterOf_map (fun r => ?_) fun r => ?_ <;> split_ifs <;> rfl

/-- A new request changes what is known about no other. -/
theorem get_append_of_some (r : ApprovalRow) {r' : ApprovalRow}
    (h : get ApprovalRow.id approvals id = some r') :
    get ApprovalRow.id (approvals ++ [r]) id = some r' := by
  unfold KeyedTable.get at *
  rw [List.find?_append, h, Option.some_or]

theorem isOpen_append {r : ApprovalRow} (hr : r.status = .pending) :
    isOpen (approvals ++ [r]) id = isOpen approvals id := by
  have hget : get ApprovalRow.id (approvals ++ [r]) id =
      (get ApprovalRow.id approvals id).or (if r.id = id then some r else none) := by
    unfold KeyedTable.get
    rw [List.find?_append, List.find?_singleton]
    simp only [decide_eq_true_eq]
  unfold isOpen decisionOf
  rw [hget]
  cases get ApprovalRow.id approvals id with
  | some r' => rfl
  | none =>
      rw [Option.none_or]
      split_ifs
      · simp [hr, ApprovalStatus.decision]
      · rfl

/-- A write that decides opens no request. -/
theorem isOpen_modify_le (hf : Decides f d) :
    (isOpen (KeyedTable.modify ApprovalRow.id approvals target f) id).toNat ≤ (isOpen approvals id).toNat := by
  cases h : isOpen (KeyedTable.modify ApprovalRow.id approvals target f) id with
  | false => exact Nat.zero_le _
  | true =>
      rw [isOpen, decide_eq_true_eq, decisionOf_modify hf] at h
      suffices hopen : isOpen approvals id = true from (congrArg Bool.toNat hopen).ge
      rw [isOpen, decide_eq_true_eq]
      split_ifs at h with htarget
      · cases hdec : decisionOf approvals id with
        | none => exact ⟨nofun, nofun⟩
        | some d' =>
            rw [hdec, Option.map_some] at h
            cases hd : d with
            | undecided => exact absurd hd hf.decided
            | granted => exact absurd (congrArg some hd) h.1
            | refused => exact absurd (congrArg some hd) h.2
      · exact h

/-- The claim of an approver decides an open request. -/
theorem isOpen_claim (hf : Decides f .granted) (h : claimable approvals target = true) :
    isOpen approvals target = true ∧
      isOpen (KeyedTable.modify ApprovalRow.id approvals target f) target = false := by
  obtain ⟨r, hr, hpending⟩ := (Option.any_eq_true _ _).1 h
  have hdec : decisionOf approvals target = some .undecided := by
    rw [decisionOf, hr, Option.map_some, of_decide_eq_true hpending]
    rfl
  constructor
  · rw [isOpen, hdec]
    simp
  · rw [isOpen, decisionOf_modify hf, if_pos rfl, hdec]
    simp

theorem isOpen_eq_false (h : isOpen approvals id = false) :
    decisionOf approvals id = some .granted ∨ decisionOf approvals id = some .refused := by
  by_contra hnot
  rw [not_or] at hnot
  rw [isOpen, decide_eq_true hnot] at h
  cases h

theorem not_isOpen (hd : d ≠ .undecided) (h : decisionOf approvals id = some d) :
    isOpen approvals id = false := by
  rw [isOpen, h]
  cases d with
  | undecided => exact absurd rfl hd
  | granted => simp
  | refused => simp

end Writes

/-! ## Any run -/

/-- The row a call read is still that of the same requester. -/
def SameRequester (approvals : List ApprovalRow) (row : ApprovalRow) : Prop :=
  requesterOf approvals row.id = some row.requestedBy

def CallSound (approvals : List ApprovalRow) : Call → Prop
  | .approveClaim params row | .approveExecute params row =>
      SameRequester approvals row ∧ row.requestedBy ≠ params.reviewerId
  | .approveExpire row | .approveExecuted row | .approveReload row | .denyWrite _ row | .denyReload row
  | .cancelWrite row | .cancelReload row => SameRequester approvals row
  | _ => True

structure ApprovalInv (s : ApprovalState) : Prop where
  once : ∀ id, claimsOf s id + (isOpen s.approvals id).toNat ≤ 1
  calls : ∀ c ∈ s.calls, CallSound s.approvals c
  executed : ∀ e ∈ s.executions, requesterOf s.approvals e.approvalId = some e.requestedBy ∧
    e.requestedBy ≠ e.reviewerId

section Steps
variable {approvals : List ApprovalRow} {now : ℤ} {throws : Bool} {c : Call} {st : CallStep} {id : ℕ}

theorem sameRequester_request {approvalId tenantId : ℕ} {row : ApprovalRow}
    (h : request approvals approvalId tenantId = some row) : SameRequester approvals row := by
  have hget := (Option.filter_eq_some_iff.1 h).1
  rw [SameRequester, key_of_get hget, requesterOf, hget, Option.map_some]

/-- What a call has read or checked stays true of the table while requesters stay the same. -/
theorem CallSound.congr {approvals' : List ApprovalRow}
    (hr : ∀ id n, requesterOf approvals id = some n → requesterOf approvals' id = some n)
    (h : CallSound approvals c) : CallSound approvals' c := by
  cases c with
  | approveClaim p row | approveExecute p row => exact ⟨hr _ _ h.1, h.2⟩
  | approveExpire row | approveExecuted row | approveReload row | denyWrite p row | denyReload row
  | cancelWrite row | cancelReload row => exact hr _ _ h
  | _ => trivial

/-- No statement of a call changes a requester. -/
theorem requesterOf_stepCall (h : stepCall approvals now throws c = some st) :
    requesterOf st.approvals id = requesterOf approvals id := by
  cases c with
  | approveExpire row => cases h; exact requesterOf_modify decides_expire
  | approveExecuted row => cases h; exact requesterOf_modify decides_markExecuted
  | denyWrite p row => cases h; exact requesterOf_modify decides_deny
  | cancelWrite row => cases h; exact requesterOf_modify decides_cancel
  | approveClaim p row =>
      simp only [stepCall] at h
      split at h
      · cases h
        exact requesterOf_modify decides_approve
      · cases h
        rfl
  | approve p | approveExecute p row | approveReload row | deny p | denyReload row | cancel p
  | cancelReload row => cases h; rfl
  | approveReturned row | denyReturned row | cancelReturned row | failed err => cases h

section Next
variable {P : Call → Prop} (hfailed : ∀ err, P (.failed err))
include hfailed

/-- An approval that has read its request fails, goes on to expire it, or goes on to claim it for a
reviewer who is not the requester. -/
theorem next_approve {p : ReviewParams}
    (hexpire : ∀ row, request approvals p.approvalId p.tenantId = some row → P (.approveExpire row))
    (hclaim : ∀ row, request approvals p.approvalId p.tenantId = some row → row.requestedBy ≠ p.reviewerId →
      P (.approveClaim p row)) :
    P (((request approvals p.approvalId p.tenantId).map fun row => approveChecks p row now).getD notFound) := by
  cases hreq : request approvals p.approvalId p.tenantId with
  | none => exact hfailed _
  | some row =>
      dsimp only [Option.map_some, Option.getD_some, approveChecks]
      split_ifs with hstatus hold hself
      · exact hfailed _
      · exact hexpire row hreq
      · exact hfailed _
      · exact hclaim row hreq hself

theorem next_deny {p : ReviewParams}
    (hwrite : ∀ row, request approvals p.approvalId p.tenantId = some row → P (.denyWrite p row)) :
    P (((request approvals p.approvalId p.tenantId).map (denyChecks p)).getD notFound) := by
  cases hreq : request approvals p.approvalId p.tenantId with
  | none => exact hfailed _
  | some row =>
      dsimp only [Option.map_some, Option.getD_some, denyChecks]
      split_ifs
      · exact hfailed _
      · exact hfailed _
      · exact hwrite row hreq

theorem next_cancel {p : CancelParams}
    (hwrite : ∀ row, request approvals p.approvalId p.tenantId = some row → P (.cancelWrite row)) :
    P (((request approvals p.approvalId p.tenantId).map (cancelChecks p)).getD notFound) := by
  cases hreq : request approvals p.approvalId p.tenantId with
  | none => exact hfailed _
  | some row =>
      dsimp only [Option.map_some, Option.getD_some, cancelChecks]
      split_ifs
      · exact hfailed _
      · exact hfailed _
      · exact hwrite row hreq

/-- The last read of a call returns the row it wrote. -/
theorem next_reload {row : ApprovalRow} {returned : ApprovalRow → Call}
    (hreturned : ∀ fresh : ApprovalRow, fresh.id = row.id → P (returned fresh)) :
    P (reload approvals row returned) := by
  unfold reload
  cases hget : get ApprovalRow.id approvals row.id with
  | none => exact hfailed _
  | some fresh => exact hreturned fresh (key_of_get hget)

end Next

/-- What a call decides on the row it read claims nothing yet. -/
theorem claims_approve {p : ReviewParams} : (((request approvals p.approvalId p.tenantId).map fun row =>
    approveChecks p row now).getD notFound).claims id = false := by
  refine @next_approve _ _ (fun c => c.claims id = false) ?_ p ?_ ?_ <;> intros <;> rfl

theorem claims_deny {p : ReviewParams} :
    (((request approvals p.approvalId p.tenantId).map (denyChecks p)).getD notFound).claims id = false := by
  refine @next_deny _ (fun c => c.claims id = false) ?_ p ?_ <;> intros <;> rfl

theorem claims_cancel {p : CancelParams} :
    (((request approvals p.approvalId p.tenantId).map (cancelChecks p)).getD notFound).claims id = false := by
  refine @next_cancel _ (fun c => c.claims id = false) ?_ p ?_ <;> intros <;> rfl

theorem claims_reload {row : ApprovalRow} {returned : ApprovalRow → Call}
    (hr : ∀ fresh, (returned fresh).claims id = false) : (reload approvals row returned).claims id = false :=
  @next_reload _ (fun c => c.claims id = false) (fun _ => rfl) row returned fun fresh _ => hr fresh

/-- **The tokens of a request**: being open, an executor to be run, an executor that was run. A statement
only passes them on. -/
theorem stepCall_tokens (h : stepCall approvals now throws c = some st) (id : ℕ) :
    st.executed.toList.countP (fun e => e.approvalId = id) + (st.next.claims id).toNat +
      (isOpen st.approvals id).toNat ≤ (c.claims id).toNat + (isOpen approvals id).toNat := by
  cases c with
  | approve p =>
      cases h
      simp [claims_approve]
  | deny p =>
      cases h
      simp [claims_deny]
  | cancel p =>
      cases h
      simp [claims_cancel]
  | approveExpire row =>
      cases h
      simpa [Call.claims] using isOpen_modify_le decides_expire
  | denyWrite p row =>
      cases h
      simpa [Call.claims] using isOpen_modify_le decides_deny
  | cancelWrite row =>
      cases h
      simpa [Call.claims] using isOpen_modify_le decides_cancel
  | approveExecuted row =>
      cases h
      simpa [Call.claims] using isOpen_modify_le decides_markExecuted
  | approveClaim p row =>
      simp only [stepCall] at h
      split at h
      · rename_i hclaim
        cases h
        by_cases hid : row.id = id
        · subst hid
          obtain ⟨hbefore, hafter⟩ := isOpen_claim (@decides_approve now p) hclaim
          rw [hbefore, hafter]
          simp [Call.claims]
        · simpa [Call.claims, hid] using isOpen_modify_le decides_approve
      · cases h
        simp [Call.claims]
  | approveExecute p row =>
      cases h
      have hnext : (if throws = true then Call.approveReload row else .approveExecuted row).claims id = false := by
        split_ifs <;> rfl
      rw [hnext]
      by_cases hid : row.id = id <;> simp [execution, Call.claims, hid]
  | approveReload row | denyReload row | cancelReload row =>
      cases h
      rw [claims_reload fun _ => rfl]
      simp [Call.claims]
  | approveReturned row | denyReturned row | cancelReturned row | failed err => cases h

theorem stepCall_sound (h : stepCall approvals now throws c = some st) (hc : CallSound approvals c) :
    CallSound approvals st.next := by
  have hfailed : ∀ err, CallSound approvals (.failed err) := fun _ => trivial
  cases c with
  | approve p =>
      cases h
      exact next_approve hfailed (fun row hread => sameRequester_request hread)
        fun row hread hself => ⟨sameRequester_request hread, hself⟩
  | deny p =>
      cases h
      exact next_deny hfailed fun row hread => sameRequester_request hread
  | cancel p =>
      cases h
      exact next_cancel hfailed fun row hread => sameRequester_request hread
  | approveClaim p row =>
      simp only [stepCall] at h
      split at h
      · cases h
        exact hc
      · cases h
        trivial
  | approveExecute p row =>
      cases h
      dsimp only
      split_ifs
      · exact hc.1
      · exact hc.1
  | approveExpire row => cases h; trivial
  | approveExecuted row | denyWrite p row | cancelWrite row => cases h; exact hc
  | approveReload row | denyReload row | cancelReload row =>
      cases h
      exact next_reload hfailed fun _ _ => trivial
  | approveReturned row | denyReturned row | cancelReturned row | failed err => cases h

/-- Only a call that has claimed its request runs an executor. -/
theorem stepCall_executed (h : stepCall approvals now throws c = some st) {e : Execution}
    (he : st.executed = some e) : ∃ params row, c = .approveExecute params row ∧ e = execution params row := by
  cases c with
  | approveExecute p row =>
      cases h
      cases he
      exact ⟨p, row, rfl, rfl⟩
  | approveClaim p row =>
      simp only [stepCall] at h
      split at h
      · cases h
        cases he
      · cases h
        cases he
  | approveExpire row | approveExecuted row | denyWrite p row | cancelWrite row | approve p
  | approveReload row | deny p | denyReload row | cancel p | cancelReload row =>
      cases h
      cases he
  | approveReturned row | denyReturned row | cancelReturned row | failed err => cases h

end Steps

section Invariant
variable {s t : ApprovalState}

/-- A statement of the `i`-th call. -/
theorem runCall_cases {i : ℕ} {now : ℤ} {throws : Bool} (h : runCall s i now throws = some t) :
    ∃ c st, s.calls[i]? = some c ∧ stepCall s.approvals now throws c = some st ∧
      t = { s with
        approvals := st.approvals
        calls := s.calls.set i st.next
        executions := s.executions ++ st.executed.toList } := by
  obtain ⟨st, hst, rfl⟩ := Option.map_eq_some_iff.1 h
  obtain ⟨c, hc, hst⟩ := Option.bind_eq_some_iff.1 hst
  exact ⟨c, st, hc, hst, rfl⟩

theorem toNat_eq_ite (b : Bool) : b.toNat = if b = true then 1 else 0 := by
  cases b <;> rfl

theorem ApprovalInv.run (h : ApprovalInv s) {i : ℕ} {now : ℤ} {throws : Bool}
    (hs : runCall s i now throws = some t) : ApprovalInv t := by
  obtain ⟨c, st, hc, hst, rfl⟩ := runCall_cases hs
  have hsound := h.calls c (List.mem_of_getElem? hc)
  have hsame : ∀ id, requesterOf st.approvals id = requesterOf s.approvals id := fun id => requesterOf_stepCall hst
  refine ⟨fun id => ?_, fun c' hc' => ?_, fun e he => ?_⟩
  · have htokens := stepCall_tokens hst id
    have hset := Pool.countP_set_add hc st.next (Call.claims id)
    have honce := h.once id
    simp only [claimsOf, List.countP_append, toNat_eq_ite] at *
    omega
  · have hkept : CallSound s.approvals c' := by
      rcases List.mem_or_eq_of_mem_set hc' with hc' | rfl
      · exact h.calls c' hc'
      · exact stepCall_sound hst hsound
    exact hkept.congr fun id n hn => (hsame id).trans hn
  · change requesterOf st.approvals e.approvalId = _ ∧ _
    rw [hsame]
    rcases List.mem_append.1 he with he | he
    · exact h.executed e he
    · obtain ⟨p, row, rfl, rfl⟩ := stepCall_executed hst (Option.mem_toList.1 he)
      exact hsound

theorem ApprovalInv.step (h : ApprovalInv s) {op : ApprovalOp} (hs : approvalStep s op = some t) :
    ApprovalInv t := by
  cases op with
  | create tenantId userId requestType description payload now =>
      cases hs
      have hkeep : ∀ id n, requesterOf s.approvals id = some n →
          requesterOf (insertRequest s tenantId userId requestType description payload now).approvals id =
            some n := by
        intro id n hn
        obtain ⟨r, hr, rfl⟩ := Option.map_eq_some_iff.1 hn
        exact congrArg (Option.map ApprovalRow.requestedBy) (get_append_of_some _ hr)
      refine ⟨fun id => ?_, fun c hc => (h.calls c hc).congr hkeep, fun e he => ?_⟩
      · have hopen : isOpen (s.approvals ++ [(⟨s.nextId, tenantId, userId, requestType, description, payload, .pending,
            none, none, none, now, now + expiryMinutes * 60 * 1000, none⟩ : ApprovalRow)]) id =
            isOpen s.approvals id := isOpen_append rfl
        change claimsOf s id + (isOpen (_ ++ [_]) id).toNat ≤ 1
        rw [hopen]
        exact h.once id
      · exact ⟨hkeep _ _ (h.executed e he).1, (h.executed e he).2⟩
  | call c =>
      simp only [approvalStep] at hs
      split at hs
      · rename_i hstarts
        cases hs
        refine ⟨fun id => ?_, fun c' hc' => ?_, h.executed⟩
        · have hclaims : c.claims id = false := by
            cases c <;> first | rfl | cases hstarts
          have honce := h.once id
          simpa [claimsOf, hclaims] using honce
        · rcases List.mem_append.1 hc' with hc' | hc'
          · exact h.calls c' hc'
          · rw [List.mem_singleton.1 hc']
            cases c <;> trivial
      · cases hs
  | sweepExpired now =>
      cases hs
      refine ⟨fun id => ?_, fun c hc => (h.calls c hc).congr fun id n hn =>
        (requesterOf_sweepExpired now).trans hn, fun e he => ?_⟩
      · refine le_trans (Nat.add_le_add_left ?_ _) (h.once id)
        cases hopen : isOpen s.approvals id with
        | true => exact Bool.toNat_le _
        | false =>
            have hclosed : isOpen (sweepExpired s.approvals now) id = false := by
              rcases isOpen_eq_false hopen with hd | hd
              · exact not_isOpen Decision.noConfusion (decisionOf_sweepExpired now Decision.noConfusion hd)
              · exact not_isOpen Decision.noConfusion (decisionOf_sweepExpired now Decision.noConfusion hd)
            exact (congrArg Bool.toNat hclosed).le
      · exact ⟨(requesterOf_sweepExpired now).trans (h.executed e he).1, (h.executed e he).2⟩
  | run i now throws => exact h.run hs

theorem approvalInv_of_init (h : approvalMachine.init s) : ApprovalInv s := by
  obtain ⟨ha, hc, he⟩ := h
  refine ⟨fun id => ?_, by simp [hc], by simp [he]⟩
  rw [claimsOf, hc, he]
  exact (Nat.zero_add _).trans_le (Bool.toNat_le _)

theorem approvalInv_of_reach {ok : ApprovalState → ApprovalOp → Prop} (h : Reach approvalMachine ok s) :
    ApprovalInv s :=
  h.invariant (fun _ => approvalInv_of_init) fun _ _ _ hi _ hs => hi.step hs

end Invariant

/-! ## Runs whose writes spare granted requests -/

structure DecidedInv (s : ApprovalState) : Prop where
  base : ApprovalInv s
  granted : ∀ id, 0 < claimsOf s id → decisionOf s.approvals id = some .granted
  reported : ∀ row, .approveExecuted row ∈ s.calls → decisionOf s.approvals row.id = some .granted
  refused : ∀ c ∈ s.calls, ∀ id, c.refuses id = true → decisionOf s.approvals id = some .refused

section Decided
variable {approvals : List ApprovalRow} {now : ℤ} {throws : Bool} {c : Call} {st : CallStep} {id : ℕ}
  {f : ApprovalRow → ApprovalRow} {d d' : Decision} {target : ℕ}

theorem decisionOf_modify_of (hf : Decides f d') (hd : decisionOf approvals id = some d)
    (htarget : id = target → d = d') :
    decisionOf (KeyedTable.modify ApprovalRow.id approvals target f) id = some d := by
  rw [decisionOf_modify hf, hd]
  split_ifs with h
  · rw [Option.map_some, htarget h]
  · rfl

/-- **A decision is final.** -/
theorem stepCall_final (h : stepCall approvals now throws c = some st) (hspares : c.sparesGranted approvals)
    (hreported : ∀ row, c = .approveExecuted row → decisionOf approvals row.id = some .granted)
    (hd : decisionOf approvals id = some d) (hdecided : d ≠ .undecided) :
    decisionOf st.approvals id = some d := by
  have hrefused : ∀ row : ApprovalRow, decisionOf approvals row.id ≠ some .granted → id = row.id →
      d = .refused := by
    rintro row hspare rfl
    rw [hd] at hspare
    cases d with
    | undecided => exact absurd rfl hdecided
    | granted => exact absurd rfl hspare
    | refused => rfl
  cases c with
  | approveExpire row => cases h; exact decisionOf_modify_of decides_expire hd (hrefused row hspares)
  | denyWrite p row => cases h; exact decisionOf_modify_of decides_deny hd (hrefused row hspares)
  | cancelWrite row => cases h; exact decisionOf_modify_of decides_cancel hd (hrefused row hspares)
  | approveExecuted row =>
      cases h
      refine decisionOf_modify_of decides_markExecuted hd fun hid => ?_
      have hgranted := hreported row rfl
      rw [← hid, hd] at hgranted
      exact Option.some.inj hgranted
  | approveClaim p row =>
      simp only [stepCall] at h
      split at h
      · rename_i hclaim
        cases h
        refine decisionOf_modify_of decides_approve hd fun hid => ?_
        have hopen := (isOpen_claim (@decides_approve now p) hclaim).1
        rw [← hid, not_isOpen hdecided hd] at hopen
        cases hopen
      · cases h
        exact hd
  | approve p | approveExecute p row | approveReload row | deny p | denyReload row | cancel p
  | cancelReload row => cases h; exact hd
  | approveReturned row | denyReturned row | cancelReturned row | failed err => cases h

/-- A statement claims only what it grants. -/
theorem stepCall_claims (h : stepCall approvals now throws c = some st) (hn : st.next.claims id = true) :
    decisionOf st.approvals id = some .granted := by
  have hnone : ∀ {b : Bool}, b = false → b = true → decisionOf st.approvals id = some .granted := by
    rintro b rfl hb
    cases hb
  cases c with
  | approveClaim p row =>
      simp only [stepCall] at h
      split at h
      · rename_i hclaim
        cases h
        obtain rfl := of_decide_eq_true hn
        obtain ⟨r, hr, -⟩ := (Option.any_eq_true _ _).1 hclaim
        rw [decisionOf_modify decides_approve, if_pos rfl, decisionOf, hr]
        rfl
      · cases h
        cases hn
  | approve p => cases h; exact hnone claims_approve hn
  | deny p => cases h; exact hnone claims_deny hn
  | cancel p => cases h; exact hnone claims_cancel hn
  | approveReload row | denyReload row | cancelReload row =>
      cases h
      exact hnone (claims_reload fun _ => rfl) hn
  | approveExecute p row =>
      cases h
      dsimp only at hn
      split_ifs at hn
      · cases hn
      · cases hn
  | approveExpire row | approveExecuted row | denyWrite p row | cancelWrite row => cases h; cases hn
  | approveReturned row | denyReturned row | cancelReturned row | failed err => cases h

/-- Before 'executed' is written, the executor was to be run. -/
theorem stepCall_reported (h : stepCall approvals now throws c = some st) {row : ApprovalRow}
    (hn : st.next = .approveExecuted row) : c.claims row.id = true := by
  have hfailed : ∀ err, Call.failed err ≠ .approveExecuted row := fun _ => Call.noConfusion
  cases c with
  | approveExecute p r =>
      cases h
      dsimp only at hn
      split_ifs at hn
      cases hn
      exact decide_eq_true rfl
  | approveClaim p r =>
      simp only [stepCall] at h
      split at h
      · cases h
        cases hn
      · cases h
        cases hn
  | approve p =>
      cases h
      exact absurd hn (@next_approve _ now (· ≠ .approveExecuted row) hfailed p
        (fun _ _ => Call.noConfusion) fun _ _ _ => Call.noConfusion)
  | deny p =>
      cases h
      exact absurd hn (@next_deny _ (· ≠ .approveExecuted row) hfailed p fun _ _ => Call.noConfusion)
  | cancel p =>
      cases h
      exact absurd hn (@next_cancel _ (· ≠ .approveExecuted row) hfailed p fun _ _ => Call.noConfusion)
  | approveReload r | denyReload r | cancelReload r =>
      cases h
      exact absurd hn (@next_reload _ (· ≠ .approveExecuted row) hfailed r _ fun _ _ => Call.noConfusion)
  | approveExpire r | approveExecuted r | denyWrite p r | cancelWrite r => cases h; cases hn
  | approveReturned r | denyReturned r | cancelReturned r | failed err => cases h

/-- The row that a denial or a cancellation writes is there, and refused from then on. -/
theorem refused_of_write (hf : Decides f .refused) {row : ApprovalRow} (hrow : SameRequester approvals row) :
    decisionOf (KeyedTable.modify ApprovalRow.id approvals row.id f) row.id = some .refused := by
  obtain ⟨r, hr, -⟩ := Option.map_eq_some_iff.1 hrow
  rw [decisionOf_modify hf, if_pos rfl, decisionOf, hr]
  rfl

theorem stepCall_refuses (h : stepCall approvals now throws c = some st) (hc : CallSound approvals c)
    (hn : st.next.refuses id = true) :
    c.refuses id = true ∨ decisionOf st.approvals id = some .refused := by
  have hfailed : ∀ err, (Call.failed err).refuses id ≠ true := fun _ => Bool.noConfusion
  cases c with
  | denyWrite p row =>
      cases h
      obtain rfl := of_decide_eq_true hn
      exact .inr (refused_of_write decides_deny hc)
  | cancelWrite row =>
      cases h
      obtain rfl := of_decide_eq_true hn
      exact .inr (refused_of_write decides_cancel hc)
  | denyReload row | cancelReload row =>
      cases h
      refine .inl (decide_eq_true (@next_reload _ (fun next => next.refuses id = true → row.id = id)
        (fun _ => nofun) row _ (fun fresh hid hr => ?_) hn))
      exact hid.symm.trans (of_decide_eq_true hr)
  | approveReload row =>
      cases h
      exact absurd hn (@next_reload _ (fun next => next.refuses id ≠ true) hfailed row _
        fun _ _ => Bool.noConfusion)
  | approve p =>
      cases h
      exact absurd hn (@next_approve _ now (fun next => next.refuses id ≠ true) hfailed p
        (fun _ _ => Bool.noConfusion) fun _ _ _ => Bool.noConfusion)
  | deny p =>
      cases h
      exact absurd hn (@next_deny _ (fun next => next.refuses id ≠ true) hfailed p
        fun _ _ => Bool.noConfusion)
  | cancel p =>
      cases h
      exact absurd hn (@next_cancel _ (fun next => next.refuses id ≠ true) hfailed p
        fun _ _ => Bool.noConfusion)
  | approveClaim p row =>
      simp only [stepCall] at h
      split at h
      · cases h
        cases hn
      · cases h
        cases hn
  | approveExecute p row =>
      cases h
      dsimp only at hn
      split_ifs at hn
      · cases hn
      · cases hn
  | approveExpire row | approveExecuted row => cases h; cases hn
  | approveReturned row | denyReturned row | cancelReturned row | failed err => cases h

end Decided

section DecidedRuns
variable {s t : ApprovalState}

theorem claimsOf_pos_iff {id : ℕ} : 0 < claimsOf s id ↔
    (∃ e ∈ s.executions, e.approvalId = id) ∨ ∃ c ∈ s.calls, c.claims id = true := by
  rw [claimsOf, Nat.add_pos_iff_pos_or_pos, List.countP_pos_iff, List.countP_pos_iff]
  simp only [decide_eq_true_eq]

theorem DecidedInv.run (h : DecidedInv s) {i : ℕ} {now : ℤ} {throws : Bool}
    (hok : SparesGranted s (.run i now throws)) (hs : runCall s i now throws = some t) : DecidedInv t := by
  have hbase := h.base.run hs
  obtain ⟨c, st, hc, hst, rfl⟩ := runCall_cases hs
  have hmem := List.mem_of_getElem? hc
  have hfinal : ∀ id d, decisionOf s.approvals id = some d → d ≠ .undecided →
      decisionOf st.approvals id = some d := by
    intro id d hd hdecided
    exact stepCall_final hst (hok c hc) (fun row hrow => h.reported row (hrow ▸ hmem)) hd hdecided
  have hclaimed : ∀ id, 0 < claimsOf s id → decisionOf st.approvals id = some .granted := by
    intro id hpos
    exact hfinal id _ (h.granted id hpos) Decision.noConfusion
  refine ⟨hbase, fun id hpos => ?_, fun row hrow => ?_, fun c' hc' id hrefuses => ?_⟩
  · rcases claimsOf_pos_iff.1 hpos with ⟨e, he, rfl⟩ | ⟨c', hc', hclaims⟩
    · rcases List.mem_append.1 he with he | he
      · exact hclaimed _ (claimsOf_pos_iff.2 (.inl ⟨e, he, rfl⟩))
      · obtain ⟨p, row, rfl, rfl⟩ := stepCall_executed hst (Option.mem_toList.1 he)
        exact hclaimed _ (claimsOf_pos_iff.2 (.inr ⟨_, hmem, decide_eq_true rfl⟩))
    · rcases List.mem_or_eq_of_mem_set hc' with hc' | rfl
      · exact hclaimed _ (claimsOf_pos_iff.2 (.inr ⟨c', hc', hclaims⟩))
      · exact stepCall_claims hst hclaims
  · rcases List.mem_or_eq_of_mem_set hrow with hrow | hrow
    · exact hfinal _ _ (h.reported row hrow) Decision.noConfusion
    · exact hclaimed _ (claimsOf_pos_iff.2 (.inr ⟨c, hmem, stepCall_reported hst hrow.symm⟩))
  · rcases List.mem_or_eq_of_mem_set hc' with hc' | rfl
    · exact hfinal _ _ (h.refused c' hc' id hrefuses) Decision.noConfusion
    · rcases stepCall_refuses hst (h.base.calls c hmem) hrefuses with hbefore | hnow
      · exact hfinal _ _ (h.refused c hmem id hbefore) Decision.noConfusion
      · exact hnow

theorem DecidedInv.step (h : DecidedInv s) {op : ApprovalOp} (hok : SparesGranted s op)
    (hs : approvalStep s op = some t) : DecidedInv t := by
  have hbase := h.base.step hs
  cases op with
  | create tenantId userId requestType description payload now =>
      cases hs
      have hkeep : ∀ id d, decisionOf s.approvals id = some d →
          decisionOf (insertRequest s tenantId userId requestType description payload now).approvals id = some d := by
        intro id d hd
        obtain ⟨r, hr, rfl⟩ := Option.map_eq_some_iff.1 hd
        exact congrArg (Option.map _) (get_append_of_some _ hr)
      exact ⟨hbase, fun id hpos => hkeep _ _ (h.granted id hpos), fun row hrow => hkeep _ _ (h.reported row hrow),
        fun c hc id hr => hkeep _ _ (h.refused c hc id hr)⟩
  | call c =>
      simp only [approvalStep] at hs
      split at hs
      · rename_i hstarts
        cases hs
        have hold : ∀ c' ∈ s.calls ++ [c], c'.starts = false → c' ∈ s.calls := by
          intro c' hc' hnot
          rcases List.mem_append.1 hc' with hc' | hc'
          · exact hc'
          · rw [List.mem_singleton.1 hc', hstarts] at hnot
            cases hnot
        refine ⟨hbase, fun id hpos => h.granted id ?_, fun row hrow => h.reported row (hold _ hrow rfl),
          fun c' hc' id hr => h.refused c' (hold c' hc' ?_) id hr⟩
        · rcases claimsOf_pos_iff.1 hpos with he | ⟨c', hc', hclaims⟩
          · exact claimsOf_pos_iff.2 (.inl he)
          · refine claimsOf_pos_iff.2 (.inr ⟨c', hold c' hc' ?_, hclaims⟩)
            cases c' <;> first | rfl | cases hclaims
        · cases c' <;> first | rfl | cases hr
      · cases hs
  | sweepExpired now =>
      cases hs
      have hkeep : ∀ id d, d ≠ .undecided → decisionOf s.approvals id = some d →
          decisionOf (sweepExpired s.approvals now) id = some d := fun id d => decisionOf_sweepExpired now
      exact ⟨hbase, fun id hpos => hkeep _ _ Decision.noConfusion (h.granted id hpos),
        fun row hrow => hkeep _ _ Decision.noConfusion (h.reported row hrow),
        fun c hc id hr => hkeep _ _ Decision.noConfusion (h.refused c hc id hr)⟩
  | run i now throws => exact h.run hok hs

theorem decidedInv_of_reach (h : Reach approvalMachine SparesGranted s) : DecidedInv s := by
  refine h.invariant (fun s h0 => ?_) fun _ _ _ hi hok hs => hi.step hok hs
  obtain ⟨ha, hc, he⟩ := id h0
  refine ⟨approvalInv_of_init h0, fun id hpos => ?_, by simp [hc], by simp [hc]⟩
  simp [claimsOf, hc, he] at hpos

end DecidedRuns

/-! ## The result -/

/-- **Every request is handled once.** In any run its action is executed at most once, and never on the
approval of its requester. While the writes of `deny`, `cancel` and of an expired approval spare granted
requests, an executed request is neither denied nor cancelled nor expired, and one whose denial or
cancellation returned is never executed. -/
theorem approvals_handled_once {s : ApprovalState} (hs : Reach approvalMachine anyStep s) :
    ((∀ id, s.executions.countP (fun e => e.approvalId = id) ≤ 1) ∧
      ∀ e ∈ s.executions, ∀ r, get ApprovalRow.id s.approvals e.approvalId = some r →
        r.requestedBy ≠ e.reviewerId) ∧
    (Reach approvalMachine SparesGranted s →
      (∀ e ∈ s.executions, ∀ r, get ApprovalRow.id s.approvals e.approvalId = some r →
        r.status ≠ .denied ∧ r.status ≠ .cancelled ∧ r.status ≠ .expired) ∧
      ∀ fresh, .denyReturned fresh ∈ s.calls ∨ .cancelReturned fresh ∈ s.calls →
        ∀ e ∈ s.executions, e.approvalId ≠ fresh.id) := by
  refine ⟨⟨fun id => ?_, fun e he r hr => ?_⟩, fun hs => ⟨fun e he r hr => ?_, ?_⟩⟩
  · exact (Nat.le_add_right _ _).trans ((Nat.le_add_right _ _).trans ((approvalInv_of_reach hs).once id))
  · obtain ⟨hrequester, hne⟩ := (approvalInv_of_reach hs).executed e he
    rw [requesterOf, hr, Option.map_some, Option.some.injEq] at hrequester
    rwa [hrequester]
  · have hgranted := (decidedInv_of_reach hs).granted _ (claimsOf_pos_iff.2 (.inl ⟨e, he, rfl⟩))
    rw [decisionOf, hr, Option.map_some, Option.some.injEq] at hgranted
    refine ⟨?_, ?_, ?_⟩ <;> intro hst <;> rw [hst] at hgranted <;> cases hgranted
  · rintro fresh hcall e he heq
    have hinv := decidedInv_of_reach hs
    have hgranted := hinv.granted _ (claimsOf_pos_iff.2 (.inl ⟨e, he, heq⟩))
    have hrefused : decisionOf s.approvals fresh.id = some .refused := by
      rcases hcall with hc | hc
      · exact hinv.refused _ hc _ (decide_eq_true rfl)
      · exact hinv.refused _ hc _ (decide_eq_true rfl)
    rw [hgranted] at hrefused
    cases hrefused

/-- User 6 approves request 1 of user 5; user 7 comes too late to deny it. -/
def reviewedRun : List ApprovalOp :=
  [.create 1 5 .batchCommand "reboot" "{}" 0, .call (.approve ⟨1, 1, 6, none⟩), .run 0 10 false,
    .run 0 11 false, .run 0 12 false, .call (.deny ⟨1, 1, 7, none⟩), .run 1 13 false, .run 0 14 false,
    .run 0 15 false]

theorem approvals_handled_once_reviewed :
    ∃ s, approvalMachine.exec ⟨[], 1, [], []⟩ reviewedRun = some s ∧ s.executions.length = 1 ∧
      s.executions.countP (fun e => e.approvalId = 1) ≤ 1 ∧
      ∀ e ∈ s.executions, ∀ r, get ApprovalRow.id s.approvals e.approvalId = some r →
        r.status ≠ .denied ∧ r.status ≠ .cancelled ∧ r.status ≠ .expired := by
  obtain ⟨s, hs⟩ := Option.isSome_iff_exists.1
    (by decide : (approvalMachine.exec ⟨[], 1, [], []⟩ reviewedRun).isSome = true)
  have hinit : approvalMachine.init ⟨[], 1, [], []⟩ := ⟨rfl, rfl, rfl⟩
  have hreach : Reach approvalMachine SparesGranted s := (Reach.start hinit).of_exec reviewedRun (by decide) hs
  have hlength : s.executions.length = 1 := by
    have hexec : (approvalMachine.exec ⟨[], 1, [], []⟩ reviewedRun).map (fun s => s.executions.length) = some 1 :=
      by decide
    rw [hs] at hexec
    exact Option.some.inj hexec
  obtain ⟨⟨honce, -⟩, hspared⟩ := approvals_handled_once (hreach.mono fun _ _ _ => trivial)
  exact ⟨s, hs, hlength, honce 1, (hspared hreach).1⟩

/-- Users 6 and 7 read the pending request of user 5. User 6 approves it and it is executed; then the
denial of user 7 is written and returns. -/
def racedRun : List ApprovalOp :=
  [.create 1 5 .batchCommand "reboot" "{}" 0, .call (.approve ⟨1, 1, 6, none⟩),
    .call (.deny ⟨1, 1, 7, none⟩), .run 0 10 false, .run 1 11 false, .run 0 12 false, .run 0 13 false,
    .run 0 14 false, .run 0 15 false, .run 1 16 false, .run 1 17 false]

theorem executed_request_denied :
    ∃ s, Reach approvalMachine anyStep s ∧ (∃ e ∈ s.executions, e.approvalId = 1) ∧
      (∃ r, get ApprovalRow.id s.approvals 1 = some r ∧ r.status = .denied) ∧
      ∃ fresh, .denyReturned fresh ∈ s.calls ∧ fresh.id = 1 := by
  have hinit : approvalMachine.init ⟨[], 1, [], []⟩ := ⟨rfl, rfl, rfl⟩
  refine ⟨_, reach_of_exec hinit racedRun rfl, ⟨_, .head _, rfl⟩, ⟨_, rfl, rfl⟩, _, .tail _ (.head _), ?_⟩
  rfl

end Obliance.Approvals
