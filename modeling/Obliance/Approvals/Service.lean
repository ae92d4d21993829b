import Mathlib.Data.Int.Notation
import Mathlib.Tactic.Common
import Obliance.Lib.GuardedRun
import Obliance.Lib.KeyedTable

/-!
# Two-step approvals (`services/approval.service.ts`)

A request waits for a second administrator. Each call reads the row, checks what it read, then writes;
between two statements of a call any other call may run.

* `ApprovalRow` : a row of `pending_approvals`; `Execution` : a run of an executor for one;
* `Call` : a call in progress, by what is left of it, or what it returned; `stepCall` its next statement;
* `approvalMachine` : requests filed, calls that start and run, and the sweeper, in any order.
-/

namespace Obliance.Approvals
open KeyedTable GuardedRun

inductive ApprovalStatus where
  | pending
  | approved
  | denied
  | executed
  | expired
  | cancelled
  deriving DecidableEq, Repr

def ApprovalStatus.text : ApprovalStatus → String
  | .pending => "pending"
  | .approved => "approved"
  | .denied => "denied"
  | .executed => "executed"
  | .expired => "expired"
  | .cancelled => "cancelled"

inductive ApprovalRequestType where
  | batchCommand
  | deviceUninstall
  | settingChange
  deriving DecidableEq, Repr

/-- The payload is its JSON text; instants in milliseconds. -/
structure ApprovalRow where
  id : ℕ
  tenantId : ℕ
  requestedBy : ℕ
  requestType : ApprovalRequestType
  description : String
  payload : String
  status : ApprovalStatus
  reviewedBy : Option ℕ
  reviewedAt : Option ℤ
  reviewReason : Option String
  createdAt : ℤ
  expiresAt : ℤ
  executedAt : Option ℤ
  deriving DecidableEq, Repr

/-- A run of `_executeBatch`, `_executeUninstall` or `_executeSettingChange`, by its arguments, and the
approval it is run for. -/
structure Execution where
  requestType : ApprovalRequestType
  tenantId : ℕ
  requestedBy : ℕ
  payload : String
  approvalId : ℕ
  reviewerId : ℕ
  deriving DecidableEq, Repr

/-- The parameters of `approve` and `deny`. -/
structure ReviewParams where
  tenantId : ℕ
  approvalId : ℕ
  reviewerId : ℕ
  reason : Option String
  deriving DecidableEq, Repr

structure CancelParams where
  tenantId : ℕ
  approvalId : ℕ
  userId : ℕ
  deriving DecidableEq, Repr

structure ServiceError where
  status : ℕ
  message : String
  deriving DecidableEq, Repr

/-- A call in progress, named after its next statement, or its result. `row` is the row it read. -/
inductive Call where
  | approve (params : ReviewParams)
  | approveExpire (row : ApprovalRow)
  | approveClaim (params : ReviewParams) (row : ApprovalRow)
  | approveExecute (params : ReviewParams) (row : ApprovalRow)
  | approveExecuted (row : ApprovalRow)
  | approveReload (row : ApprovalRow)
  | approveReturned (fresh : ApprovalRow)
  | deny (params : ReviewParams)
  | denyWrite (params : ReviewParams) (row : ApprovalRow)
  | denyReload (row : ApprovalRow)
  | denyReturned (fresh : ApprovalRow)
  | cancel (params : CancelParams)
  | cancelWrite (row : ApprovalRow)
  | cancelReload (row : ApprovalRow)
  | cancelReturned (fresh : ApprovalRow)
  | failed (error : ServiceError)
  deriving DecidableEq, Repr

/-! ## What a call decides on the row it read -/

def notFound : Call := .failed ⟨404, "Not found"⟩

def already (status : ApprovalStatus) : Call := .failed ⟨409, "Already " ++ status.text⟩

def approveChecks (params : ReviewParams) (row : ApprovalRow) (now : ℤ) : Call :=
  if row.status ≠ .pending then already row.status
  else if row.expiresAt < now then .approveExpire row
  else if row.requestedBy = params.reviewerId then .failed ⟨403, "Cannot approve your own request"⟩
  else .approveClaim params row

def denyChecks (params : ReviewParams) (row : ApprovalRow) : Call :=
  if row.status ≠ .pending then already row.status
  else if row.requestedBy = params.reviewerId then .failed ⟨403, "Cannot deny your own request"⟩
  else .denyWrite params row

def cancelChecks (params : CancelParams) (row : ApprovalRow) : Call :=
  if row.status ≠ .pending then already row.status
  else if row.requestedBy ≠ params.userId then .failed ⟨403, "Only the requester can cancel"⟩
  else .cancelWrite row

/-! ## Statements -/

/-- `WHERE id = ? AND tenant_id = ?` -/
def request (approvals : List ApprovalRow) (approvalId tenantId : ℕ) : Option ApprovalRow :=
  (get ApprovalRow.id approvals approvalId).filter fun r => r.tenantId = tenantId

/-- `WHERE id = ? AND status = 'pending'`: the row the claim of an approver updates. -/
def claimable (approvals : List ApprovalRow) (approvalId : ℕ) : Bool :=
  (get ApprovalRow.id approvals approvalId).any fun r => r.status = .pending

def ApprovalRow.review (status : ApprovalStatus) (params : ReviewParams) (now : ℤ) (r : ApprovalRow) :
    ApprovalRow :=
  { r with
    status := status
    reviewedBy := some params.reviewerId
    reviewedAt := some now
    reviewReason := params.reason }

def ApprovalRow.expire (r : ApprovalRow) : ApprovalRow := { r with status := .expired }

def ApprovalRow.markExecuted (now : ℤ) (r : ApprovalRow) : ApprovalRow :=
  { r with status := .executed, executedAt := some now }

def ApprovalRow.cancel (now : ℤ) (r : ApprovalRow) : ApprovalRow :=
  { r with status := .cancelled, reviewedAt := some now }

def execution (params : ReviewParams) (row : ApprovalRow) : Execution :=
  ⟨row.requestType, row.tenantId, row.requestedBy, row.payload, row.id, params.reviewerId⟩

/-- The row read again before a call returns; `rowToApproval` throws on none. -/
def reload (approvals : List ApprovalRow) (row : ApprovalRow) (returned : ApprovalRow → Call) : Call :=
  ((get ApprovalRow.id approvals row.id).map returned).getD
    (.failed ⟨500, "Cannot read properties of undefined (reading 'id')"⟩)

/-- What one statement of a call leaves: the table, the executor it ran, what is left of the call. -/
structure CallStep where
  approvals : List ApprovalRow
  executed : Option Execution
  next : Call
  deriving DecidableEq, Repr

/-- The next statement of a call; `throws` says whether the executor throws. -/
def stepCall (approvals : List ApprovalRow) (now : ℤ) (throws : Bool) : Call → Option CallStep
  | .approve params =>
      some ⟨approvals, none, ((request approvals params.approvalId params.tenantId).map fun row =>
        approveChecks params row now).getD notFound⟩
  | .approveExpire row =>
      some ⟨KeyedTable.modify ApprovalRow.id approvals row.id ApprovalRow.expire, none,
        .failed ⟨410, "Expired"⟩⟩
  | .approveClaim params row =>
      if claimable approvals row.id then
        some ⟨KeyedTable.modify ApprovalRow.id approvals row.id (ApprovalRow.review .approved params now), none,
          .approveExecute params row⟩
      else some ⟨approvals, none, .failed ⟨409, "Already handled"⟩⟩
  -- a thrown error is logged and the row stays 'approved'
  | .approveExecute params row =>
      some ⟨approvals, some (execution params row), if throws then .approveReload row else .approveExecuted row⟩
  | .approveExecuted row =>
      some ⟨KeyedTable.modify ApprovalRow.id approvals row.id (ApprovalRow.markExecuted now), none,
        .approveReload row⟩
  | .approveReload row => some ⟨approvals, none, reload approvals row .approveReturned⟩
  | .deny params =>
      some ⟨approvals, none,
        ((request approvals params.approvalId params.tenantId).map (denyChecks params)).getD notFound⟩
  | .denyWrite params row =>
      some ⟨KeyedTable.modify ApprovalRow.id approvals row.id (ApprovalRow.review .denied params now), none,
        .denyReload row⟩
  | .denyReload row => some ⟨approvals, none, reload approvals row .denyReturned⟩
  | .cancel params =>
      some ⟨approvals, none,
        ((request approvals params.approvalId params.tenantId).map (cancelChecks params)).getD notFound⟩
  | .cancelWrite row =>
      some ⟨KeyedTable.modify ApprovalRow.id approvals row.id (ApprovalRow.cancel now), none,
        .cancelReload row⟩
  | .cancelReload row => some ⟨approvals, none, reload approvals row .cancelReturned⟩
  | .approveReturned _ | .denyReturned _ | .cancelReturned _ | .failed _ => none

/-- `UPDATE … SET status = 'expired' WHERE status = 'pending' AND expires_at < ?` -/
def sweepExpired (approvals : List ApprovalRow) (now : ℤ) : List ApprovalRow :=
  approvals.map fun r =>
    if r.status = .pending ∧ r.expiresAt < now then r.expire else r

/-! ## The machine -/

structure ApprovalState where
  approvals : List ApprovalRow
  nextId : ℕ
  calls : List Call
  /-- Every executor that was run, in order. -/
  executions : List Execution
  deriving DecidableEq, Repr

inductive ApprovalOp where
  | create (tenantId userId : ℕ) (requestType : ApprovalRequestType) (description payload : String) (now : ℤ)
  | call (c : Call)
  | sweepExpired (now : ℤ)
  | run (i : ℕ) (now : ℤ) (throws : Bool)
  deriving DecidableEq, Repr

def expiryMinutes : ℤ := 30

def insertRequest (s : ApprovalState) (tenantId userId : ℕ) (requestType : ApprovalRequestType)
    (description payload : String) (now : ℤ) : ApprovalState :=
  { s with
    approvals := s.approvals ++ [⟨s.nextId, tenantId, userId, requestType, description, payload, .pending,
      none, none, none, now, now + expiryMinutes * 60 * 1000, none⟩]
    nextId := s.nextId + 1 }

/-- The calls that may start: `approve`, `deny` and `cancel`. -/
def Call.starts : Call → Bool
  | .approve _ | .deny _ | .cancel _ => true
  | _ => false

def runCall (s : ApprovalState) (i : ℕ) (now : ℤ) (throws : Bool) : Option ApprovalState :=
  (s.calls[i]?.bind (stepCall s.approvals now throws)).map fun st =>
    { s with
      approvals := st.approvals
      calls := s.calls.set i st.next
      executions := s.executions ++ st.executed.toList }

def approvalStep (s : ApprovalState) : ApprovalOp → Option ApprovalState
  | .create tenantId userId requestType description payload now =>
      some (insertRequest s tenantId userId requestType description payload now)
  | .call c => if c.starts then some { s with calls := s.calls ++ [c] } else none
  | .sweepExpired now => some { s with approvals := sweepExpired s.approvals now }
  | .run i now throws => runCall s i now throws

/-- No request is filed and no call has started. -/
def approvalMachine : Machine ApprovalState ApprovalOp where
  init s := s.approvals = [] ∧ s.calls = [] ∧ s.executions = []
  step := approvalStep

end Obliance.Approvals
