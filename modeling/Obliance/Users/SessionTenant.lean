import Obliance.Users.Memberships
import Obliance.Lib.GuardedRun

/-!
# The tenant of a session (`middleware/tenant.ts`, `middleware/sessionUserGuard.ts`, `routes/tenant.routes.ts`,
`services/tenant.service.ts`, `services/userSessions.service.ts`)

A session remembers the tenant it works in; every tenant-scoped request reads it from there. A request works
on a copy of its session and may save it back when it ends, also after the row was deleted.

* `Server` : the tables, the stored sessions, the requests under way and what `sessionUserGuard` has cached;
* `runRequest`, `handleRequest` : the statements of a request; `ServerStep` : these, the sign-ins and the edits
  of the memberships, in any order;
* `TenantHeld` : a request of a plain user that `requireTenant` lets on works in a tenant of that user;
* `nothingTakenUnderway` : which steps keep it so; `tenant_held_of_reach`.
-/

namespace Obliance.Users
open KeyedTable GuardedRun

/-! ## Sessions -/

/-- A signed-in session. -/
structure Session where
  sid : ℕ
  userId : ℤ
  role : PlatformRole
  currentTenantId : Option ℤ
  deriving DecidableEq, Repr

/-- `UserState` of `sessionUserGuard`: `is_active` and `role`, `none` for a user that is gone. -/
abbrev UserState := Option (Bool × PlatformRole)

/-- `state.active` -/
def letsOn (state : UserState) : Bool := state.any Prod.fst

/-- The next statement of a request. -/
inductive RequestPoint where
  /-- `sessionUserGuard`, with the state it has cached or a read of the row. -/
  | guard
  /-- The guard has read the row. -/
  | read (state : UserState)
  | routes
  /-- A switch or a repair has found its tenant, and sets it. -/
  | selecting (tenantId : ℤ)
  /-- Past `requireTenant`, or a sign-in: what is left is the end of the request. -/
  | ending
  deriving DecidableEq, Repr

/-- A request under way, with its copy of the session. -/
structure SessionRequest where
  sess : Session
  point : RequestPoint
  deriving DecidableEq, Repr

structure Server where
  accounts : Accounts
  /-- The rows of the session store. -/
  sessions : List Session
  requests : List SessionRequest
  nextSid : ℕ
  guardCache : List (ℤ × UserState)
  /-- The users for whom `killSessionsForUser` is still to run. -/
  kills : List ℤ
  deriving DecidableEq, Repr

/-- `requireTenant`: `!tid` holds of a missing tenant and of 0. -/
def requireTenant (currentTenantId : Option ℤ) : Except (ℕ × String) ℤ :=
  match currentTenantId with
  | some tenantId => if tenantId = 0 then .error (400, "No tenant selected") else .ok tenantId
  | none => .error (400, "No tenant selected")

def userState (d : Accounts) (userId : ℤ) : UserState :=
  (get UserRow.id d.users userId).map fun r => (r.isActive, r.role)

namespace Server

def setRequest (s : Server) (i : ℕ) (r : SessionRequest) : Server := { s with requests := s.requests.set i r }

def endRequest (s : Server) (i : ℕ) : Server := { s with requests := s.requests.eraseIdx i }

def destroySession (s : Server) (sid : ℕ) : Server :=
  { s with sessions := remove Session.sid s.sessions sid }

/-- The store's `set` inserts a row that is gone. -/
def saveSession (s : Server) (sess : Session) : Server :=
  { s with sessions := remove Session.sid s.sessions sess.sid ++ [sess] }

def cacheState (s : Server) (userId : ℤ) (state : UserState) : Server :=
  { s with guardCache := upsert Prod.fst s.guardCache (userId, state) fun e => (e.1, state) }

def forgetSessionUser (s : Server) (userId : ℤ) : Server :=
  { s with guardCache := remove Prod.fst s.guardCache userId }

def killLater (s : Server) (userId : ℤ) : Server := { s with kills := userId :: s.kills }

/-- The rows of the user are deleted, the requests under way are not. -/
def killSessionsForUser (s : Server) (userId : ℤ) : Server :=
  { s.forgetSessionUser userId with
    sessions := s.sessions.filter fun sess => sess.userId ≠ userId
    kills := s.kills.erase userId }

/-- A sign-in, with a session under a new id that is stored when the request ends. -/
def openSession (s : Server) (userId : ℤ) (role : PlatformRole) (tenantId : ℤ) : Server :=
  { s with
    requests := s.requests ++ [⟨⟨s.nextSid, userId, role, some tenantId⟩, .ending⟩]
    nextSid := s.nextSid + 1 }

/-- The role follows the state; without an active user the session is destroyed and the request goes on
without one. -/
def applyState (s : Server) (i : ℕ) (sess : Session) (state : UserState) : Server :=
  match state with
  | some (true, role) => s.setRequest i ⟨{ sess with role := role }, .routes⟩
  | _ => (s.destroySession sess.sid).endRequest i

end Server

/-! ## Steps -/

/-- What a request past the guard does next. -/
inductive SessionRoute where
  /-- `POST /tenants/switch` -/
  | switch (tenantId : ℤ)
  /-- `attachSessionTenant`, and the repair of `/auth/me`. -/
  | attachSessionTenant
  | requireTenant
  | logout
  deriving DecidableEq, Repr

/-- The next statement of a request that waits for nobody's answer. -/
def runRequest (s : Server) (i : ℕ) (r : SessionRequest) : Option Server :=
  match r.point with
  | .guard =>
      some <| match get Prod.fst s.guardCache r.sess.userId with
        | some entry => s.applyState i r.sess entry.2
        | none => s.setRequest i ⟨r.sess, .read (userState s.accounts r.sess.userId)⟩
  | .read state => some ((s.cacheState r.sess.userId state).applyState i r.sess state)
  | .selecting tenantId => some (s.setRequest i ⟨{ r.sess with currentTenantId := some tenantId }, .routes⟩)
  | .routes | .ending => none

/-- A request past the guard. -/
def handleRequest (s : Server) (i : ℕ) (sess : Session) : SessionRoute → Server
  | .switch tenantId =>
      if tenantId = 0 then s
      else if sess.role = .admin ∨ s.accounts.userHasAccess sess.userId tenantId then
        s.setRequest i ⟨sess, .selecting tenantId⟩
      else s
  | .attachSessionTenant =>
      if sess.currentTenantId.getD 0 = 0 then
        s.setRequest i ⟨sess, .selecting (firstTenantOrMaster s.accounts sess.userId)⟩
      else s
  | .requireTenant => s.setRequest i ⟨sess, .ending⟩
  | .logout => (s.destroySession sess.sid).endRequest i

inductive ServerStep where
  /-- The tenant of a sign-in with a password, with or without a second factor, whose user and role were read
  before. -/
  | signIn (userId : ℤ) (role : PlatformRole)
  | ssoSignIn (a : Assertion) (requestedSlug : Option String)
  /-- A request loads its session. -/
  | load (sid : ℕ)
  | run (i : ℕ)
  | request (i : ℕ) (route : SessionRoute)
  /-- A request ends; it saves its session if anything in it has changed. -/
  | finish (i : ℕ) (saves : Bool)
  | kill (userId : ℤ)
  | addUser (tenantId userId : ℤ) (role : String)
  | removeUser (tenantId userId : ℤ)
  | setTenants (userId : ℤ) (as : List TenantAssignment)
  | createTenant (row : TenantRow)
  | deleteTenant (tenantId : ℤ)
  | ssoUserSync (remoteUserId : ℤ) (action : SyncAction)
  /-- `PUT /users/:id` -/
  | updateUser (userId : ℤ) (role : Option PlatformRole) (isActive : Option Bool)
  | createUser (row : UserRow)
  | deleteUser (userId : ℤ)
  /-- An entry of the guard's cache has aged. -/
  | cacheExpires (userId : ℤ)
  deriving DecidableEq, Repr

/-- A push of the provider, before it ends sessions. -/
def Server.afterSync (s : Server) (userId : ℤ) (action : SyncAction) : Server :=
  let s' := { s with accounts := ssoUserSync s.accounts userId action }
  if userId = 0 ∨ (get UserRow.id s.accounts.users userId).isNone then s
  else
    match action with
    | .deactivate | .delete => s'.killLater userId
    | .reactivate => s'.forgetSessionUser userId
    | .updateRole role =>
        if isPlatformAdmin s.accounts userId ∧ platformRole (role.getD "") = .user then s'.killLater userId
        else s'
    | .unknown => s'

def serverStep (s : Server) : ServerStep → Option Server
  | .signIn userId role =>
      if userId < s.accounts.nextUserId then
        some (s.openSession userId role (firstTenantOrMaster s.accounts userId))
      else none
  | .ssoSignIn a requestedSlug =>
      let r := provisionObligateUser s.accounts a
      let s' := { s with accounts := r.1 }
      some <| match r.2 with
        | some userId =>
            let role := ((get UserRow.id r.1.users userId).map UserRow.role).getD .user
            s'.openSession userId role (resolveTenant r.1 a userId requestedSlug)
        | none => s'
  | .load sid => (get Session.sid s.sessions sid).map fun sess =>
      { s with requests := s.requests ++ [⟨sess, .guard⟩] }
  | .run i => s.requests[i]?.bind (runRequest s i)
  | .request i route => s.requests[i]?.bind fun r =>
      if r.point = .routes then some (handleRequest s i r.sess route) else none
  | .finish i saves => s.requests[i]?.bind fun r =>
      if r.point = .routes ∨ r.point = .ending then
        some ((if saves then s.saveSession r.sess else s).endRequest i)
      else none
  | .kill userId => if userId ∈ s.kills then some (s.killSessionsForUser userId) else none
  | .addUser tenantId userId role =>
      some { s with accounts := (s.accounts.addUser tenantId userId role).getD s.accounts }
  | .removeUser tenantId userId => some { s with accounts := s.accounts.removeUser tenantId userId }
  | .setTenants userId as =>
      some { s with accounts := (setUserTenantAssignments s.accounts userId as).getD s.accounts }
  | .createTenant row =>
      if s.accounts.tenants.all fun t => decide (t.id ≠ row.id ∧ t.slug ≠ row.slug) then
        some { s with accounts := { s.accounts with tenants := s.accounts.tenants ++ [row] } }
      else none
  | .deleteTenant tenantId =>
      some (if tenantId = 1 then s else { s with accounts := s.accounts.deleteTenant tenantId })
  | .ssoUserSync remoteUserId action => some (s.afterSync remoteUserId action)
  | .updateUser userId role isActive =>
      if (get UserRow.id s.accounts.users userId).isNone then none
      else
        let s' := { s.forgetSessionUser userId with
          accounts := s.accounts.updateUser userId fun r =>
            { r with role := role.getD r.role, isActive := isActive.getD r.isActive } }
        some (if isActive = some false ∨ isPlatformAdmin s.accounts userId ∧ role = some .user then
          s'.killLater userId else s')
  | .createUser row =>
      some { s with
        accounts := { s.accounts with
          users := s.accounts.users ++ [{ row with id := s.accounts.nextUserId }]
          nextUserId := s.accounts.nextUserId + 1 } }
  | .deleteUser userId =>
      if (get UserRow.id s.accounts.users userId).isNone then none
      else some ({ s with accounts := s.accounts.deleteUser userId }.killLater userId)
  | .cacheExpires userId => some (s.forgetSessionUser userId)

/-- From any tables, with no request under way and no session that has a tenant yet. -/
def serverMachine : Machine Server ServerStep where
  init s := s.accounts.WellFormed ∧ s.requests = [] ∧ s.guardCache = [] ∧ s.kills = [] ∧
    ∀ sess ∈ s.sessions, sess.userId < s.accounts.nextUserId ∧ sess.currentTenantId = none
  step := serverStep

/-- Whenever `requireTenant` lets a request of a plain user on, its tenant is one of the user's. -/
def TenantHeld (s : Server) : Prop :=
  ∀ r ∈ s.requests, r.point = .routes → ∀ tenantId, requireTenant r.sess.currentTenantId = .ok tenantId →
    isPlatformAdmin s.accounts r.sess.userId = false →
      s.accounts.userHasAccess r.sess.userId tenantId = true

/-! ## The steps that take nothing away from an open session -/

def Session.WorksIn (sess : Session) (tenantId : ℤ) : Prop := requireTenant sess.currentTenantId = .ok tenantId

/-- In its session's tenant, or the one it is about to set. -/
def SessionRequest.WorksIn (r : SessionRequest) (tenantId : ℤ) : Prop :=
  r.sess.WorksIn tenantId ∨ r.point = .selecting tenantId

namespace Server
variable (s : Server) (userId tenantId : ℤ)

def StoredIn : Prop := ∃ sess ∈ s.sessions, sess.userId = userId ∧ sess.WorksIn tenantId

def UnderWayIn : Prop := ∃ r ∈ s.requests, r.sess.userId = userId ∧ r.WorksIn tenantId

/-- A session of the user, stored or of a request under way, works in the tenant. -/
def WorksIn : Prop := s.StoredIn userId tenantId ∨ s.UnderWayIn userId tenantId

/-- A request of the user has its tenant still to be asked for. -/
def Asking : Prop := ∃ r ∈ s.requests, r.sess.userId = userId ∧ r.point ≠ .ending

end Server

/-- No request under way that would bring back a session of the user works in a tenant the user is no
member of. -/
def Server.HoldsUnderWay (s : Server) (userId : ℤ) : Prop :=
  ∀ tenantId, s.UnderWayIn userId tenantId → s.accounts.userHasAccess userId tenantId = true

/-- No step takes a tenant from a plain user who works in it, or lets one work in a tenant without being a
member. -/
def nothingTakenUnderway (s : Server) : ServerStep → Prop
  | .signIn userId _ => s.accounts.Has userId → HasSomeTenant s.accounts userId
  | .ssoSignIn a _ => FindsTenant s.accounts a ∧
      ∀ userId tenantId, Demotes s.accounts a userId → s.WorksIn userId tenantId →
        s.accounts.userHasAccess userId tenantId = true ∨
          a.Names s.accounts tenantId ∧ ∀ t ∈ a.tenants, (varchar 64 (roleSlug t)).isSome
  -- a session that is about to be deleted is not loaded any more
  | .load sid => ∀ sess, get Session.sid s.sessions sid = some sess → sess.userId ∉ s.kills
  -- the role `admin` of the copy is still the role of the user
  | .request i (.switch tenantId) => tenantId ≠ 0 → ∀ r, s.requests[i]? = some r → r.sess.role = .admin →
      Holds s.accounts r.sess.userId tenantId
  | .request i .attachSessionTenant => ∀ r, s.requests[i]? = some r → r.sess.currentTenantId.getD 0 = 0 →
      HasSomeTenant s.accounts r.sess.userId
  | .removeUser tenantId userId => s.WorksIn userId tenantId → isPlatformAdmin s.accounts userId = true
  | .setTenants userId as => (setUserTenantAssignments s.accounts userId as).isSome →
      ∀ tenantId, s.WorksIn userId tenantId →
        isPlatformAdmin s.accounts userId = true ∨ ∃ a ∈ as, a.tenantId = tenantId
  | .deleteTenant tenantId => tenantId ≠ 1 → ∀ userId, s.WorksIn userId tenantId →
      isPlatformAdmin s.accounts userId = true
  | .updateUser userId role _ => isPlatformAdmin s.accounts userId = true → role = some .user →
      s.HoldsUnderWay userId
  | .ssoUserSync userId (.updateRole role) => isPlatformAdmin s.accounts userId = true →
      platformRole (role.getD "") = .user → s.HoldsUnderWay userId
  | .ssoUserSync userId .delete => ¬ s.Asking userId
  | .deleteUser userId => ¬ s.Asking userId
  | _ => True

/-! ## The invariant -/

theorem requireTenant_ok {o : Option ℤ} {t : ℤ} : requireTenant o = .ok t ↔ o = some t ∧ t ≠ 0 := by
  cases o with
  | none => simp [requireTenant]
  | some tid =>
      by_cases h : tid = 0
      · subst h
        simp [requireTenant]
        grind
      · simp only [requireTenant, if_neg h, Except.ok.injEq, Option.some.injEq]
        constructor
        · rintro rfl
          exact ⟨rfl, h⟩
        · exact And.left

/-- A stored session: its tenant is one of the user's unless the row is about to be deleted. -/
structure Server.Stores (s : Server) (sess : Session) : Prop where
  known : sess.userId < s.accounts.nextUserId
  held : ∀ t, sess.WorksIn t → s.accounts.Has sess.userId →
    Holds s.accounts sess.userId t ∨ sess.userId ∈ s.kills

/-- A request under way: its tenant is one of the user's; one of a user that is gone does not get past the
guard. -/
structure Server.Carries (s : Server) (r : SessionRequest) : Prop where
  known : r.sess.userId < s.accounts.nextUserId
  held : ∀ t, r.WorksIn t → s.accounts.Has r.sess.userId → Holds s.accounts r.sess.userId t
  gone : ¬ s.accounts.Has r.sess.userId → r.point = .ending ∨ (r.point = .guard ∧ r.sess.userId ∉ s.kills) ∨
    ∃ state, r.point = .read state ∧ letsOn state = false

structure Server.Inv (s : Server) : Prop where
  wf : s.accounts.WellFormed
  sessions : ∀ sess ∈ s.sessions, s.Stores sess
  requests : ∀ r ∈ s.requests, s.Carries r
  cache : ∀ e ∈ s.guardCache, ¬ s.accounts.Has e.1 → e.1 ∉ s.kills → letsOn e.2 = false

section Inv
variable {s s' : Server} {sess : Session} {r : SessionRequest} {i sid : ℕ} {userId tenantId : ℤ}
  {d' : Accounts} {state : UserState}

/-- A request of a user that is gone is not among the routes. -/
theorem Server.Carries.has (h : s.Carries r) (hr : r.point = .routes ∨ ∃ t, r.point = .selecting t) :
    s.accounts.Has r.sess.userId := by
  by_contra hgone
  rcases h.gone hgone with hend | ⟨hguard, -⟩ | ⟨state, hread, -⟩ <;> rcases hr with hr | ⟨t, hr⟩ <;>
    simp_all

theorem Server.Inv.tenantHeld (h : s.Inv) : TenantHeld s := by
  intro r hr hpoint tenantId ht hplain
  have hc := h.requests r hr
  obtain hadmin | hacc := hc.held tenantId (.inl ht) (hc.has (.inl hpoint))
  · exact absurd (hadmin.symm.trans hplain) (by decide)
  · exact hacc

/-! ### The requests -/

/-- Other requests, and other sessions, over the same tables. -/
theorem Server.Inv.move (h : s.Inv) (hacc : s'.accounts = s.accounts) (hkills : s'.kills = s.kills)
    (hcache : s'.guardCache = s.guardCache)
    (hsessions : ∀ sess ∈ s'.sessions, sess ∈ s.sessions ∨ s.Stores sess)
    (hrequests : ∀ r ∈ s'.requests, r ∈ s.requests ∨ s.Carries r) : s'.Inv where
  wf := hacc ▸ h.wf
  sessions := by
    intro sess hsess
    obtain ⟨hknown, hheld⟩ := (hsessions sess hsess).elim (h.sessions sess) id
    exact ⟨hacc ▸ hknown, hacc ▸ hkills ▸ hheld⟩
  requests := by
    intro r hr
    obtain ⟨hknown, hheld, hgone⟩ := (hrequests r hr).elim (h.requests r) id
    exact ⟨hacc ▸ hknown, hacc ▸ hheld, hacc ▸ hkills ▸ hgone⟩
  cache := by
    rw [hcache, hacc, hkills]
    exact h.cache

theorem Server.Inv.setRequest (h : s.Inv) (hr : s.Carries r) : (s.setRequest i r).Inv := by
  refine h.move rfl rfl rfl (fun _ => .inl) fun r' hr' => ?_
  obtain hr' | rfl := List.mem_or_eq_of_mem_set hr'
  · exact .inl hr'
  · exact .inr hr

theorem Server.Inv.endRequest (h : s.Inv) : (s.endRequest i).Inv :=
  h.move rfl rfl rfl (fun _ => .inl) fun _ hr => .inl (List.mem_of_mem_eraseIdx hr)

theorem Server.Inv.destroySession (h : s.Inv) : (s.destroySession sid).Inv :=
  h.move rfl rfl rfl (fun _ hsess => .inl (mem_remove.1 hsess).1) fun _ => .inl

theorem Server.Inv.saveSession (h : s.Inv) (hsess : s.Stores sess) : (s.saveSession sess).Inv := by
  refine h.move rfl rfl rfl (fun sess' hmem => ?_) fun _ => .inl
  obtain hmem | hmem := List.mem_append.1 hmem
  · exact .inl (mem_remove.1 hmem).1
  · exact .inr (List.mem_singleton.1 hmem ▸ hsess)

theorem Server.Inv.openSession (h : s.Inv) {role : PlatformRole} (hknown : userId < s.accounts.nextUserId)
    (hholds : s.accounts.Has userId → Holds s.accounts userId tenantId) :
    (s.openSession userId role tenantId).Inv := by
  refine h.move rfl rfl rfl (fun _ => .inl) fun r hr => ?_
  obtain hr | hr := List.mem_append.1 hr
  · exact .inl hr
  · rw [List.mem_singleton.1 hr]
    refine .inr ⟨hknown, fun t ht hhas => ?_, fun _ => .inl rfl⟩
    obtain ht | ht := ht
    · obtain ⟨heq, -⟩ := requireTenant_ok.1 ht
      rw [← Option.some.inj heq]
      exact hholds hhas
    · cases ht

theorem Server.Inv.cacheState (h : s.Inv)
    (hstate : ¬ s.accounts.Has userId → userId ∉ s.kills → letsOn state = false) :
    (s.cacheState userId state).Inv where
  wf := h.wf
  sessions := fun sess hsess => ⟨(h.sessions sess hsess).known, (h.sessions sess hsess).held⟩
  requests := fun r hr => ⟨(h.requests r hr).known, (h.requests r hr).held, (h.requests r hr).gone⟩
  cache := by
    intro e he
    unfold Server.cacheState upsert at he
    split at he
    · obtain ⟨e₀, he₀, rfl⟩ := mem_modify.1 he
      split_ifs with hkey
      · rw [hkey]
        exact hstate
      · exact h.cache e₀ he₀
    · obtain he | he := List.mem_append.1 he
      · exact h.cache e he
      · rw [List.mem_singleton.1 he]
        exact hstate

/-- The guard lets a request on, or ends it. -/
theorem Server.Inv.applyState (h : s.Inv) (hr : s.Carries r)
    (hstate : letsOn state = true → s.accounts.Has r.sess.userId) : (s.applyState i r.sess state).Inv := by
  unfold Server.applyState
  split
  · refine h.setRequest ⟨hr.known, fun t ht hhas => ?_, fun hgone => absurd (hstate rfl) hgone⟩
    obtain ht | ht := ht
    · exact hr.held t (.inl ht) hhas
    · cases ht
  · exact h.destroySession.endRequest

theorem inv_load (h : s.Inv) (hok : nothingTakenUnderway s (.load sid))
    (hstep : serverStep s (.load sid) = some s') : s'.Inv := by
  obtain ⟨sess, hget, rfl⟩ := Option.map_eq_some_iff.1 hstep
  have hstored := h.sessions sess (mem_of_get hget)
  refine h.move rfl rfl rfl (fun _ => .inl) fun r hr => ?_
  obtain hr | hr := List.mem_append.1 hr
  · exact .inl hr
  · rw [List.mem_singleton.1 hr]
    refine .inr ⟨hstored.known, fun t ht hhas => ?_, fun _ => .inr (.inl ⟨rfl, hok sess hget⟩)⟩
    obtain ht | ht := ht
    · exact (hstored.held t ht hhas).resolve_right (hok sess hget)
    · cases ht

theorem inv_run (h : s.Inv) (hstep : serverStep s (.run i) = some s') : s'.Inv := by
  obtain ⟨r, hget, hrun⟩ := Option.bind_eq_some_iff.1 hstep
  have hr := h.requests r (List.mem_of_getElem? hget)
  unfold runRequest at hrun
  split at hrun
  next hguard =>
    cases hrun
    split
    next e he =>
      -- a cached state of a user that is gone lets nobody on
      refine h.applyState hr fun hlets => ?_
      by_contra hgone
      have hkey : e.1 = r.sess.userId := key_of_get he
      have hquiet : r.sess.userId ∉ s.kills := by
        rcases hr.gone hgone with hend | ⟨-, hquiet⟩ | ⟨state, hread, -⟩
        · rw [hguard] at hend
          cases hend
        · exact hquiet
        · rw [hguard] at hread
          cases hread
      have hrefused := h.cache e (mem_of_get he) (hkey ▸ hgone) (hkey ▸ hquiet)
      rw [hlets] at hrefused
      cases hrefused
    next he =>
      refine h.setRequest ⟨hr.known, fun t ht hhas => ?_, fun hgone => .inr (.inr ⟨_, rfl, ?_⟩)⟩
      · obtain ht | ht := ht
        · exact hr.held t (.inl ht) hhas
        · cases ht
      · rw [userState, get_eq_none_of_not_has hgone]
        rfl
  next state hread =>
    cases hrun
    have hrefused : ¬ s.accounts.Has r.sess.userId → letsOn state = false := by
      intro hgone
      rcases hr.gone hgone with hend | ⟨hguard, -⟩ | ⟨state', hread', hrefused⟩
      · rw [hread] at hend
        cases hend
      · rw [hread] at hguard
        cases hguard
      · rw [hread] at hread'
        cases hread'
        exact hrefused
    refine (h.cacheState fun hgone _ => hrefused hgone).applyState ⟨hr.known, hr.held, hr.gone⟩ fun hlets => ?_
    by_contra hgone
    rw [hrefused hgone] at hlets
    cases hlets
  next tenantId hselect =>
    cases hrun
    have hhas := hr.has (.inr ⟨tenantId, hselect⟩)
    refine h.setRequest ⟨hr.known, fun t ht hhas => ?_, fun hgone => absurd hhas hgone⟩
    obtain ht | ht := ht
    · obtain ⟨heq, -⟩ := requireTenant_ok.1 ht
      exact hr.held t (.inr (by rw [hselect, Option.some.inj heq])) hhas
    · cases ht
  · cases hrun
  · cases hrun

/-- A tenant that the user holds is found. -/
theorem Server.Inv.select (h : s.Inv) (hr : s.Carries r) (hpoint : r.point = .routes)
    (hholds : Holds s.accounts r.sess.userId tenantId) :
    (s.setRequest i ⟨r.sess, .selecting tenantId⟩).Inv := by
  refine h.setRequest ⟨hr.known, fun t ht hhas => ?_, fun hgone => absurd (hr.has (.inl hpoint)) hgone⟩
  obtain ht | ht := ht
  · exact hr.held t (.inl ht) hhas
  · cases ht
    exact hholds

theorem inv_request (h : s.Inv) {route : SessionRoute} (hok : nothingTakenUnderway s (.request i route))
    (hstep : serverStep s (.request i route) = some s') : s'.Inv := by
  obtain ⟨r, hget, hrun⟩ := Option.bind_eq_some_iff.1 hstep
  have hr := h.requests r (List.mem_of_getElem? hget)
  split_ifs at hrun with hpoint
  cases hrun
  cases route with
  | switch tenantId =>
      rw [handleRequest]
      split_ifs with hzero hmay
      · exact h
      · apply h.select hr hpoint
        obtain hadmin | hacc := hmay
        · exact hok hzero r hget hadmin
        · exact .inr hacc
      · exact h
  | attachSessionTenant =>
      rw [handleRequest]
      split_ifs with hnone
      · exact h.select hr hpoint (holds_first h.wf (hok r hget hnone))
      · exact h
  | requireTenant =>
      refine h.setRequest ⟨hr.known, fun t ht hhas => ?_, fun _ => .inl rfl⟩
      obtain ht | ht := ht
      · exact hr.held t (.inl ht) hhas
      · cases ht
  | logout => exact h.destroySession.endRequest

theorem inv_finish (h : s.Inv) {saves : Bool} (hstep : serverStep s (.finish i saves) = some s') : s'.Inv := by
  obtain ⟨r, hget, hrun⟩ := Option.bind_eq_some_iff.1 hstep
  have hr := h.requests r (List.mem_of_getElem? hget)
  split_ifs at hrun
  all_goals cases hrun
  · exact (h.saveSession ⟨hr.known, fun t ht hhas => .inl (hr.held t (.inl ht) hhas)⟩).endRequest
  · exact h.endRequest

/-! ### The tables -/

/-- An edit of the tables. Nobody comes back; a user that goes is about to have its sessions deleted, and has
no tenant to be asked for. -/
theorem Server.Inv.edit (h : s.Inv) (hwf : s'.accounts.WellFormed) (hsessions : s'.sessions = s.sessions)
    (hrequests : s'.requests = s.requests) (hcache : ∀ e ∈ s'.guardCache, e ∈ s.guardCache)
    (hkills : ∀ u ∈ s.kills, u ∈ s'.kills) (hnext : s.accounts.nextUserId ≤ s'.accounts.nextUserId)
    (hback : ∀ u, u < s.accounts.nextUserId → s'.accounts.Has u → s.accounts.Has u)
    (hgone : ∀ u, ¬ s'.accounts.Has u → (¬ s.accounts.Has u ∧ (u ∈ s'.kills → u ∈ s.kills)) ∨
      (u ∈ s'.kills ∧ ¬ s.Asking u))
    (hkeep : ∀ u t, s'.accounts.Has u → s.WorksIn u t → Holds s.accounts u t →
      Holds s'.accounts u t ∨ (u ∈ s'.kills ∧ ¬ s.UnderWayIn u t)) : s'.Inv where
  wf := hwf
  sessions := by
    rw [hsessions]
    intro sess hsess
    have hstored := h.sessions sess hsess
    refine ⟨hstored.known.trans_le hnext, fun t ht hhas => ?_⟩
    obtain hold | hkill := hstored.held t ht (hback _ hstored.known hhas)
    · exact (hkeep _ t hhas (.inl ⟨sess, hsess, rfl, ht⟩) hold).imp_right And.left
    · exact .inr (hkills _ hkill)
  requests := by
    rw [hrequests]
    intro r hr
    have hc := h.requests r hr
    refine ⟨hc.known.trans_le hnext, fun t ht hhas => ?_, fun hno => ?_⟩
    · have hunder : s.UnderWayIn r.sess.userId t := ⟨r, hr, rfl, ht⟩
      have hold := hc.held t ht (hback _ hc.known hhas)
      exact (hkeep _ t hhas (.inr hunder) hold).resolve_right fun hnot => hnot.2 hunder
    · obtain ⟨hno', hkills'⟩ | ⟨-, hnot⟩ := hgone _ hno
      · exact (hc.gone hno').imp_right (.imp_left fun hguard => ⟨hguard.1, fun hk => hguard.2 (hkills' hk)⟩)
      · refine .inl ?_
        by_contra hpoint
        exact hnot ⟨r, hr, rfl, hpoint⟩
  cache := by
    intro e he hno hquiet
    obtain ⟨hno', -⟩ | ⟨hkill, -⟩ := hgone _ hno
    · exact h.cache e (hcache e he) hno' fun hk => hquiet (hkills _ hk)
    · exact absurd hkill hquiet

/-- An edit that ends no session. -/
theorem Server.Inv.accounts (h : s.Inv) (hwf : d'.WellFormed) (husers : KeepsUsers s.accounts d')
    (hkeep : ∀ u t, s.WorksIn u t → Holds s.accounts u t → Holds d' u t) :
    ({ s with accounts := d' } : Server).Inv := by
  refine h.edit hwf rfl rfl (fun _ => id) (fun _ => id) husers.next (fun u hu hhas => ?_) (fun u hno => ?_) ?_
  · exact (husers.new u hhas).resolve_right fun hle => absurd hu hle.not_gt
  · exact .inl ⟨fun hhas => hno (husers.has u hhas), id⟩
  · exact fun u t _ hworks hold => .inl (hkeep u t hworks hold)

theorem Server.Inv.forget (h : s.Inv) : (s.forgetSessionUser userId).Inv :=
  h.edit h.wf rfl rfl (fun _ he => (mem_remove.1 he).1) (fun _ => id) le_rfl (fun _ _ => id)
    (fun _ hno => .inl ⟨hno, id⟩) fun _ _ _ _ hold => .inl hold

/-- An edit after which the sessions of one user are to be deleted: the requests under way are all that has
to be kept of that user. -/
theorem Server.Inv.killLater (h : s.Inv) (hwf : d'.WellFormed) (husers : KeepsUsers s.accounts d')
    (hhas : s.accounts.Has userId) (hself : ∀ t, s.UnderWayIn userId t → Holds s.accounts userId t → Holds d' userId t)
    (hkeep : ∀ u t, u ≠ userId → Holds s.accounts u t → Holds d' u t) :
    (({ s with accounts := d' } : Server).killLater userId).Inv := by
  refine h.edit hwf rfl rfl (fun _ => id) (fun _ => List.mem_cons_of_mem _) husers.next (fun u hu hhas => ?_)
    (fun u hno => ?_) fun u t _ _ hold => ?_
  · exact (husers.new u hhas).resolve_right fun hle => absurd hu hle.not_gt
  · refine .inl ⟨fun hhas => hno (husers.has u hhas), fun hk => ?_⟩
    obtain rfl | hk := List.mem_cons.1 hk
    · exact absurd (husers.has u hhas) hno
    · exact hk
  · by_cases hu : u = userId
    · subst hu
      by_cases hunder : s.UnderWayIn u t
      · exact .inl (hself t hunder hold)
      · exact .inr ⟨List.mem_cons_self, hunder⟩
    · exact .inl (hkeep u t hu hold)

/-- The rows of the user are gone; the requests under way are carried on. -/
theorem inv_kill (h : s.Inv) (hstep : serverStep s (.kill userId) = some s') : s'.Inv := by
  simp only [serverStep] at hstep
  split_ifs at hstep
  cases hstep
  refine ⟨h.wf, fun sess hsess => ?_, fun r hr => ?_, fun e he hno hquiet => ?_⟩
  · obtain ⟨hmem, hne⟩ := List.mem_filter.1 hsess
    obtain ⟨hknown, hheld⟩ := h.sessions sess hmem
    refine ⟨hknown, fun t ht hhas => (hheld t ht hhas).imp_right fun hk => ?_⟩
    exact (List.mem_erase_of_ne (of_decide_eq_true hne)).2 hk
  · obtain ⟨hknown, hheld, hgone⟩ := h.requests r hr
    refine ⟨hknown, hheld, fun hno => (hgone hno).imp_right (.imp_left fun hguard => ?_)⟩
    exact ⟨hguard.1, fun hk => hguard.2 (List.mem_of_mem_erase hk)⟩
  · obtain ⟨hmem, hne⟩ := mem_remove.1 he
    exact h.cache e hmem hno fun hk => hquiet ((List.mem_erase_of_ne hne).2 hk)

theorem inv_deleteUser (h : s.Inv) (hok : ¬ s.Asking userId) :
    (({ s with accounts := s.accounts.deleteUser userId } : Server).killLater userId).Inv := by
  refine h.edit h.wf.deleteUser rfl rfl (fun _ => id) (fun _ => List.mem_cons_of_mem _) le_rfl (fun u _ hhas => ?_)
    (fun u hno => ?_) fun u t hhas _ hold => ?_
  · exact (has_deleteUser.1 hhas).1
  · by_cases hu : u = userId
    · subst hu
      exact .inr ⟨List.mem_cons_self, hok⟩
    · refine .inl ⟨fun hhas => hno (has_deleteUser.2 ⟨hhas, hu⟩), fun hk => ?_⟩
      exact (List.mem_cons.1 hk).resolve_left hu
  · have hu := (has_deleteUser.1 hhas).2
    exact .inl (hold.imp (isPlatformAdmin_deleteUser hu).trans (access_deleteUser hu))

/-! ### One lemma a step -/

theorem inv_signIn (h : s.Inv) {role : PlatformRole} (hok : nothingTakenUnderway s (.signIn userId role))
    (hstep : serverStep s (.signIn userId role) = some s') : s'.Inv := by
  simp only [serverStep] at hstep
  split_ifs at hstep with hknown
  cases hstep
  exact h.openSession hknown fun hhas => holds_first h.wf (hok hhas)

theorem inv_ssoSignIn (h : s.Inv) {a : Assertion} {requestedSlug : Option String}
    (hok : nothingTakenUnderway s (.ssoSignIn a requestedSlug))
    (hstep : serverStep s (.ssoSignIn a requestedSlug) = some s') : s'.Inv := by
  obtain ⟨hfinds, hdemoted⟩ := hok
  have hafter := fun u t => @provision_after_resolve s.accounts a u t
  have hedit : ({ s with accounts := (provisionObligateUser s.accounts a).1 } : Server).Inv := by
    apply h.accounts (wellFormed_provision h.wf) KeepsUsers.provision
    intro u t hworks hold
    obtain hadmin | hacc := hold
    · by_cases hdem : Demotes s.accounts a u
      · right
        obtain hacc | ⟨hnames, hfit⟩ := hdemoted u t hdem hworks
        · exact (hafter u t).2 (resolveUser_access hacc)
        · exact demoted_access h.wf hdem hnames hfit
      · left
        show isPlatformAdmin (provisionObligateUser s.accounts a).1 u = true
        rw [isPlatformAdmin_congr (hafter u t).1]
        exact resolveUser_admin hadmin hdem
    · exact .inr ((hafter u t).2 (resolveUser_access hacc))
  cases hstep
  cases hres : (provisionObligateUser s.accounts a).2 with
  | none => simpa only [hres] using hedit
  | some userId =>
      have hpair : provisionObligateUser s.accounts a = ((provisionObligateUser s.accounts a).1, some userId) :=
        Prod.ext rfl hres
      have hwf := @wellFormed_provision s.accounts a h.wf
      obtain ⟨hsome, hadmin⟩ := provision_hasSomeTenant h.wf hfinds hpair
      exact hedit.openSession ((has_of_hasSomeTenant hwf hsome).lt hwf) fun _ =>
        holds_resolveTenant hwf hsome hadmin

theorem inv_setTenants (h : s.Inv) {as : List TenantAssignment}
    (hok : nothingTakenUnderway s (.setTenants userId as)) :
    ({ s with accounts := (setUserTenantAssignments s.accounts userId as).getD s.accounts } : Server).Inv := by
  cases hset : setUserTenantAssignments s.accounts userId as with
  | none => exact h
  | some d' =>
      obtain ⟨husers, hothers, hgiven, hwf⟩ := setUserTenantAssignments_spec hset
      apply h.accounts (hwf h.wf) (.setTenants hset)
      intro u t hworks hold
      have hadmin : isPlatformAdmin s.accounts u = true → isPlatformAdmin d' u = true :=
        (isPlatformAdmin_congr husers).trans
      obtain hadm | hacc := hold
      · exact .inl (hadmin hadm)
      · by_cases hu : u = userId
        · subst hu
          obtain hadm | ⟨a, ha, rfl⟩ := hok (by rw [hset]; rfl) t hworks
          · exact .inl (hadmin hadm)
          · exact .inr (hgiven a ha)
        · exact .inr (hothers u t hu hacc)

theorem inv_deleteTenant (h : s.Inv) (hok : nothingTakenUnderway s (.deleteTenant tenantId))
    (hne : tenantId ≠ 1) : ({ s with accounts := s.accounts.deleteTenant tenantId } : Server).Inv := by
  apply h.accounts h.wf.deleteTenant (.of_eq rfl rfl)
  intro u t hworks hold
  obtain hadm | hacc := hold
  · exact .inl hadm
  · by_cases ht : t = tenantId
    · subst ht
      exact .inl (hok hne u hworks)
    · exact .inr (access_deleteTenant ht hacc)

theorem inv_removeUser (h : s.Inv) (hok : nothingTakenUnderway s (.removeUser tenantId userId)) :
    ({ s with accounts := s.accounts.removeUser tenantId userId } : Server).Inv := by
  apply h.accounts h.wf.removeUser (.of_eq rfl rfl)
  intro u t hworks hold
  obtain hadm | hacc := hold
  · exact .inl hadm
  · by_cases hut : (u, t) = (userId, tenantId)
    · obtain ⟨rfl, rfl⟩ := Prod.mk.injEq .. ▸ hut
      exact .inl (hok hworks)
    · exact .inr (access_removeUser hut hacc)

/-- The membership of the master tenant that a promotion writes only adds. -/
theorem holds_withMaster {d : Accounts} {role : PlatformRole} {u t : ℤ} (h : Holds d u t) :
    Holds ((ensureMasterTenant d role userId).getD d) u t := by
  cases hm : ensureMasterTenant d role userId with
  | none => exact h
  | some d' => exact holds_ensureMaster hm h

theorem KeepsUsers.withMaster {d d' : Accounts} {role : PlatformRole} (h : KeepsUsers d d') :
    KeepsUsers d ((ensureMasterTenant d' role userId).getD d') := by
  cases hm : ensureMasterTenant d' role userId with
  | none => exact h
  | some d'' => exact h.trans (.ensureMaster hm)

/-- A push of the provider. -/
theorem inv_afterSync (h : s.Inv) (action : SyncAction) (hok : nothingTakenUnderway s (.ssoUserSync userId action)) :
    (s.afterSync userId action).Inv := by
  have hwf := wellFormed_userSync h.wf userId action
  unfold Server.afterSync
  simp only
  split_ifs with hno
  · exact h
  have hhas : s.accounts.Has userId := by
    rw [not_or, Option.isNone_iff_eq_none, get_eq_none_iff] at hno
    simpa [Accounts.Has] using hno.2
  unfold ssoUserSync at hwf ⊢
  rw [if_neg hno] at hwf ⊢
  cases action with
  | deactivate =>
      have hkeep : ∀ u t, Holds s.accounts u t → Holds (s.accounts.updateUser userId fun r =>
          { r with isActive := false }) u t :=
        fun u t hold => holds_updateUser (by simp) (.inr fun _ hr => hr) hold
      exact h.killLater hwf (.updateUser fun _ => rfl) hhas (fun t _ => hkeep userId t) fun u t _ => hkeep u t
  | reactivate =>
      refine (h.accounts hwf (.updateUser fun _ => rfl) ?_).forget
      intro u t _ hold
      exact holds_updateUser (by simp) (.inr fun _ hr => hr) hold
  | delete => exact inv_deleteUser h hok
  | unknown => exact h
  | updateRole role =>
      have husers : KeepsUsers s.accounts (s.accounts.updateUser userId fun r =>
          { r with role := platformRole (role.getD "") }) := .updateUser fun _ => rfl
      simp only at hwf ⊢
      split_ifs with hkill
      · refine h.killLater hwf husers.withMaster hhas (fun t hunder _ => holds_withMaster (.inr ?_)) fun u t hu hold => ?_
        · exact hok hkill.1 hkill.2 t hunder
        · exact holds_withMaster (holds_updateUser (by simp) (.inl hu) hold)
      · apply h.accounts hwf husers.withMaster
        intro u t _ hold
        apply holds_withMaster
        by_cases hadm : u = userId ∧ isPlatformAdmin s.accounts userId = true
        · obtain ⟨rfl, hadm⟩ := hadm
          have hnext : platformRole (role.getD "") = .admin := by
            cases hrole : platformRole (role.getD "") with
            | admin => rfl
            | user => exact absurd ⟨hadm, hrole⟩ hkill
          exact holds_updateUser (by simp) (.inr fun _ _ => hnext) hold
        · by_cases hu : u = userId
          · subst hu
            obtain hadm' | hacc := hold
            · exact absurd ⟨rfl, hadm'⟩ hadm
            · exact .inr hacc
          · exact holds_updateUser (by simp) (.inl hu) hold

theorem inv_updateUser (h : s.Inv) {role : Option PlatformRole} {isActive : Option Bool}
    (hok : nothingTakenUnderway s (.updateUser userId role isActive))
    (hstep : serverStep s (.updateUser userId role isActive) = some s') : s'.Inv := by
  simp only [serverStep] at hstep
  split_ifs at hstep with hnone hkill
  all_goals
    cases hstep
    have hwf : (s.accounts.updateUser userId fun r =>
        { r with role := role.getD r.role, isActive := isActive.getD r.isActive }).WellFormed :=
      h.wf.updateUser fun _ => rfl
    have husers : KeepsUsers s.accounts (s.accounts.updateUser userId fun r =>
        { r with role := role.getD r.role, isActive := isActive.getD r.isActive }) := .updateUser fun _ => rfl
    -- the platform role is kept unless the update is a demotion
    have hsame : ∀ t, ¬ (isPlatformAdmin s.accounts userId = true ∧ role = some .user) →
        Holds s.accounts userId t → Holds (s.accounts.updateUser userId fun r =>
          { r with role := role.getD r.role, isActive := isActive.getD r.isActive }) userId t := by
      intro t hnot hold
      obtain hadm | hacc := hold
      · apply holds_updateUser (by simp) (.inr _) (.inl hadm)
        intro r hr
        cases hrole : role with
        | none => exact hr
        | some next =>
            cases next with
            | admin => rfl
            | user => exact absurd ⟨hadm, hrole⟩ hnot
      · exact .inr hacc
  · have hhas : s.accounts.Has userId := by
      rw [Option.isNone_iff_eq_none, get_eq_none_iff] at hnone
      simpa [Accounts.Has] using hnone
    refine h.forget.killLater hwf husers hhas (fun t hunder hold => ?_) fun u t hu =>
      holds_updateUser (by simp) (.inl hu)
    by_cases hdem : isPlatformAdmin s.accounts userId = true ∧ role = some .user
    · exact .inr (hok hdem.1 hdem.2 t hunder)
    · exact hsame t hdem hold
  · apply h.forget.accounts hwf husers
    intro u t _ hold
    by_cases hu : u = userId
    · subst hu
      exact hsame t (fun hdem => hkill (.inr hdem)) hold
    · exact holds_updateUser (by simp) (.inl hu) hold

theorem inv_step (h : s.Inv) {x : ServerStep} (hok : nothingTakenUnderway s x) (hstep : serverStep s x = some s') :
    s'.Inv := by
  cases x with
  | signIn userId role => exact inv_signIn h hok hstep
  | ssoSignIn a requestedSlug => exact inv_ssoSignIn h hok hstep
  | load sid => exact inv_load h hok hstep
  | run i => exact inv_run h hstep
  | request i route => exact inv_request h hok hstep
  | finish i saves => exact inv_finish h hstep
  | kill userId => exact inv_kill h hstep
  | addUser tenantId userId role =>
      cases hstep
      cases hadd : s.accounts.addUser tenantId userId role with
      | none => exact h
      | some d' => exact h.accounts (h.wf.addUser hadd) (.addUser hadd) fun u t _ => holds_addUser hadd
  | removeUser tenantId userId =>
      cases hstep
      exact inv_removeUser h hok
  | setTenants userId as =>
      cases hstep
      exact inv_setTenants h hok
  | createTenant row =>
      rw [serverStep] at hstep
      split_ifs at hstep with hnew
      cases hstep
      have hall : ∀ t ∈ s.accounts.tenants, t.id ≠ row.id ∧ t.slug ≠ row.slug := by simpa using hnew
      exact h.accounts (h.wf.insertTenant hall) (.of_eq rfl rfl) fun _ _ _ hold => hold
  | deleteTenant tenantId =>
      cases hstep
      split_ifs with hone
      · exact h
      · exact inv_deleteTenant h hok hone
  | ssoUserSync remoteUserId action =>
      cases hstep
      exact inv_afterSync h action hok
  | updateUser userId role isActive => exact inv_updateUser h hok hstep
  | createUser row =>
      cases hstep
      apply h.accounts (h.wf.insertUser rfl) (.insertUser rfl rfl rfl)
      intro u t _ hold
      exact hold.imp (fun hadm => isPlatformAdmin_append _ hadm rfl) id
  | deleteUser userId =>
      simp only [serverStep] at hstep
      split_ifs at hstep
      cases hstep
      exact inv_deleteUser h hok
  | cacheExpires userId =>
      cases hstep
      exact h.forget

end Inv

/-! ## Every run -/

/-- One plain user, a member of the tenant `acme`, and an administrator of the platform who is a member of
the master tenant only. -/
def acmeMember : Server :=
  { accounts :=
      { users := [⟨1, "ann", none, none, .user, true, none, none⟩, ⟨2, "bob", none, none, .admin, true, none, none⟩]
        nextUserId := 3
        tenants := [⟨1, "default"⟩, ⟨2, "acme"⟩]
        userTenants := [⟨1, 2, "user"⟩, ⟨2, 1, "admin"⟩]
        userTeams := []
        teamMemberships := []
        ssoForeignUsers := [] }
    sessions := []
    requests := []
    nextSid := 0
    guardCache := []
    kills := [] }

theorem acmeMember_init : serverMachine.init acmeMember :=
  ⟨⟨by decide, by decide, by decide, by decide, by decide, by decide, by decide⟩, rfl, rfl, rfl, by decide⟩

/-- The member signs in, and a request of the session gets past the guard. -/
def memberRun : List ServerStep := [.signIn 1 .user, .finish 0 true, .load 0, .run 0, .run 0]

/-- The request works in `acme`. -/
def acmeSession : Server :=
  { acmeMember with
    sessions := [⟨0, 1, .user, some 2⟩]
    requests := [⟨⟨0, 1, .user, some 2⟩, .routes⟩]
    nextSid := 1
    guardCache := [(1, some (true, .user))] }

/-- The administrator switches to `acme` and is demoted before the request has ended: the request saves the
session after its rows were deleted, and a plain user goes on in a tenant of others. -/
example : ∃ s ∈ serverMachine.exec acmeMember
    [.signIn 2 .admin, .finish 0 true, .load 0, .run 0, .run 0, .request 0 (.switch 2), .run 0,
      .updateUser 2 (some .user) none, .kill 2, .finish 0 true, .load 0, .run 0, .run 0],
    s.requests = [⟨⟨0, 2, .user, some 2⟩, .routes⟩] ∧ isPlatformAdmin s.accounts 2 = false ∧
      s.accounts.userHasAccess 2 2 = false := ⟨_, rfl, by decide⟩

end Obliance.Users
