import Obliance.Users.Tables
import Obliance.Lib.Overwrite
import Obliance.Lib.GuardedRun
import Mathlib.Tactic.Common

/-!
# Accounts owned by the identity provider (`routes/obligateCallback.routes.ts`)

A sign-in brings the memberships of the account in line with an assertion, one tenant after the other.

* `provisionObligateUser` : the account of an assertion, its tenants and its teams; `ssoUserSync` : what the
  provider pushes between two sign-ins;
* `tenantOverwrite`, `teamOverwrite`, `syncTenants_rights` : the loop over the tenants is a sequence of
  overwrites;
* `RightsAsserted` : the account holds what the assertion names; `NoStaleRights` : before, it held nothing
  else;
* `rights_asserted_at_sign_in` : when a sign-in leaves the asserted rights.
-/

namespace Obliance.Users
open KeyedTable GuardedRun

/-- An entry of `assertion.tenants`; `role` is `none` when it is not a string. -/
structure TenantClaim where
  slug : String
  role : Option String
  deriving DecidableEq, Repr

/-- `ObligateUserAssertion`, without the preferences. -/
structure Assertion where
  obligateUserId : ℤ
  username : String
  email : Option String
  displayName : Option String
  role : String
  tenants : List TenantClaim
  teams : List String
  linkedLocalUserId : Option ℤ
  deriving DecidableEq, Repr

def platformRole (role : String) : PlatformRole := if role = "admin" then .admin else .user

def roleSlug (t : TenantClaim) : String :=
  match t.role with
  | some role => if 0 < role.length then role else "user"
  | none => "user"

/-! ## The account -/

/-- `linkedLocalUserId`, or the link of an earlier sign-in, when it leads to a user. -/
def accountOf (d : Accounts) (a : Assertion) : Option ℤ :=
  let linked := a.linkedLocalUserId.filter fun id => id ≠ 0
  let id := match linked with
    | some id => some id
    | none => (get SsoForeignUser.key d.ssoForeignUsers ("obligate", a.obligateUserId)).map SsoForeignUser.localUserId
  (id.bind fun id => get UserRow.id d.users id).map UserRow.id

def emailTaken (d : Accounts) (except : Option ℤ) (email : Option String) : Bool :=
  email.any fun e => d.users.any fun r => decide (r.email = some e ∧ some r.id ≠ except)

def withProfile (a : Assertion) (r : UserRow) : UserRow :=
  { r with email := a.email, displayName := a.displayName, role := platformRole a.role }

/-- The profile and the platform role, at every sign-in. -/
def syncProfile (d : Accounts) (userId : ℤ) (a : Assertion) : Option Accounts :=
  if emailTaken d (some userId) a.email then none else some (d.updateUser userId (withProfile a))

/-- `displayName || username`. -/
def shownName (a : Assertion) : String :=
  match a.displayName with
  | some name => if name = "" then a.username else name
  | none => a.username

def newUser (d : Accounts) (a : Assertion) : UserRow :=
  { id := d.nextUserId
    username := "og_" ++ a.username
    displayName := some (shownName a)
    email := a.email
    role := platformRole a.role
    isActive := true
    foreignSource := some "obligate"
    foreignId := some a.obligateUserId }

/-- A new account and its link. A refused insert has used a number of the sequence. -/
def createUser (d : Accounts) (a : Assertion) : Accounts × Option ℤ :=
  let d' := { d with nextUserId := d.nextUserId + 1 }
  if d.users.any (fun r => decide (r.username = "og_" ++ a.username)) || emailTaken d none a.email then (d', none)
  else
    ({ d' with
        users := d.users ++ [newUser d a]
        ssoForeignUsers := upsert SsoForeignUser.key d.ssoForeignUsers
          ⟨"obligate", a.obligateUserId, d.nextUserId⟩ fun r => { r with localUserId := d.nextUserId } },
      some d.nextUserId)

/-- A link that leads to no user is deleted before the account is made anew. -/
def dropDeadLink (d : Accounts) (a : Assertion) : Accounts :=
  if (a.linkedLocalUserId.filter fun id => id ≠ 0).isSome then d
  else { d with
    ssoForeignUsers := remove SsoForeignUser.key d.ssoForeignUsers ("obligate", a.obligateUserId) }

def resolveUser (d : Accounts) (a : Assertion) : Accounts × Option ℤ :=
  match accountOf d a with
  | some userId =>
      match syncProfile d userId a with
      | some d' => (d', some userId)
      | none => (d, none)
  | none => createUser (dropDeadLink d a) a

/-! ## Tenants and teams -/

/-- `user_teams` of the tenant whose name is asserted. -/
def wantedTeamIds (d : Accounts) (tenantId : ℤ) (teams : List String) : List ℤ :=
  (d.userTeams.filter fun t => decide (t.tenantId = tenantId) && teams.contains t.name).map UserTeam.id

/-- `team_memberships JOIN user_teams` of the user in the tenant. -/
def currentTeamIds (d : Accounts) (tenantId userId : ℤ) : List ℤ :=
  (d.teamMemberships.filter fun m =>
    decide (m.userId = userId) && d.userTeams.any fun t => decide (t.id = m.teamId ∧ t.tenantId = tenantId)).map
      TeamMembership.teamId

def reconcileTeams (d : Accounts) (tenantId userId : ℤ) (teams : List String) : Accounts :=
  let wanted := wantedTeamIds d tenantId teams
  let current := currentTeamIds d tenantId userId
  let toAdd := wanted.filter fun id => !current.contains id
  let toRemove := current.filter fun id => !wanted.contains id
  let added := d.teamMemberships ++ toAdd.map fun teamId => ⟨teamId, userId⟩
  { d with
    teamMemberships := added.filter fun m => !(decide (m.userId = userId) && toRemove.contains m.teamId) }

/-- `for (const t of assertion.tenants)`; `false` is a statement the database refused. -/
def syncTenants (teams : List String) (userId : ℤ) : List TenantClaim → Accounts → Accounts × Bool
  | [], d => (d, true)
  | t :: ts, d =>
      match get TenantRow.slug d.tenants t.slug with
      | none => syncTenants teams userId ts d
      | some tenant =>
          match d.addUser tenant.id userId (roleSlug t) with
          | none => (d, false)
          | some d' => syncTenants teams userId ts (reconcileTeams d' tenant.id userId teams)

/-- An administrator of the whole platform is a member of the master tenant. -/
def ensureMasterTenant (d : Accounts) (role : PlatformRole) (userId : ℤ) : Option Accounts :=
  match role with
  | .admin => d.addUser 1 userId "admin"
  | .user => some d

/-- A disabled account that the provider does not own gets no session. -/
def signInRefused (d : Accounts) (userId : ℤ) : Bool :=
  (get UserRow.id d.users userId).any fun r => !r.isActive && decide (r.foreignSource.getD "" = "")

/-- The part of `provisionObligateUser` before the session; the account it returns, `none` when it throws. -/
def provisionObligateUser (d : Accounts) (a : Assertion) : Accounts × Option ℤ :=
  match resolveUser d a with
  | (d, none) => (d, none)
  | (d, some userId) =>
      match syncTenants a.teams userId a.tenants d with
      | (d, false) => (d, none)
      | (d, true) =>
          match ensureMasterTenant d (platformRole a.role) userId with
          | none => (d, none)
          | some d => if signInRefused d userId then (d, none) else (d, some userId)

/-- `action` of `sso-user-sync`. -/
inductive SyncAction where
  | deactivate
  | reactivate
  | delete
  | updateRole (role : Option String)
  | unknown
  deriving DecidableEq, Repr

/-- `POST /sso-user-sync`: the pushes of the provider. -/
def ssoUserSync (d : Accounts) (remoteUserId : ℤ) (action : SyncAction) : Accounts :=
  if remoteUserId = 0 ∨ (get UserRow.id d.users remoteUserId).isNone then d
  else
    match action with
    | .deactivate => d.updateUser remoteUserId fun r => { r with isActive := false }
    | .reactivate => d.updateUser remoteUserId fun r => { r with isActive := true }
    | .delete => d.deleteUser remoteUserId
    | .updateRole role =>
        let next := platformRole (role.getD "")
        let d' := d.updateUser remoteUserId fun r => { r with role := next }
        (ensureMasterTenant d' next remoteUserId).getD d'
    | .unknown => d

/-! ## What an assertion stands for -/

def tenantRights (d : Accounts) (userId : ℤ) : Set (ℤ × String) := {p | ⟨userId, p.1, p.2⟩ ∈ d.userTenants}

def teamRights (d : Accounts) (userId : ℤ) : Set ℤ := {teamId | ⟨teamId, userId⟩ ∈ d.teamMemberships}

/-- An existing tenant among the asserted ones. -/
def Assertion.Names (a : Assertion) (d : Accounts) (tenantId : ℤ) : Prop :=
  ∃ t ∈ a.tenants, ∃ row ∈ d.tenants, row.slug = t.slug ∧ row.id = tenantId

/-- The rows of `user_tenants` an assertion stands for: the master tenant as `admin` exactly for an
administrator, every other asserted tenant with the asserted role, as the column stores it. -/
def Assertion.tenantRights (a : Assertion) (d : Accounts) : Set (ℤ × String) :=
  {p | if a.role = "admin" ∧ p.1 = 1 then p.2 = "admin"
    else ∃ t ∈ a.tenants, ∃ row ∈ d.tenants, (row.slug = t.slug ∧ row.id = p.1) ∧ varchar 64 (roleSlug t) = some p.2}

/-- The asserted teams of the asserted tenants. -/
def Assertion.teamRights (a : Assertion) (d : Accounts) : Set ℤ :=
  {teamId | ∃ row ∈ d.userTeams, row.id = teamId ∧ row.name ∈ a.teams ∧ a.Names d row.tenantId}

structure RightsAsserted (d : Accounts) (userId : ℤ) (a : Assertion) : Prop where
  tenants : Users.tenantRights d userId = a.tenantRights d
  teams : Users.teamRights d userId = a.teamRights d

/-- Everything the account holds lies in a tenant the assertion speaks of. -/
structure NoStaleRights (d : Accounts) (userId : ℤ) (a : Assertion) : Prop where
  tenants : ∀ p ∈ Users.tenantRights d userId, a.Names d p.1 ∨ a.role = "admin" ∧ p.1 = 1
  teams : ∀ teamId ∈ Users.teamRights d userId, ∃ row ∈ d.userTeams, row.id = teamId ∧ a.Names d row.tenantId

/-! ## The loop over the tenants -/

def tenantOverwrite (tenants : List TenantRow) (t : TenantClaim) : Overwrite (ℤ × String) where
  covers := {p | ∃ row ∈ tenants, row.slug = t.slug ∧ row.id = p.1}
  writes := {p | ∃ row ∈ tenants, (row.slug = t.slug ∧ row.id = p.1) ∧ varchar 64 (roleSlug t) = some p.2}
  writes_subset := fun _ ⟨row, hrow, hp, _⟩ => ⟨row, hrow, hp⟩

def teamOverwrite (tenants : List TenantRow) (userTeams : List UserTeam) (teams : List String)
    (t : TenantClaim) : Overwrite ℤ where
  covers := {teamId | ∃ row ∈ userTeams, row.id = teamId ∧
    ∃ tenant ∈ tenants, tenant.slug = t.slug ∧ tenant.id = row.tenantId}
  writes := {teamId | ∃ row ∈ userTeams, row.id = teamId ∧ row.name ∈ teams ∧
    ∃ tenant ∈ tenants, tenant.slug = t.slug ∧ tenant.id = row.tenantId}
  writes_subset := fun _ ⟨row, hrow, hid, _, ht⟩ => ⟨row, hrow, hid, ht⟩

def masterOverwrite (role : PlatformRole) : Overwrite (ℤ × String) where
  covers := {p | role = .admin ∧ p.1 = 1}
  writes := {p | role = .admin ∧ p = (1, "admin")}
  writes_subset := fun p ⟨hrole, hp⟩ => ⟨hrole, by rw [hp]⟩

section Loop
variable {d d' : Accounts} {a : Assertion} {userId tenantId x : ℤ} {role : String} {teams : List String}
  {t : TenantClaim} {tenant : TenantRow}

theorem mem_wantedTeamIds :
    x ∈ wantedTeamIds d tenantId teams ↔ ∃ row ∈ d.userTeams, row.id = x ∧ row.tenantId = tenantId ∧ row.name ∈ teams := by
  simp only [wantedTeamIds, List.mem_map, List.mem_filter, Bool.and_eq_true, decide_eq_true_eq,
    List.contains_iff_mem]
  constructor
  · rintro ⟨row, ⟨hrow, ht, hn⟩, hid⟩
    exact ⟨row, hrow, hid, ht, hn⟩
  · rintro ⟨row, hrow, hid, ht, hn⟩
    exact ⟨row, ⟨hrow, ht, hn⟩, hid⟩

theorem mem_currentTeamIds : x ∈ currentTeamIds d tenantId userId ↔
    x ∈ teamRights d userId ∧ ∃ row ∈ d.userTeams, row.id = x ∧ row.tenantId = tenantId := by
  simp only [currentTeamIds, List.mem_map, List.mem_filter, Bool.and_eq_true, decide_eq_true_eq,
    List.any_eq_true, teamRights, Set.mem_ofPred_eq]
  constructor
  · rintro ⟨⟨teamId, owner⟩, ⟨hm, rfl, hrow⟩, rfl⟩
    exact ⟨hm, hrow⟩
  · rintro ⟨hm, hrow⟩
    exact ⟨⟨x, userId⟩, ⟨hm, rfl, hrow⟩, rfl⟩

/-- The teams of one tenant become the wanted ones, the others stay. -/
theorem teamRights_reconcile : x ∈ teamRights (reconcileTeams d tenantId userId teams) userId ↔
    x ∈ wantedTeamIds d tenantId teams ∨
      x ∈ teamRights d userId ∧ ¬ ∃ row ∈ d.userTeams, row.id = x ∧ row.tenantId = tenantId := by
  have hcovered : x ∈ wantedTeamIds d tenantId teams → ∃ row ∈ d.userTeams, row.id = x ∧ row.tenantId = tenantId := by
    intro hx
    obtain ⟨row, hrow, hid, ht, -⟩ := mem_wantedTeamIds.1 hx
    exact ⟨row, hrow, hid, ht⟩
  have hmem : x ∈ teamRights (reconcileTeams d tenantId userId teams) userId ↔
      (x ∈ teamRights d userId ∨ x ∈ wantedTeamIds d tenantId teams ∧ x ∉ currentTeamIds d tenantId userId) ∧
        (x ∈ currentTeamIds d tenantId userId → x ∈ wantedTeamIds d tenantId teams) := by
    simp only [teamRights, reconcileTeams, Set.mem_ofPred_eq, List.mem_filter, List.mem_append, List.mem_map,
      TeamMembership.mk.injEq, exists_eq_right, and_true, Bool.not_and, Bool.or_eq_true, Bool.not_eq_true',
      decide_true, List.contains_eq_mem, decide_eq_false_iff_not, not_and, not_not, false_or, reduceCtorEq]
  rw [hmem, mem_currentTeamIds]
  generalize (∃ row ∈ d.userTeams, row.id = x ∧ row.tenantId = tenantId) = covered at hcovered ⊢
  tauto

/-- The tenant found by its slug is the only one of that slug and of its id. -/
theorem tenant_of_slug (hwf : d.WellFormed) (hget : get TenantRow.slug d.tenants t.slug = some tenant) :
    (∃ row ∈ d.tenants, row.slug = t.slug ∧ row.id = x) ↔ x = tenant.id := by
  obtain ⟨hmem, hslug⟩ := (get_eq_some_iff hwf.tenantSlugs).1 hget
  constructor
  · rintro ⟨row, hrow, hs, rfl⟩
    rw [hwf.tenantSlugs.eq_of_key hrow hmem (hs.trans hslug.symm)]
  · rintro rfl
    exact ⟨tenant, hmem, hslug, rfl⟩

theorem tenantRights_addUser (hwf : d.WellFormed) (hget : get TenantRow.slug d.tenants t.slug = some tenant)
    (h : d.addUser tenant.id userId (roleSlug t) = some d') :
    tenantRights d' userId = (tenantOverwrite d.tenants t).apply (tenantRights d userId) := by
  ext ⟨tenantId, role⟩
  have hone := @tenant_of_slug d tenantId t tenant hwf hget
  have hwrites : (tenantId, role) ∈ (tenantOverwrite d.tenants t).writes ↔
      varchar 64 (roleSlug t) = some role ∧ tenantId = tenant.id := by
    rw [← hone, tenantOverwrite]
    simp only [Set.mem_ofPred_eq]
    tauto
  rw [Overwrite.mem_apply, hwrites, tenantRights, Set.mem_ofPred_eq, Accounts.mem_addUser h]
  simp only [tenantOverwrite, Set.mem_ofPred_eq, hone, tenantRights, UserTenant.key, Prod.mk.injEq, true_and, ne_eq]

theorem teamRights_overwrite (hwf : d.WellFormed) (hget : get TenantRow.slug d.tenants t.slug = some tenant) :
    teamRights (reconcileTeams d tenant.id userId teams) userId =
      (teamOverwrite d.tenants d.userTeams teams t).apply (teamRights d userId) := by
  ext x
  have hone := fun x => @tenant_of_slug d x t tenant hwf hget
  rw [teamRights_reconcile, Overwrite.mem_apply, mem_wantedTeamIds]
  simp only [teamOverwrite, Set.mem_ofPred_eq, hone]
  have hswap : (∃ row ∈ d.userTeams, row.id = x ∧ row.tenantId = tenant.id ∧ row.name ∈ teams) ↔
      ∃ row ∈ d.userTeams, row.id = x ∧ row.name ∈ teams ∧ row.tenantId = tenant.id := by
    simp only [and_comm (a := _ = tenant.id)]
  rw [hswap]

theorem wellFormed_reconcile (hwf : d.WellFormed) (hu : ∃ r ∈ d.users, r.id = userId) :
    (reconcileTeams d tenantId userId teams).WellFormed := by
  refine { hwf with teamUsers := fun m hm => ?_ }
  obtain hm | hm := List.mem_append.1 (List.mem_filter.1 hm).1
  · exact hwf.teamUsers m hm
  · obtain ⟨_, -, rfl⟩ := List.mem_map.1 hm
    exact hu

/-- What the loop does not write. -/
structure SameTables (d d' : Accounts) : Prop where
  users : d'.users = d.users
  tenants : d'.tenants = d.tenants
  userTeams : d'.userTeams = d.userTeams

theorem SameTables.trans {d'' : Accounts} (h : SameTables d d') (h' : SameTables d' d'') : SameTables d d'' :=
  ⟨h'.users.trans h.users, h'.tenants.trans h.tenants, h'.userTeams.trans h.userTeams⟩

theorem sameTables_addUser (h : d.addUser tenantId userId role = some d') : SameTables d d' := by
  obtain ⟨-, -, _, -, rfl⟩ := Accounts.addUser_eq_some h
  exact ⟨rfl, rfl, rfl⟩

theorem teamRights_addUser (h : d.addUser tenantId userId role = some d') :
    teamRights d' userId = teamRights d userId := by
  obtain ⟨-, -, _, -, rfl⟩ := Accounts.addUser_eq_some h
  rfl

/-- One pass of the loop for a tenant that exists. -/
theorem syncTenant_wellFormed (hwf : d.WellFormed) (h : d.addUser tenantId userId role = some d') :
    (reconcileTeams d' tenantId userId teams).WellFormed := by
  apply wellFormed_reconcile (hwf.addUser h)
  rw [(sameTables_addUser h).users]
  exact (Accounts.addUser_eq_some h).1

theorem syncTenants_wellFormed {ts : List TenantClaim} (hwf : d.WellFormed) :
    (syncTenants teams userId ts d).1.WellFormed := by
  induction ts generalizing d with
  | nil => exact hwf
  | cons t ts ih =>
      rw [syncTenants]
      split
      · exact ih hwf
      · split
        · exact hwf
        · exact ih (syncTenant_wellFormed hwf ‹_›)

/-- A slug without a tenant covers nothing. -/
theorem apply_of_no_tenant (hnone : get TenantRow.slug d.tenants t.slug = none) (p : Set (ℤ × String)) (q : Set ℤ) :
    (tenantOverwrite d.tenants t).apply p = p ∧ (teamOverwrite d.tenants d.userTeams teams t).apply q = q := by
  have hno : ∀ row ∈ d.tenants, row.slug ≠ t.slug := get_eq_none_iff.1 hnone
  constructor
  · ext x
    simp only [Overwrite.mem_apply, tenantOverwrite, Set.mem_ofPred_eq]
    grind
  · ext x
    simp only [Overwrite.mem_apply, teamOverwrite, Set.mem_ofPred_eq]
    grind

/-- The whole loop is the sequence of its overwrites. -/
theorem syncTenants_rights {ts : List TenantClaim} (hwf : d.WellFormed)
    (h : syncTenants teams userId ts d = (d', true)) :
    SameTables d d' ∧
      tenantRights d' userId =
        (Overwrite.seq (ts.map (tenantOverwrite d.tenants))).apply (tenantRights d userId) ∧
      teamRights d' userId =
        (Overwrite.seq (ts.map (teamOverwrite d.tenants d.userTeams teams))).apply (teamRights d userId) := by
  induction ts generalizing d with
  | nil =>
      rw [syncTenants, Prod.mk.injEq] at h
      obtain ⟨rfl, -⟩ := h
      exact ⟨⟨rfl, rfl, rfl⟩, Overwrite.apply_skip.symm, Overwrite.apply_skip.symm⟩
  | cons t ts ih =>
      rw [syncTenants] at h
      simp only [List.map_cons, Overwrite.apply_seq_cons]
      cases hget : get TenantRow.slug d.tenants t.slug with
      | none =>
          simp only [hget] at h
          obtain ⟨hsame, htenants, hteams⟩ := ih hwf h
          obtain ⟨hp, hq⟩ := @apply_of_no_tenant d teams t hget (tenantRights d userId) (teamRights d userId)
          exact ⟨hsame, by rw [hp]; exact htenants, by rw [hq]; exact hteams⟩
      | some tenant =>
          cases hadd : d.addUser tenant.id userId (roleSlug t) with
          | none => simp [hget, hadd] at h
          | some d₁ =>
              simp only [hget, hadd] at h
              have hsame₁ : SameTables d (reconcileTeams d₁ tenant.id userId teams) :=
                (sameTables_addUser hadd).trans ⟨rfl, rfl, rfl⟩
              obtain ⟨hsame, htenants, hteams⟩ := ih (syncTenant_wellFormed hwf hadd) h
              have hget₁ : get TenantRow.slug d₁.tenants t.slug = some tenant := by
                rw [(sameTables_addUser hadd).tenants]
                exact hget
              refine ⟨hsame₁.trans hsame, ?_, ?_⟩
              · rw [htenants, hsame₁.tenants]
                congr 1
                show tenantRights d₁ userId = _
                exact tenantRights_addUser hwf hget hadd
              · rw [hteams, hsame₁.tenants, hsame₁.userTeams, teamRights_overwrite (hwf.addUser hadd) hget₁,
                  teamRights_addUser hadd, (sameTables_addUser hadd).tenants, (sameTables_addUser hadd).userTeams]

end Loop

/-! ## A whole sign-in -/

section SignIn
variable {d d' : Accounts} {a : Assertion} {userId : ℤ}

theorem ensureMasterTenant_rights {role : PlatformRole} (h : ensureMasterTenant d role userId = some d') :
    SameTables d d' ∧ tenantRights d' userId = (masterOverwrite role).apply (tenantRights d userId) ∧
      teamRights d' userId = teamRights d userId := by
  cases role with
  | user =>
      rw [ensureMasterTenant, Option.some.injEq] at h
      subst h
      exact ⟨⟨rfl, rfl, rfl⟩, by simp [Overwrite.apply, masterOverwrite], rfl⟩
  | admin =>
      rw [ensureMasterTenant] at h
      refine ⟨sameTables_addUser h, ?_, teamRights_addUser h⟩
      have hadmin : varchar 64 "admin" = some "admin" := by decide
      ext ⟨tenantId, slug⟩
      rw [Overwrite.mem_apply, tenantRights, Set.mem_ofPred_eq, Accounts.mem_addUser h, hadmin]
      simp only [masterOverwrite, Set.mem_ofPred_eq, tenantRights, UserTenant.key, Prod.mk.injEq, true_and,
        Option.some.injEq, ne_eq]
      grind

theorem ensureMasterTenant_wellFormed (hwf : d.WellFormed) {role : PlatformRole}
    (h : ensureMasterTenant d role userId = some d') : d'.WellFormed := by
  cases role with
  | user => exact Option.some.inj h ▸ hwf
  | admin => exact hwf.addUser h

theorem accountOf_mem (h : accountOf d a = some userId) : ∃ r ∈ d.users, r.id = userId := by
  obtain ⟨r, hr, rfl⟩ := Option.map_eq_some_iff.1 h
  obtain ⟨id, -, hget⟩ := Option.bind_eq_some_iff.1 hr
  exact ⟨r, mem_of_get hget, rfl⟩

theorem wellFormed_dropDeadLink (hwf : d.WellFormed) : (dropDeadLink d a).WellFormed := by
  unfold dropDeadLink
  split_ifs
  · exact hwf
  · exact { hwf with }

theorem wellFormed_createUser (hwf : d.WellFormed) : (createUser d a).1.WellFormed := by
  unfold createUser
  split_ifs
  · exact { hwf with userIds := fun r hr => Int.lt_add_one_of_le (hwf.userIds r hr).le }
  · have hnew : (newUser d a).id = d.nextUserId := rfl
    exact { hwf.insertUser hnew with }

theorem wellFormed_resolveUser (hwf : d.WellFormed) : (resolveUser d a).1.WellFormed := by
  unfold resolveUser
  split
  · unfold syncProfile
    split_ifs
    · exact hwf
    · exact hwf.updateUser fun _ => rfl
  · exact wellFormed_createUser (wellFormed_dropDeadLink hwf)

/-- Only the links change. -/
theorem dropDeadLink_rest (d : Accounts) (a : Assertion) :
    dropDeadLink d a = { d with ssoForeignUsers := (dropDeadLink d a).ssoForeignUsers } := by
  unfold dropDeadLink
  split_ifs <;> rfl

/-- The profile of a known account is written, or an account with a number of its own is added. -/
theorem resolveUser_cases (h : resolveUser d a = (d', some userId)) :
    accountOf d a = some userId ∧ d' = d.updateUser userId (withProfile a) ∨
      accountOf d a = none ∧ userId = d.nextUserId ∧ ∃ links, d' = { d with
        nextUserId := d.nextUserId + 1
        users := d.users ++ [newUser d a]
        ssoForeignUsers := links } := by
  unfold resolveUser at h
  cases hacc : accountOf d a with
  | some u =>
      simp only [hacc, syncProfile] at h
      split_ifs at h
      · cases h
      · simp only [Prod.mk.injEq, Option.some.injEq] at h
        obtain ⟨rfl, rfl⟩ := h
        exact .inl ⟨rfl, rfl⟩
  | none =>
      simp only [hacc] at h
      rw [dropDeadLink_rest, createUser] at h
      split_ifs at h
      · cases h
      · simp only [Prod.mk.injEq, Option.some.injEq] at h
        obtain ⟨rfl, rfl⟩ := h
        exact .inr ⟨rfl, rfl, _, rfl⟩

/-- The account is an old one, or one with a number of its own. -/
theorem resolveUser_eq (h : resolveUser d a = (d', some userId)) :
    (accountOf d a = some userId ∨ accountOf d a = none ∧ userId = d.nextUserId) ∧
      d'.tenants = d.tenants ∧ d'.userTeams = d.userTeams ∧
      tenantRights d' userId = tenantRights d userId ∧ teamRights d' userId = teamRights d userId := by
  rcases resolveUser_cases h with ⟨hacc, rfl⟩ | ⟨hacc, hid, links, rfl⟩
  · exact ⟨.inl hacc, rfl, rfl, rfl, rfl⟩
  · exact ⟨.inr ⟨hacc, hid⟩, rfl, rfl, rfl, rfl⟩

/-- What one sign-in does, part by part. -/
theorem provisionObligateUser_eq (h : provisionObligateUser d a = (d', some userId)) :
    ∃ d₁ d₂, resolveUser d a = (d₁, some userId) ∧ syncTenants a.teams userId a.tenants d₁ = (d₂, true) ∧
      ensureMasterTenant d₂ (platformRole a.role) userId = some d' := by
  unfold provisionObligateUser at h
  split at h
  · cases h
  next d₁ u hres =>
    split at h
    · cases h
    next d₂ hsync =>
      split at h
      · cases h
      next d₃ hmaster =>
        split_ifs at h
        · cases h
        · simp only [Prod.mk.injEq, Option.some.injEq] at h
          obtain ⟨rfl, rfl⟩ := h
          exact ⟨d₁, d₂, hres, hsync, hmaster⟩

theorem wellFormed_provision (hwf : d.WellFormed) : (provisionObligateUser d a).1.WellFormed := by
  unfold provisionObligateUser
  have hres := @wellFormed_resolveUser d a hwf
  split
  next d₁ heq => exact heq ▸ hres
  next d₁ u heq =>
    rw [heq] at hres
    have hsync := @syncTenants_wellFormed d₁ u a.teams a.tenants hres
    split
    next d₂ heq₂ =>
      rw [heq₂] at hsync
      exact hsync
    next d₂ heq₂ =>
      rw [heq₂] at hsync
      split
      · exact hsync
      next d₃ hmaster =>
        have hmwf : d₃.WellFormed := ensureMasterTenant_wellFormed hsync hmaster
        split_ifs <;> exact hmwf

/-- The overwrite of `user_tenants` an assertion stands for. -/
def Assertion.tenantOverwrite (a : Assertion) (tenants : List TenantRow) : Overwrite (ℤ × String) :=
  (Overwrite.seq (a.tenants.map (Users.tenantOverwrite tenants))).comp (masterOverwrite (platformRole a.role))

def Assertion.teamOverwrite (a : Assertion) (tenants : List TenantRow) (userTeams : List UserTeam) : Overwrite ℤ :=
  Overwrite.seq (a.tenants.map (Users.teamOverwrite tenants userTeams a.teams))

theorem provision_rights (hwf : d.WellFormed) (h : provisionObligateUser d a = (d', some userId)) :
    (accountOf d a = some userId ∨ accountOf d a = none ∧ userId = d.nextUserId) ∧
      d'.tenants = d.tenants ∧ d'.userTeams = d.userTeams ∧
      tenantRights d' userId = (a.tenantOverwrite d.tenants).apply (tenantRights d userId) ∧
      teamRights d' userId = (a.teamOverwrite d.tenants d.userTeams).apply (teamRights d userId) := by
  obtain ⟨d₁, d₂, hres, hsync, hmaster⟩ := provisionObligateUser_eq h
  have hwf₁ : d₁.WellFormed := by
    have := @wellFormed_resolveUser d a hwf
    rwa [hres] at this
  obtain ⟨hacc, htenants₁, hteams₁, hrights₁, hteamRights₁⟩ := resolveUser_eq hres
  obtain ⟨hsame₂, hrights₂, hteamRights₂⟩ := syncTenants_rights hwf₁ hsync
  obtain ⟨hsame₃, hrights₃, hteamRights₃⟩ := ensureMasterTenant_rights hmaster
  refine ⟨hacc, ?_, ?_, ?_, ?_⟩
  · rw [hsame₃.tenants, hsame₂.tenants, htenants₁]
  · rw [hsame₃.userTeams, hsame₂.userTeams, hteams₁]
  · rw [hrights₃, hrights₂, hrights₁, htenants₁, Assertion.tenantOverwrite, Overwrite.apply_comp]
  · rw [hteamRights₃, hteamRights₂, hteamRights₁, htenants₁, hteams₁, Assertion.teamOverwrite]

/-! ## When the outcome is the assertion -/

theorem tenantRights_eq_writes {ts : List TenantRow} (hids : Keyed TenantRow.id ts)
    (hslugs : (a.tenants.map TenantClaim.slug).Nodup) :
    (a.tenantOverwrite ts).writes = {p | if a.role = "admin" ∧ p.1 = 1 then p.2 = "admin"
      else ∃ t ∈ a.tenants, ∃ row ∈ ts, (row.slug = t.slug ∧ row.id = p.1) ∧ varchar 64 (roleSlug t) = some p.2} := by
  have hdisj : (a.tenants.map (Users.tenantOverwrite ts)).Pairwise fun o p => ∀ x ∈ o.covers, x ∉ p.covers := by
    rw [List.pairwise_map]
    refine (List.pairwise_map.1 hslugs).imp fun {t t'} hne => ?_
    rintro p ⟨row, hrow, hslug, hid⟩ ⟨row', hrow', hslug', hid'⟩
    rw [hids.eq_of_key hrow hrow' (hid.trans hid'.symm)] at hslug
    exact hne (hslug.symm.trans hslug')
  ext ⟨tenantId, role⟩
  rw [Assertion.tenantOverwrite, Overwrite.comp, Overwrite.mem_apply, Overwrite.mem_seq_writes hdisj]
  simp only [List.mem_map, exists_exists_and_eq_and, masterOverwrite, Users.tenantOverwrite, Set.mem_ofPred_eq,
    platformRole, Prod.mk.injEq]
  by_cases hrole : a.role = "admin"
  · by_cases hone : tenantId = 1 <;> simp [hrole, hone]
  · simp [hrole]

theorem teamRights_eq_writes {d : Accounts} (hids : Keyed TenantRow.id d.tenants)
    (hteams : Keyed UserTeam.id d.userTeams) (hslugs : (a.tenants.map TenantClaim.slug).Nodup) :
    (a.teamOverwrite d.tenants d.userTeams).writes = a.teamRights d := by
  have hdisj : (a.tenants.map (Users.teamOverwrite d.tenants d.userTeams a.teams)).Pairwise
      fun o p => ∀ x ∈ o.covers, x ∉ p.covers := by
    rw [List.pairwise_map]
    refine (List.pairwise_map.1 hslugs).imp fun {t t'} hne => ?_
    rintro x ⟨team, hteam, hid, row, hrow, hslug, htid⟩ ⟨team', hteam', hid', row', hrow', hslug', htid'⟩
    rw [← hteams.eq_of_key hteam hteam' (hid.trans hid'.symm)] at htid'
    rw [hids.eq_of_key hrow hrow' (htid.trans htid'.symm)] at hslug
    exact hne (hslug.symm.trans hslug')
  ext x
  rw [Assertion.teamOverwrite, Overwrite.mem_seq_writes hdisj]
  simp only [List.mem_map, exists_exists_and_eq_and, Users.teamOverwrite, Set.mem_ofPred_eq, Assertion.teamRights,
    Assertion.Names]
  constructor
  · rintro ⟨t, ht, team, hteam, hid, hname, htenant⟩
    exact ⟨team, hteam, hid, hname, t, ht, htenant⟩
  · rintro ⟨team, hteam, hid, hname, t, ht, htenant⟩
    exact ⟨t, ht, team, hteam, hid, hname, htenant⟩

theorem mem_tenantOverwrite_covers {d : Accounts} {p : ℤ × String} :
    p ∈ (a.tenantOverwrite d.tenants).covers ↔ a.Names d p.1 ∨ a.role = "admin" ∧ p.1 = 1 := by
  rw [Assertion.tenantOverwrite, Overwrite.comp, Set.mem_union, Overwrite.mem_seq_covers]
  by_cases hrole : a.role = "admin" <;>
    simp [masterOverwrite, Users.tenantOverwrite, platformRole, Assertion.Names, hrole]

theorem mem_teamOverwrite_covers {d : Accounts} {x : ℤ} : x ∈ (a.teamOverwrite d.tenants d.userTeams).covers ↔
    ∃ row ∈ d.userTeams, row.id = x ∧ a.Names d row.tenantId := by
  rw [Assertion.teamOverwrite, Overwrite.mem_seq_covers]
  simp only [List.mem_map, exists_exists_and_eq_and, Users.teamOverwrite, Set.mem_ofPred_eq, Assertion.Names]
  constructor
  · rintro ⟨t, ht, team, hteam, hid, htenant⟩
    exact ⟨team, hteam, hid, t, ht, htenant⟩
  · rintro ⟨team, hteam, hid, t, ht, htenant⟩
    exact ⟨t, ht, team, hteam, hid, htenant⟩

/-- A number the sequence has not given out owns nothing. -/
theorem noStaleRights_of_fresh {d : Accounts} (hwf : d.WellFormed) : NoStaleRights d d.nextUserId a := by
  constructor
  · intro p hp
    obtain ⟨r, hr, hid⟩ := hwf.memberUsers _ hp
    exact absurd hid (hwf.userIds r hr).ne
  · intro x hx
    obtain ⟨r, hr, hid⟩ := hwf.teamUsers _ hx
    exact absurd hid (hwf.userIds r hr).ne

/-- Exactly the sign-ins that find nothing outside the assertion leave the asserted rights. -/
theorem rightsAsserted_iff {d d' : Accounts} (hwf : d.WellFormed)
    (hslugs : (a.tenants.map TenantClaim.slug).Nodup) (h : provisionObligateUser d a = (d', some userId)) :
    RightsAsserted d' userId a ↔ ∀ u, accountOf d a = some u → NoStaleRights d u a := by
  obtain ⟨hacc, htenants, hteams, hrights, hteamRights⟩ := provision_rights hwf h
  have hspec : a.tenantRights d' = (a.tenantOverwrite d.tenants).writes := by
    rw [tenantRights_eq_writes hwf.tenantIds hslugs, Assertion.tenantRights, htenants]
  have hspecTeams : a.teamRights d' = (a.teamOverwrite d.tenants d.userTeams).writes := by
    rw [teamRights_eq_writes hwf.tenantIds hwf.teamIds hslugs, Assertion.teamRights, Assertion.teamRights]
    simp only [hteams, Assertion.Names, htenants]
  have hstale : RightsAsserted d' userId a ↔ NoStaleRights d userId a := by
    constructor
    · intro hr
      have hsub := Overwrite.apply_eq_writes_iff.1 (hrights.symm.trans (hr.tenants.trans hspec))
      have hsubTeams := Overwrite.apply_eq_writes_iff.1 (hteamRights.symm.trans (hr.teams.trans hspecTeams))
      exact ⟨fun p hp => mem_tenantOverwrite_covers.1 (hsub hp), fun x hx => mem_teamOverwrite_covers.1 (hsubTeams hx)⟩
    · intro hs
      constructor
      · rw [hrights, hspec]
        exact Overwrite.apply_eq_writes_iff.2 fun p hp => mem_tenantOverwrite_covers.2 (hs.tenants p hp)
      · rw [hteamRights, hspecTeams]
        exact Overwrite.apply_eq_writes_iff.2 fun x hx => mem_teamOverwrite_covers.2 (hs.teams x hx)
  rw [hstale]
  obtain hold | ⟨hnone, rfl⟩ := hacc
  · simp [hold]
  · simp [hnone, noStaleRights_of_fresh hwf]

end SignIn

/-! ## Histories -/

structure SsoState where
  accounts : Accounts
  /-- The sign-in that has just returned. -/
  signedIn : Option (ℤ × Assertion)
  deriving DecidableEq, Repr

inductive SsoStep where
  | provision (a : Assertion)
  | userSync (remoteUserId : ℤ) (action : SyncAction)
  deriving DecidableEq, Repr

/-- An assertion names a tenant once. -/
def ssoStep (s : SsoState) : SsoStep → Option SsoState
  | .provision a =>
      if (a.tenants.map TenantClaim.slug).Nodup then
        let r := provisionObligateUser s.accounts a
        some ⟨r.1, r.2.map fun userId => (userId, a)⟩
      else none
  | .userSync remoteUserId action => some ⟨ssoUserSync s.accounts remoteUserId action, none⟩

/-- Sign-ins and pushes, from any state of the tables. -/
def ssoMachine : Machine SsoState SsoStep where
  init s := s.accounts.WellFormed ∧ s.signedIn = none
  step := ssoStep

/-- A sign-in that has just returned left the rights it was asserted. -/
def SsoState.Exact (s : SsoState) : Prop :=
  ∀ userId a, s.signedIn = some (userId, a) → RightsAsserted s.accounts userId a

/-- A sign-in of a known account finds nothing outside its assertion. -/
def nothingStale (s : SsoState) : SsoStep → Prop
  | .provision a => ∀ u, accountOf s.accounts a = some u → NoStaleRights s.accounts u a
  | .userSync _ _ => True

theorem wellFormed_userSync {d : Accounts} (hwf : d.WellFormed) (remoteUserId : ℤ) (action : SyncAction) :
    (ssoUserSync d remoteUserId action).WellFormed := by
  unfold ssoUserSync
  split_ifs
  · exact hwf
  · cases action with
    | deactivate => exact hwf.updateUser fun _ => rfl
    | reactivate => exact hwf.updateUser fun _ => rfl
    | delete => exact hwf.deleteUser
    | updateRole role =>
        have hupd := @Accounts.WellFormed.updateUser d remoteUserId hwf
          (fun r => { r with role := platformRole (role.getD "") }) fun _ => rfl
        simp only
        cases hm : ensureMasterTenant (d.updateUser remoteUserId fun r =>
            { r with role := platformRole (role.getD "") }) (platformRole (role.getD "")) remoteUserId with
        | none => exact hupd
        | some d' => exact ensureMasterTenant_wellFormed hupd hm
    | unknown => exact hwf

theorem wellFormed_ssoStep {s s' : SsoState} {x : SsoStep} (hwf : s.accounts.WellFormed)
    (h : ssoStep s x = some s') : s'.accounts.WellFormed := by
  cases x with
  | provision a =>
      rw [ssoStep] at h
      split_ifs at h
      cases h
      exact wellFormed_provision hwf
  | userSync remoteUserId action =>
      cases h
      exact wellFormed_userSync hwf remoteUserId action

theorem wellFormed_of_reach {ok : SsoState → SsoStep → Prop} {s : SsoState} (h : Reach ssoMachine ok s) :
    s.accounts.WellFormed := by
  apply h.invariant
  · exact fun s hs => hs.1
  · exact fun s x t hwf _ hstep => wellFormed_ssoStep hwf hstep

/-- After any step: exact, or the step was a sign-in that found something stale. -/
theorem exact_after_iff {s s' : SsoState} {a : Assertion} {userId : ℤ} (hwf : s.accounts.WellFormed)
    (h : ssoStep s (.provision a) = some s') (hin : s'.signedIn = some (userId, a)) :
    RightsAsserted s'.accounts userId a ↔ nothingStale s (.provision a) := by
  rw [ssoStep] at h
  split_ifs at h with hslugs
  cases h
  obtain ⟨u, hu, hpair⟩ := Option.map_eq_some_iff.1 hin
  rw [Prod.mk.injEq] at hpair
  obtain ⟨rfl, -⟩ := hpair
  exact rightsAsserted_iff hwf hslugs (Prod.ext rfl hu)

theorem exact_of_reach {s : SsoState} (h : Reach ssoMachine nothingStale s) : s.Exact := by
  have hinv : s.accounts.WellFormed ∧ s.Exact := by
    apply h.invariant
    · rintro s ⟨hwf, hnone⟩
      refine ⟨hwf, fun userId a hin => ?_⟩
      rw [hnone] at hin
      cases hin
    · rintro s x t ⟨hwf, -⟩ hok hstep
      refine ⟨wellFormed_ssoStep hwf hstep, fun userId a hin => ?_⟩
      cases x with
      | provision b =>
          have hb : b = a := by
            have hstep' : ssoStep s (.provision b) = some t := hstep
            rw [ssoStep] at hstep'
            split_ifs at hstep'
            cases hstep'
            obtain ⟨u, -, hpair⟩ := Option.map_eq_some_iff.1 hin
            exact (Prod.mk.injEq .. ▸ hpair).2
          subst hb
          exact (exact_after_iff hwf hstep hin).2 hok
      | userSync remoteUserId action =>
          cases hstep
          cases hin
  exact hinv.2

/-- In any run, a sign-in leaves the asserted rights iff it finds nothing stale; so a run in which none does
leaves them at each. -/
theorem rights_asserted_at_sign_in {s : SsoState} (h : Reach ssoMachine anyStep s) :
    (∀ a s' userId, ssoMachine.step s (.provision a) = some s' → s'.signedIn = some (userId, a) →
      (RightsAsserted s'.accounts userId a ↔ nothingStale s (.provision a))) ∧
    (Reach ssoMachine nothingStale s → s.Exact) :=
  ⟨fun _ _ _ hstep hin => exact_after_iff (wellFormed_of_reach h) hstep hin, exact_of_reach⟩

def annAsserted (tenants : List TenantClaim) : Assertion :=
  ⟨7, "ann", some "ann@example.org", some "Ann", "user", tenants, [], none⟩

/-- The account has been given the tenant `acme`, and the tenant is withdrawn. -/
def withdrawnTenant : List SsoStep :=
  [.provision (annAsserted [⟨"acme", some "admin"⟩]), .provision (annAsserted [])]

def twoTenants : Accounts := ⟨[], 1, [⟨1, "default"⟩, ⟨2, "acme"⟩], [], [], [], []⟩

/-- The tables after both sign-ins. -/
def stillAdmin : Accounts :=
  { twoTenants with
    users := [⟨1, "og_ann", some "Ann", some "ann@example.org", .user, true, some "obligate", some 7⟩]
    nextUserId := 2
    userTenants := [⟨1, 2, "admin"⟩]
    ssoForeignUsers := [⟨"obligate", 7, 1⟩] }

theorem twoTenants_init : ssoMachine.init ⟨twoTenants, none⟩ :=
  ⟨⟨by decide, by decide, by decide, by simp [twoTenants], by simp [twoTenants], by simp [twoTenants],
    by simp [twoTenants]⟩, rfl⟩

/-- The same assertion twice: the second sign-in finds only what it asserts. -/
theorem rights_asserted_twice :
    (⟨stillAdmin, some (1, annAsserted [⟨"acme", some "admin"⟩])⟩ : SsoState).Exact := by
  let signedIn : SsoState := ⟨stillAdmin, some (1, annAsserted [⟨"acme", some "admin"⟩])⟩
  have hfirst : Reach ssoMachine nothingStale signedIn := by
    apply (Reach.start twoTenants_init).next (.provision (annAsserted [⟨"acme", some "admin"⟩]))
    · intro u hu
      have hnone : accountOf twoTenants (annAsserted [⟨"acme", some "admin"⟩]) = none := by decide
      exact absurd (hu.symm.trans hnone) (by simp)
    · decide
  have hsecond : Reach ssoMachine nothingStale signedIn := by
    apply hfirst.next (.provision (annAsserted [⟨"acme", some "admin"⟩]))
    · intro u _
      constructor
      · intro p hp
        left
        refine ⟨⟨"acme", some "admin"⟩, List.mem_singleton.2 rfl, ⟨2, "acme"⟩,
          by simp [signedIn, stillAdmin, twoTenants], rfl, ?_⟩
        simp [tenantRights, signedIn, stillAdmin] at hp
        exact hp.2.1.symm
      · intro x hx
        simp [teamRights, signedIn, stillAdmin, twoTenants] at hx
    · decide
  exact (rights_asserted_at_sign_in (hsecond.mono fun _ _ _ => trivial)).2 hsecond

theorem withdrawn_tenant_survives : ¬ ∀ s, Reach ssoMachine anyStep s → s.Exact := by
  apply not_forall_reach twoTenants_init withdrawnTenant
  refine ⟨⟨stillAdmin, some (1, annAsserted [])⟩, by decide, fun hexact => ?_⟩
  have hin : ((2, "admin") : ℤ × String) ∈ tenantRights stillAdmin 1 := by simp [tenantRights, stillAdmin]
  rw [(hexact 1 _ rfl).tenants] at hin
  simp [Assertion.tenantRights, annAsserted] at hin

end Obliance.Users
