import Obliance.Lib.KeyedTable
import Mathlib.Data.Int.Order.Basic

/-!
# Users, tenants and teams (`001_initial_schema.ts`, `services/tenant.service.ts`)

* `Accounts` : the tables that say who may work in which tenant; `Accounts.WellFormed` : their keys;
* `varchar` : what a column of bounded length stores;
* `addUser`, `removeUser`, `deleteTenant`, `deleteUser` : the statements with their cascades;
* `userHasAccess`, `getFirstTenantForUser` : the reads.
-/

namespace Obliance.Users
open KeyedTable

/-- The enum `user_role`. -/
inductive PlatformRole where
  | admin
  | user
  deriving DecidableEq, Repr

structure UserRow where
  id : ℤ
  username : String
  displayName : Option String
  email : Option String
  role : PlatformRole
  isActive : Bool
  foreignSource : Option String
  foreignId : Option ℤ
  deriving DecidableEq, Repr

structure TenantRow where
  id : ℤ
  slug : String
  deriving DecidableEq, Repr

/-- `user_tenants`: `role` is the slug of a permission set, or `admin`. -/
structure UserTenant where
  userId : ℤ
  tenantId : ℤ
  role : String
  deriving DecidableEq, Repr

structure UserTeam where
  id : ℤ
  tenantId : ℤ
  name : String
  deriving DecidableEq, Repr

structure TeamMembership where
  teamId : ℤ
  userId : ℤ
  deriving DecidableEq, Repr

structure SsoForeignUser where
  foreignSource : String
  foreignUserId : ℤ
  localUserId : ℤ
  deriving DecidableEq, Repr

/-- A membership to store. -/
structure TenantAssignment where
  tenantId : ℤ
  role : String
  deriving DecidableEq, Repr

def UserTenant.key (m : UserTenant) : ℤ × ℤ := (m.userId, m.tenantId)

def SsoForeignUser.key (r : SsoForeignUser) : String × ℤ := (r.foreignSource, r.foreignUserId)

structure Accounts where
  users : List UserRow
  /-- The sequence of `users.id`. -/
  nextUserId : ℤ
  tenants : List TenantRow
  userTenants : List UserTenant
  userTeams : List UserTeam
  teamMemberships : List TeamMembership
  ssoForeignUsers : List SsoForeignUser
  deriving DecidableEq, Repr

structure Accounts.WellFormed (d : Accounts) : Prop where
  tenantIds : Keyed TenantRow.id d.tenants
  tenantSlugs : Keyed TenantRow.slug d.tenants
  teamIds : Keyed UserTeam.id d.userTeams
  userIds : ∀ r ∈ d.users, r.id < d.nextUserId
  memberUsers : ∀ m ∈ d.userTenants, ∃ r ∈ d.users, r.id = m.userId
  memberTenants : ∀ m ∈ d.userTenants, ∃ t ∈ d.tenants, t.id = m.tenantId
  teamUsers : ∀ m ∈ d.teamMemberships, ∃ r ∈ d.users, r.id = m.userId

/-- A column of type `varchar(n)`: excess blanks are cut, any other excess is refused. -/
def varchar (n : ℕ) (s : String) : Option String :=
  if (s.toList.drop n).all (· = ' ') then some (String.ofList (s.toList.take n)) else none

namespace Accounts

/-- `insert … onConflict(['user_id', 'tenant_id']).merge({ role })`, `none` when the database refuses it:
the row has a foreign key on both ids. -/
def addUser (d : Accounts) (tenantId userId : ℤ) (role : String) : Option Accounts :=
  if (get UserRow.id d.users userId).isSome ∧ (get TenantRow.id d.tenants tenantId).isSome then
    (varchar 64 role).map fun role =>
      { d with
        userTenants := upsert UserTenant.key d.userTenants ⟨userId, tenantId, role⟩ fun m =>
          { m with role := role } }
  else none

def removeUser (d : Accounts) (tenantId userId : ℤ) : Accounts :=
  { d with userTenants := remove UserTenant.key d.userTenants (userId, tenantId) }

/-- The tenant, and by cascade the memberships and the teams of it. -/
def deleteTenant (d : Accounts) (tenantId : ℤ) : Accounts :=
  { d with
    tenants := remove TenantRow.id d.tenants tenantId
    userTenants := d.userTenants.filter fun m => m.tenantId ≠ tenantId
    userTeams := d.userTeams.filter fun t => t.tenantId ≠ tenantId
    teamMemberships := d.teamMemberships.filter fun m =>
      !d.userTeams.any fun t => decide (t.id = m.teamId ∧ t.tenantId = tenantId) }

/-- The user, and by cascade its links and memberships. -/
def deleteUser (d : Accounts) (userId : ℤ) : Accounts :=
  { d with
    users := remove UserRow.id d.users userId
    ssoForeignUsers := d.ssoForeignUsers.filter fun r => r.localUserId ≠ userId
    userTenants := d.userTenants.filter fun m => m.userId ≠ userId
    teamMemberships := d.teamMemberships.filter fun m => m.userId ≠ userId }

def updateUser (d : Accounts) (userId : ℤ) (f : UserRow → UserRow) : Accounts :=
  { d with users := modify UserRow.id d.users userId f }

def userHasAccess (d : Accounts) (userId tenantId : ℤ) : Bool :=
  d.userTenants.any fun m => decide (m.userId = userId ∧ m.tenantId = tenantId)

/-- The ids of `tenants JOIN user_tenants` for the user. -/
def tenantIdsOf (d : Accounts) (userId : ℤ) : List ℤ :=
  (d.tenants.filter fun t => d.userHasAccess userId t.id).map TenantRow.id

/-- `getFirstTenantForUser`: the lowest id. -/
def getFirstTenantForUser (d : Accounts) (userId : ℤ) : Option ℤ := (d.tenantIdsOf userId).min?

/-! ## Reads -/

section Reads
variable {d : Accounts} {userId tenantId : ℤ} {role : String}

theorem userHasAccess_iff :
    d.userHasAccess userId tenantId = true ↔ ∃ m ∈ d.userTenants, m.userId = userId ∧ m.tenantId = tenantId := by
  simp [userHasAccess]

theorem userHasAccess_of_mem {m : UserTenant} (hm : m ∈ d.userTenants) :
    d.userHasAccess m.userId m.tenantId = true :=
  userHasAccess_iff.2 ⟨m, hm, rfl, rfl⟩

theorem userHasAccess_of_first (h : d.getFirstTenantForUser userId = some tenantId) :
    d.userHasAccess userId tenantId = true := by
  have hmem : tenantId ∈ d.tenantIdsOf userId := List.min?_mem h
  obtain ⟨t, ht, rfl⟩ := List.mem_map.1 hmem
  exact (List.mem_filter.1 ht).2

/-- Every row of `user_tenants` joins its tenant: without a first tenant the user has no row. -/
theorem first_eq_none_iff (hwf : d.WellFormed) :
    d.getFirstTenantForUser userId = none ↔ ∀ m ∈ d.userTenants, m.userId ≠ userId := by
  rw [getFirstTenantForUser, List.min?_eq_none_iff, tenantIdsOf, List.map_eq_nil_iff, List.filter_eq_nil_iff]
  constructor
  · intro h m hm hu
    obtain ⟨t, ht, hid⟩ := hwf.memberTenants m hm
    apply h t ht
    rw [hid, ← hu]
    exact userHasAccess_of_mem hm
  · intro h t _ hacc
    obtain ⟨m, hm, hu, -⟩ := userHasAccess_iff.1 hacc
    exact h m hm hu

end Reads

/-! ## The statements keep the keys -/

section Keys
variable {d d' : Accounts} {userId tenantId : ℤ} {role : String}

theorem addUser_eq_some (h : d.addUser tenantId userId role = some d') :
    (∃ r ∈ d.users, r.id = userId) ∧ (∃ t ∈ d.tenants, t.id = tenantId) ∧
      ∃ stored, varchar 64 role = some stored ∧
        d' = { d with
          userTenants := upsert UserTenant.key d.userTenants ⟨userId, tenantId, stored⟩ fun m =>
            { m with role := stored } } := by
  unfold addUser at h
  split_ifs at h with hfk
  obtain ⟨stored, hstored, rfl⟩ := Option.map_eq_some_iff.1 h
  exact ⟨get_isSome_iff.1 hfk.1, get_isSome_iff.1 hfk.2, stored, hstored, rfl⟩

theorem mem_addUser (h : d.addUser tenantId userId role = some d') {m : UserTenant} :
    m ∈ d'.userTenants ↔ varchar 64 role = some m.role ∧ m.key = (userId, tenantId) ∨
      m ∈ d.userTenants ∧ m.key ≠ (userId, tenantId) := by
  obtain ⟨-, -, stored, hstored, rfl⟩ := addUser_eq_some h
  rw [mem_upsert (fun r' hr' => by cases r'; simp_all [UserTenant.key]), hstored]
  simp only [UserTenant.key, Prod.mk.injEq, Option.some.injEq]
  constructor
  · rintro (rfl | h)
    · exact .inl ⟨rfl, rfl, rfl⟩
    · exact .inr h
  · rintro (⟨hrole, hu, ht⟩ | h)
    · exact .inl (by rw [← hu, ← ht, hrole])
    · exact .inr h

theorem WellFormed.addUser (hwf : d.WellFormed) (h : d.addUser tenantId userId role = some d') :
    d'.WellFormed := by
  obtain ⟨hu, ht, stored, -, rfl⟩ := addUser_eq_some h
  have hmem : ∀ m, m ∈ (upsert UserTenant.key d.userTenants ⟨userId, tenantId, stored⟩ fun m =>
      { m with role := stored }) → m = ⟨userId, tenantId, stored⟩ ∨ m ∈ d.userTenants := by
    intro m hm
    rw [mem_upsert (fun r' hr' => by cases r'; simp_all [UserTenant.key])] at hm
    exact hm.imp_right And.left
  refine { hwf with memberUsers := fun m hm => ?_, memberTenants := fun m hm => ?_ }
  · obtain rfl | hm := hmem m hm
    · exact hu
    · exact hwf.memberUsers m hm
  · obtain rfl | hm := hmem m hm
    · exact ht
    · exact hwf.memberTenants m hm

theorem WellFormed.removeUser (hwf : d.WellFormed) : (d.removeUser tenantId userId).WellFormed :=
  { hwf with
    memberUsers := fun m hm => hwf.memberUsers m (mem_remove.1 hm).1
    memberTenants := fun m hm => hwf.memberTenants m (mem_remove.1 hm).1 }

theorem WellFormed.deleteTenant (hwf : d.WellFormed) : (d.deleteTenant tenantId).WellFormed where
  tenantIds := nodup_remove hwf.tenantIds
  tenantSlugs := hwf.tenantSlugs.sublist (List.filter_sublist.map _)
  teamIds := hwf.teamIds.sublist (List.filter_sublist.map _)
  userIds := hwf.userIds
  memberUsers := fun m hm => hwf.memberUsers m (List.mem_filter.1 hm).1
  memberTenants := by
    intro m hm
    obtain ⟨hm, hne⟩ := List.mem_filter.1 hm
    obtain ⟨t, ht, hid⟩ := hwf.memberTenants m hm
    refine ⟨t, mem_remove.2 ⟨ht, ?_⟩, hid⟩
    rw [hid]
    exact of_decide_eq_true hne
  teamUsers := fun m hm => hwf.teamUsers m (List.mem_filter.1 hm).1

theorem WellFormed.deleteUser (hwf : d.WellFormed) : (d.deleteUser userId).WellFormed := by
  have huser : ∀ u, u ≠ userId → (∃ r ∈ d.users, r.id = u) → ∃ r ∈ remove UserRow.id d.users userId, r.id = u := by
    rintro u hu ⟨r, hr, rfl⟩
    exact ⟨r, mem_remove.2 ⟨hr, hu⟩, rfl⟩
  refine { hwf with userIds := ?_, memberUsers := ?_, memberTenants := ?_, teamUsers := ?_ }
  · exact fun r hr => hwf.userIds r (mem_remove.1 hr).1
  · intro m hm
    obtain ⟨hm, hne⟩ := List.mem_filter.1 hm
    exact huser _ (of_decide_eq_true hne) (hwf.memberUsers m hm)
  · exact fun m hm => hwf.memberTenants m (List.mem_filter.1 hm).1
  · intro m hm
    obtain ⟨hm, hne⟩ := List.mem_filter.1 hm
    exact huser _ (of_decide_eq_true hne) (hwf.teamUsers m hm)

/-- A row with the next number of the sequence. -/
theorem WellFormed.insertUser (hwf : d.WellFormed) {row : UserRow} (hid : row.id = d.nextUserId) :
    { d with users := d.users ++ [row], nextUserId := d.nextUserId + 1 }.WellFormed := by
  have hkeep : ∀ u, (∃ r ∈ d.users, r.id = u) → ∃ r ∈ d.users ++ [row], r.id = u :=
    fun u ⟨r, hr, hu⟩ => ⟨r, List.mem_append_left _ hr, hu⟩
  refine { hwf with userIds := ?_, memberUsers := ?_, teamUsers := ?_ }
  · intro r hr
    obtain hr | hr := List.mem_append.1 hr
    · exact Int.lt_add_one_of_le (Int.le_of_lt (hwf.userIds r hr))
    · rw [List.mem_singleton.1 hr, hid]
      exact Int.lt_succ _
  · exact fun m hm => hkeep _ (hwf.memberUsers m hm)
  · exact fun m hm => hkeep _ (hwf.teamUsers m hm)

theorem WellFormed.insertTenant (hwf : d.WellFormed) {row : TenantRow}
    (hnew : ∀ t ∈ d.tenants, t.id ≠ row.id ∧ t.slug ≠ row.slug) :
    { d with tenants := d.tenants ++ [row] }.WellFormed := by
  refine { hwf with tenantIds := ?_, tenantSlugs := ?_, memberTenants := ?_ }
  · exact nodup_append hwf.tenantIds (get_eq_none_iff.2 fun t ht => (hnew t ht).1)
  · exact nodup_append hwf.tenantSlugs (get_eq_none_iff.2 fun t ht => (hnew t ht).2)
  · intro m hm
    obtain ⟨t, ht, hid⟩ := hwf.memberTenants m hm
    exact ⟨t, List.mem_append_left _ ht, hid⟩

theorem WellFormed.updateUser (hwf : d.WellFormed) {f : UserRow → UserRow} (hf : ∀ r, (f r).id = r.id) :
    (d.updateUser userId f).WellFormed := by
  have huser : ∀ u, (∃ r ∈ d.users, r.id = u) → ∃ r ∈ modify UserRow.id d.users userId f, r.id = u := by
    rintro u ⟨r, hr, rfl⟩
    exact ⟨_, mem_modify.2 ⟨r, hr, rfl⟩, key_ite hf r⟩
  refine { hwf with userIds := ?_, memberUsers := ?_, teamUsers := ?_ }
  · intro r hr
    obtain ⟨r₀, hr₀, rfl⟩ := mem_modify.1 hr
    rw [key_ite hf]
    exact hwf.userIds r₀ hr₀
  · exact fun m hm => huser _ (hwf.memberUsers m hm)
  · exact fun m hm => huser _ (hwf.teamUsers m hm)

end Keys

end Accounts

end Obliance.Users
