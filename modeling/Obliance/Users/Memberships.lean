import Obliance.Users.Provision

/-!
# Who may work in a tenant (`services/tenant.service.ts`, `routes/obligateCallback.routes.ts`)

* `Holds` : what entitles a request of a user to a tenant; `HasSomeTenant`, `firstTenantOrMaster` : the first
  tenant of a user, or the master tenant;
* `setUserTenantAssignments` : the memberships of a user, replaced in one transaction;
* `resolveTenant` : the tenant of a sign-in through the provider;
* `KeepsUsers` : an edit deletes no user and gives no number again;
* what each edit keeps of the memberships, and what a sign-in adds to them.
-/

namespace Obliance.Users
open KeyedTable

/-! ## Memberships -/

def isPlatformAdmin (d : Accounts) (userId : ℤ) : Bool :=
  (get UserRow.id d.users userId).any fun r => decide (r.role = .admin)

/-- The user has a row. -/
def Accounts.Has (d : Accounts) (userId : ℤ) : Prop := ∃ r ∈ d.users, r.id = userId

/-- What entitles a request of the user to the tenant. -/
def Holds (d : Accounts) (userId tenantId : ℤ) : Prop :=
  isPlatformAdmin d userId = true ∨ d.userHasAccess userId tenantId = true

def HasSomeTenant (d : Accounts) (userId : ℤ) : Prop :=
  isPlatformAdmin d userId = true ∨ ∃ m ∈ d.userTenants, m.userId = userId

/-- The rows of an `insert`: the key of a row must be new. -/
def insertAssignments (userId : ℤ) : List TenantAssignment → Accounts → Option Accounts
  | [], d => some d
  | a :: as, d =>
      if d.userHasAccess userId a.tenantId then none
      else
        (d.addUser a.tenantId userId (if a.role = "member" ∨ a.role = "" then "user" else a.role)).bind
          (insertAssignments userId as)

/-- One transaction: every row of the user is replaced. -/
def setUserTenantAssignments (d : Accounts) (userId : ℤ) (as : List TenantAssignment) : Option Accounts :=
  insertAssignments userId as { d with userTenants := d.userTenants.filter fun m => m.userId ≠ userId }

/-- `tenant?.id ?? 1`, for `getFirstTenantForUser`. -/
def firstTenantOrMaster (d : Accounts) (userId : ℤ) : ℤ := (d.getFirstTenantForUser userId).getD 1

/-! ## Sign-ins -/

/-- The tenant of a sign-in through the provider: the one the source application asked for when the user may
go there, the first one otherwise. -/
def resolveTenant (d : Accounts) (a : Assertion) (userId : ℤ) (requestedSlug : Option String) : ℤ :=
  let requested := requestedSlug.bind fun slug =>
    (get TenantRow.slug d.tenants slug).filter fun t =>
      decide (a.role = "admin") || d.userHasAccess userId t.id
  (requested.map TenantRow.id).getD (firstTenantOrMaster d userId)

/-- The sign-in of an account that is, or becomes, a member of some tenant. -/
def FindsTenant (d : Accounts) (a : Assertion) : Prop :=
  a.role = "admin" ∨ (∃ tenantId, a.Names d tenantId) ∨
    ∃ userId, accountOf d a = some userId ∧ ∃ m ∈ d.userTenants, m.userId = userId

/-- A sign-in that makes a plain user of an administrator. -/
def Demotes (d : Accounts) (a : Assertion) (userId : ℤ) : Prop :=
  accountOf d a = some userId ∧ isPlatformAdmin d userId = true ∧ a.role ≠ "admin" ∧
    emailTaken d (some userId) a.email = false

/-! ## What the statements keep -/

section Frames
variable {d d' : Accounts} {userId tenantId u t : ℤ} {role : String}

theorem access_addUser (h : d.addUser tenantId userId role = some d') :
    d'.userHasAccess userId tenantId = true := by
  obtain ⟨-, -, stored, hstored, -⟩ := Accounts.addUser_eq_some h
  exact Accounts.userHasAccess_of_mem ((Accounts.mem_addUser (m := ⟨userId, tenantId, stored⟩) h).2
    (.inl ⟨hstored, rfl⟩))

theorem access_addUser_mono (h : d.addUser tenantId userId role = some d')
    (hacc : d.userHasAccess u t = true) : d'.userHasAccess u t = true := by
  obtain ⟨m, hm, rfl, rfl⟩ := Accounts.userHasAccess_iff.1 hacc
  by_cases hk : m.key = (userId, tenantId)
  · obtain ⟨rfl, rfl⟩ := Prod.mk.injEq .. ▸ hk
    exact access_addUser h
  · exact Accounts.userHasAccess_of_mem ((Accounts.mem_addUser h).2 (.inr ⟨hm, hk⟩))

theorem users_addUser (h : d.addUser tenantId userId role = some d') : d'.users = d.users :=
  (sameTables_addUser h).users

theorem isPlatformAdmin_congr (h : d'.users = d.users) : isPlatformAdmin d' u = isPlatformAdmin d u := by
  rw [isPlatformAdmin, isPlatformAdmin, h]

theorem isPlatformAdmin_updateUser {f : UserRow → UserRow} (hf : ∀ r, (f r).id = r.id) :
    isPlatformAdmin (d.updateUser userId f) u =
      (get UserRow.id d.users u).any fun r => decide ((if r.id = userId then f r else r).role = .admin) := by
  rw [isPlatformAdmin, Accounts.updateUser, get_modify hf, Option.any_map]

/-- An update of somebody else. -/
theorem isPlatformAdmin_updateUser_ne {f : UserRow → UserRow} (hf : ∀ r, (f r).id = r.id) (hu : u ≠ userId) :
    isPlatformAdmin (d.updateUser userId f) u = isPlatformAdmin d u := by
  rw [isPlatformAdmin, Accounts.updateUser, get_modify_ne hf hu, isPlatformAdmin]

theorem isPlatformAdmin_append (row : UserRow) (h : isPlatformAdmin d u = true)
    (hd' : d'.users = d.users ++ [row]) : isPlatformAdmin d' u = true := by
  obtain ⟨r, hr, hrole⟩ := (Option.any_eq_true _ _).1 h
  have hfound : KeyedTable.get UserRow.id (d.users ++ [row]) u = some r := by
    unfold KeyedTable.get at hr ⊢
    rw [List.find?_append, hr]
    rfl
  rw [isPlatformAdmin, hd', hfound]
  exact hrole

theorem access_removeUser (hne : (u, t) ≠ (userId, tenantId)) (h : d.userHasAccess u t = true) :
    (d.removeUser tenantId userId).userHasAccess u t = true := by
  obtain ⟨m, hm, rfl, rfl⟩ := Accounts.userHasAccess_iff.1 h
  exact Accounts.userHasAccess_of_mem (mem_remove.2 ⟨hm, hne⟩)

theorem access_deleteTenant (hne : t ≠ tenantId) (h : d.userHasAccess u t = true) :
    (d.deleteTenant tenantId).userHasAccess u t = true := by
  obtain ⟨m, hm, rfl, rfl⟩ := Accounts.userHasAccess_iff.1 h
  exact Accounts.userHasAccess_of_mem (List.mem_filter.2 ⟨hm, decide_eq_true hne⟩)

theorem access_deleteUser (hne : u ≠ userId) (h : d.userHasAccess u t = true) :
    (d.deleteUser userId).userHasAccess u t = true := by
  obtain ⟨m, hm, rfl, rfl⟩ := Accounts.userHasAccess_iff.1 h
  exact Accounts.userHasAccess_of_mem (List.mem_filter.2 ⟨hm, decide_eq_true hne⟩)

theorem isPlatformAdmin_deleteUser (hne : u ≠ userId) :
    isPlatformAdmin (d.deleteUser userId) u = isPlatformAdmin d u := by
  rw [isPlatformAdmin, Accounts.deleteUser, get_remove_ne hne]
  rfl

/-- The whole transaction keeps the rows of the others, and ends with the given tenants. -/
theorem insertAssignments_spec {as : List TenantAssignment} (h : insertAssignments userId as d = some d') :
    d'.users = d.users ∧ (∀ u t, d.userHasAccess u t = true → d'.userHasAccess u t = true) ∧
      (∀ a ∈ as, d'.userHasAccess userId a.tenantId = true) ∧ (d.WellFormed → d'.WellFormed) := by
  induction as generalizing d with
  | nil =>
      rw [insertAssignments, Option.some.injEq] at h
      subst h
      exact ⟨rfl, fun _ _ => id, by simp, id⟩
  | cons a as ih =>
      rw [insertAssignments] at h
      split_ifs at h
      all_goals
        obtain ⟨d₁, hadd, hrest⟩ := Option.bind_eq_some_iff.1 h
        obtain ⟨husers, hmono, hgiven, hwf⟩ := ih hrest
        refine ⟨husers.trans (users_addUser hadd), fun u t ht => hmono u t (access_addUser_mono hadd ht), ?_,
          fun hd => hwf (hd.addUser hadd)⟩
        intro b hb
        obtain rfl | hb := List.mem_cons.1 hb
        · exact hmono _ _ (access_addUser hadd)
        · exact hgiven b hb

theorem setUserTenantAssignments_spec {as : List TenantAssignment}
    (h : setUserTenantAssignments d userId as = some d') :
    d'.users = d.users ∧ (∀ u t, u ≠ userId → d.userHasAccess u t = true → d'.userHasAccess u t = true) ∧
      (∀ a ∈ as, d'.userHasAccess userId a.tenantId = true) ∧ (d.WellFormed → d'.WellFormed) := by
  obtain ⟨husers, hmono, hgiven, hwf⟩ := insertAssignments_spec h
  refine ⟨husers, fun u t hu ht => hmono u t ?_, hgiven, fun hd => hwf ?_⟩
  · obtain ⟨m, hm, rfl, rfl⟩ := Accounts.userHasAccess_iff.1 ht
    exact Accounts.userHasAccess_of_mem (List.mem_filter.2 ⟨hm, decide_eq_true hu⟩)
  · exact { hd with
      memberUsers := fun m hm => hd.memberUsers m (List.mem_filter.1 hm).1
      memberTenants := fun m hm => hd.memberTenants m (List.mem_filter.1 hm).1 }

end Frames

/-! ## What a sign-in keeps -/

section SignIn
variable {d d' : Accounts} {a : Assertion} {userId u t : ℤ} {ts : List TenantClaim} {teams : List String}

theorem syncTenants_users : (syncTenants teams userId ts d).1.users = d.users := by
  induction ts generalizing d with
  | nil => rfl
  | cons c ts ih =>
      rw [syncTenants]
      split
      · exact ih
      · split
        · rfl
        next d₁ hadd =>
          refine ih.trans ?_
          show d₁.users = d.users
          exact users_addUser hadd

/-- Stopped halfway or not, the loop takes no membership away. -/
theorem syncTenants_access_mono (h : d.userHasAccess u t = true) :
    (syncTenants teams userId ts d).1.userHasAccess u t = true := by
  induction ts generalizing d with
  | nil => exact h
  | cons c ts ih =>
      rw [syncTenants]
      split
      · exact ih h
      · split
        · exact h
        next d₁ hadd =>
          apply ih
          show d₁.userHasAccess u t = true
          exact access_addUser_mono hadd h

/-- A finished loop has made the account a member of every tenant it names. -/
theorem syncTenants_access (h : syncTenants teams userId ts d = (d', true)) {c : TenantClaim} (hc : c ∈ ts)
    {row : TenantRow} (hrow : row ∈ d.tenants) (hslug : row.slug = c.slug) (hwf : d.WellFormed) :
    d'.userHasAccess userId row.id = true := by
  induction ts generalizing d with
  | nil => cases hc
  | cons c₀ ts ih =>
      rw [syncTenants] at h
      cases hget : KeyedTable.get TenantRow.slug d.tenants c₀.slug with
      | none =>
          simp only [hget] at h
          obtain rfl | hc := List.mem_cons.1 hc
          · exact absurd hslug (get_eq_none_iff.1 hget row hrow)
          · exact ih h hc hrow hwf
      | some tenant =>
          cases hadd : d.addUser tenant.id userId (roleSlug c₀) with
          | none => simp [hget, hadd] at h
          | some d₁ =>
              simp only [hget, hadd] at h
              obtain rfl | hc := List.mem_cons.1 hc
              · have hid : row = tenant := Option.some.inj
                  (((get_eq_some_iff hwf.tenantSlugs).2 ⟨hrow, hslug⟩).symm.trans hget)
                have hgiven : d₁.userHasAccess userId tenant.id = true := access_addUser hadd
                have hkept := @syncTenants_access_mono (reconcileTeams d₁ tenant.id userId teams) userId userId
                  tenant.id ts teams hgiven
                rw [h] at hkept
                rw [hid]
                exact hkept
              · refine ih h hc ?_ (syncTenant_wellFormed hwf hadd)
                show row ∈ d₁.tenants
                rw [(sameTables_addUser hadd).tenants]
                exact hrow

/-- Roles that fit their column are never refused. -/
theorem syncTenants_finishes (hfit : ∀ c ∈ ts, (varchar 64 (roleSlug c)).isSome)
    (hu : ∃ r ∈ d.users, r.id = userId) : (syncTenants teams userId ts d).2 = true := by
  induction ts generalizing d with
  | nil => rfl
  | cons c ts ih =>
      have hrest := fun c' hc' => hfit c' (List.mem_cons_of_mem c hc')
      rw [syncTenants]
      split
      · exact ih hrest hu
      next tenant hget =>
        split
        next hadd =>
          have hfk : (KeyedTable.get UserRow.id d.users userId).isSome ∧
              (KeyedTable.get TenantRow.id d.tenants tenant.id).isSome :=
            ⟨get_isSome_iff.2 hu, get_isSome_iff.2 ⟨tenant, mem_of_get hget, rfl⟩⟩
          rw [Accounts.addUser, if_pos hfk, Option.map_eq_none_iff] at hadd
          have := hfit c List.mem_cons_self
          rw [hadd] at this
          cases this
        next d₁ hadd =>
          apply ih hrest
          show ∃ r ∈ d₁.users, r.id = userId
          rw [users_addUser hadd]
          exact hu

theorem ensureMasterTenant_access (h : ensureMasterTenant d role userId = some d')
    (hacc : d.userHasAccess u t = true) : d'.userHasAccess u t = true := by
  cases role with
  | admin => exact access_addUser_mono h hacc
  | user => exact Option.some.inj h ▸ hacc

/-- After the account is resolved, a sign-in only adds memberships. -/
theorem provision_after_resolve : (provisionObligateUser d a).1.users = (resolveUser d a).1.users ∧
    ((resolveUser d a).1.userHasAccess u t = true → (provisionObligateUser d a).1.userHasAccess u t = true) := by
  unfold provisionObligateUser
  split
  next d₁ hres => exact ⟨by rw [hres], by rw [hres]; exact id⟩
  next d₁ userId hres =>
    have husers := @syncTenants_users d₁ userId a.tenants a.teams
    have hmono := @syncTenants_access_mono d₁ userId u t a.tenants a.teams
    rw [hres]
    split
    next d₂ hsync =>
      rw [hsync] at husers hmono
      exact ⟨husers, hmono⟩
    next d₂ hsync =>
      rw [hsync] at husers hmono
      split
      · exact ⟨husers, hmono⟩
      next d₃ hmaster =>
        have husers₃ : d₃.users = d₁.users := (ensureMasterTenant_rights hmaster).1.users.trans husers
        have hmono₃ := fun h => ensureMasterTenant_access (u := u) (t := t) hmaster (hmono h)
        split_ifs
        · exact ⟨husers₃, hmono₃⟩
        · exact ⟨husers₃, hmono₃⟩

theorem resolveUser_access (h : d.userHasAccess u t = true) : (resolveUser d a).1.userHasAccess u t = true := by
  have hrows : (resolveUser d a).1.userTenants = d.userTenants := by
    unfold resolveUser
    split
    · unfold syncProfile
      split_ifs <;> rfl
    · unfold createUser dropDeadLink
      split_ifs <;> rfl
  rw [Accounts.userHasAccess, hrows]
  exact h

/-- Only a demotion takes the platform role away. -/
theorem resolveUser_admin (hadmin : isPlatformAdmin d u = true) (hno : ¬ Demotes d a u) :
    isPlatformAdmin (resolveUser d a).1 u = true := by
  unfold resolveUser
  cases hacc : accountOf d a with
  | some userId =>
      simp only [syncProfile]
      by_cases htaken : emailTaken d (some userId) a.email = true
      · simp only [htaken, if_true]
        exact hadmin
      · simp only [htaken, Bool.false_eq_true, if_false]
        by_cases hu : u = userId
        · subst hu
          have hrole : a.role = "admin" := by
            by_contra hne
            exact hno ⟨hacc, hadmin, hne, Bool.eq_false_iff.2 htaken⟩
          rw [@isPlatformAdmin_updateUser d u u (withProfile a) fun _ => rfl]
          obtain ⟨r, hr, -⟩ := (Option.any_eq_true _ _).1 hadmin
          simp [hr, key_of_get hr, withProfile, platformRole, hrole]
        · rw [@isPlatformAdmin_updateUser_ne d userId u (withProfile a) (fun _ => rfl) hu]
          exact hadmin
  | none =>
      have husers : (dropDeadLink d a).users = d.users := by rw [dropDeadLink_rest]
      simp only [createUser]
      split_ifs
      · refine (isPlatformAdmin_congr ?_).trans hadmin
        exact husers
      · exact isPlatformAdmin_append (d := d) (newUser (dropDeadLink d a) a) hadmin (by rw [husers])

/-- The account of a sign-in has the asserted platform role. -/
theorem resolveUser_role (hwf : d.WellFormed) (h : resolveUser d a = (d', some userId)) :
    isPlatformAdmin d' userId = decide (a.role = "admin") := by
  rcases resolveUser_cases h with ⟨hacc, rfl⟩ | ⟨-, rfl, links, rfl⟩
  · obtain ⟨r, hr⟩ := Option.isSome_iff_exists.1 (get_isSome_iff.2 (accountOf_mem hacc))
    rw [@isPlatformAdmin_updateUser d userId userId (withProfile a) fun _ => rfl]
    by_cases hrole : a.role = "admin" <;> simp [hr, key_of_get hr, withProfile, platformRole, hrole]
  · have hfresh : KeyedTable.get UserRow.id d.users d.nextUserId = none :=
      get_eq_none_iff.2 fun r hr => (hwf.userIds r hr).ne
    have hget : KeyedTable.get UserRow.id (d.users ++ [newUser d a]) d.nextUserId = some (newUser d a) := by
      rw [get_append_fresh hfresh]
      exact if_pos rfl
    rw [isPlatformAdmin, hget]
    by_cases hrole : a.role = "admin" <;> simp [newUser, platformRole, hrole]

theorem names_access {d₁ d₂ : Accounts} (hwf : d.WellFormed) (hres : resolveUser d a = (d₁, some userId))
    (hsync : syncTenants a.teams userId a.tenants d₁ = (d₂, true)) (hnames : a.Names d t) :
    d₂.userHasAccess userId t = true := by
  obtain ⟨c, hc, row, hrow, hslug, rfl⟩ := hnames
  have hwf₁ : d₁.WellFormed := by
    have := @wellFormed_resolveUser d a hwf
    rwa [hres] at this
  apply syncTenants_access hsync hc _ hslug hwf₁
  rw [(resolveUser_eq hres).2.1]
  exact hrow

/-- A demoted account is a member of what its assertion names, also when the sign-in is refused later on. -/
theorem demoted_access (hwf : d.WellFormed) (hdem : Demotes d a userId) (hnames : a.Names d t)
    (hfit : ∀ c ∈ a.tenants, (varchar 64 (roleSlug c)).isSome) :
    (provisionObligateUser d a).1.userHasAccess userId t = true := by
  obtain ⟨hacc, -, hrole, htaken⟩ := hdem
  have hres : resolveUser d a = (d.updateUser userId (withProfile a), some userId) := by
    simp [resolveUser, hacc, syncProfile, htaken]
  have hmem : ∃ r ∈ (d.updateUser userId (withProfile a)).users, r.id = userId := by
    obtain ⟨r, hr, hid⟩ := accountOf_mem hacc
    exact ⟨_, mem_modify.2 ⟨r, hr, rfl⟩, (key_ite (f := withProfile a) (fun _ => rfl) r).trans hid⟩
  obtain ⟨d₂, hsync⟩ : ∃ d₂, syncTenants a.teams userId a.tenants (d.updateUser userId (withProfile a)) = (d₂, true) :=
    ⟨_, Prod.ext rfl (syncTenants_finishes hfit hmem)⟩
  have hmaster : ensureMasterTenant d₂ (platformRole a.role) userId = some d₂ := by
    simp [platformRole, hrole, ensureMasterTenant]
  have hd₂ : (provisionObligateUser d a).1 = d₂ := by
    simp only [provisionObligateUser, hres, hsync, hmaster]
    split_ifs <;> rfl
  rw [hd₂]
  exact names_access hwf hres hsync hnames

/-- The account of a finished sign-in has a tenant if the sign-in found one. -/
theorem provision_hasSomeTenant (hwf : d.WellFormed) (hfinds : FindsTenant d a)
    (h : provisionObligateUser d a = (d', some userId)) :
    HasSomeTenant d' userId ∧ (a.role = "admin" → isPlatformAdmin d' userId = true) := by
  obtain ⟨d₁, d₂, hres, hsync, hmaster⟩ := provisionObligateUser_eq h
  have husers : d'.users = d₁.users := by
    have := (@provision_after_resolve d a 0 0).1
    rwa [h, hres] at this
  have hadmin : a.role = "admin" → isPlatformAdmin d' userId = true := by
    intro hrole
    rw [isPlatformAdmin_congr husers, resolveUser_role hwf hres, hrole]
    rfl
  have hrow : ∀ t, d'.userHasAccess userId t = true → HasSomeTenant d' userId := by
    intro t ht
    obtain ⟨m, hm, hu, -⟩ := Accounts.userHasAccess_iff.1 ht
    exact .inr ⟨m, hm, hu⟩
  refine ⟨?_, hadmin⟩
  obtain hrole | ⟨t, hnames⟩ | ⟨u, hacc, m, hm, hu⟩ := hfinds
  · exact .inl (hadmin hrole)
  · exact hrow t (ensureMasterTenant_access hmaster (names_access hwf hres hsync hnames))
  · have huser : u = userId := by
      obtain hold | ⟨hnone, -⟩ := (resolveUser_eq hres).1
      · exact Option.some.inj (hacc.symm.trans hold)
      · rw [hacc] at hnone
        cases hnone
    have hbefore : d.userHasAccess userId m.tenantId = true :=
      Accounts.userHasAccess_iff.2 ⟨m, hm, hu.trans huser, rfl⟩
    have hafter := (@provision_after_resolve d a userId m.tenantId).2 (resolveUser_access hbefore)
    rw [h] at hafter
    exact hrow _ hafter

end SignIn

/-! ## Users stay -/

/-- No user is deleted, and a new one has a number of its own. -/
structure KeepsUsers (d d' : Accounts) : Prop where
  next : d.nextUserId ≤ d'.nextUserId
  has : ∀ u, d.Has u → d'.Has u
  new : ∀ u, d'.Has u → d.Has u ∨ d.nextUserId ≤ u

section Users
variable {d d' d'' : Accounts} {userId tenantId : ℤ} {role : String}

theorem KeepsUsers.of_eq (hu : d'.users = d.users) (hn : d'.nextUserId = d.nextUserId) : KeepsUsers d d' where
  next := hn.ge
  has := by
    unfold Accounts.Has
    rw [hu]
    exact fun _ => id
  new := by
    unfold Accounts.Has
    rw [hu]
    exact fun _ => .inl

theorem KeepsUsers.trans (h : KeepsUsers d d') (h' : KeepsUsers d' d'') : KeepsUsers d d'' where
  next := h.next.trans h'.next
  has := fun u hu => h'.has u (h.has u hu)
  new := fun u hu => (h'.new u hu).elim (h.new u) fun hle => .inr (h.next.trans hle)

theorem nextUserId_addUser (h : d.addUser tenantId userId role = some d') : d'.nextUserId = d.nextUserId := by
  obtain ⟨-, -, _, -, rfl⟩ := Accounts.addUser_eq_some h
  rfl

theorem KeepsUsers.addUser (h : d.addUser tenantId userId role = some d') : KeepsUsers d d' :=
  .of_eq (users_addUser h) (nextUserId_addUser h)

theorem KeepsUsers.updateUser {f : UserRow → UserRow} (hf : ∀ r, (f r).id = r.id) :
    KeepsUsers d (d.updateUser userId f) where
  next := le_rfl
  has := by
    rintro u ⟨r, hr, rfl⟩
    exact ⟨_, mem_modify.2 ⟨r, hr, rfl⟩, key_ite hf r⟩
  new := by
    rintro u ⟨r, hr, rfl⟩
    obtain ⟨r₀, hr₀, rfl⟩ := mem_modify.1 hr
    exact .inl ⟨r₀, hr₀, (key_ite hf r₀).symm⟩

theorem KeepsUsers.insertUser {row : UserRow} (hrow : row.id = d.nextUserId)
    (hu : d'.users = d.users ++ [row]) (hn : d'.nextUserId = d.nextUserId + 1) : KeepsUsers d d' where
  next := hn ▸ (Int.lt_succ _).le
  has := by
    rintro u ⟨r, hr, rfl⟩
    exact ⟨r, hu ▸ List.mem_append_left _ hr, rfl⟩
  new := by
    rintro u ⟨r, hr, rfl⟩
    rw [hu] at hr
    obtain hr | hr := List.mem_append.1 hr
    · exact .inl ⟨r, hr, rfl⟩
    · exact .inr (by rw [List.mem_singleton.1 hr, hrow])

theorem nextUserId_insertAssignments {as : List TenantAssignment}
    (h : insertAssignments userId as d = some d') : d'.nextUserId = d.nextUserId := by
  induction as generalizing d with
  | nil => rw [Option.some.inj h]
  | cons a as ih =>
      rw [insertAssignments] at h
      split_ifs at h
      all_goals
        obtain ⟨d₁, hadd, hrest⟩ := Option.bind_eq_some_iff.1 h
        exact (ih hrest).trans (nextUserId_addUser hadd)

theorem KeepsUsers.setTenants {as : List TenantAssignment} (h : setUserTenantAssignments d userId as = some d') :
    KeepsUsers d d' :=
  .of_eq (setUserTenantAssignments_spec h).1 <| nextUserId_insertAssignments
    (d := { d with userTenants := d.userTenants.filter fun m => m.userId ≠ userId }) h

theorem KeepsUsers.ensureMaster {platform : PlatformRole} (h : ensureMasterTenant d platform userId = some d') :
    KeepsUsers d d' := by
  cases platform with
  | admin => exact .addUser h
  | user => exact Option.some.inj h ▸ .of_eq rfl rfl

theorem KeepsUsers.syncTenants {teams : List String} {ts : List TenantClaim} :
    KeepsUsers d (syncTenants teams userId ts d).1 := by
  induction ts generalizing d with
  | nil => exact .of_eq rfl rfl
  | cons c ts ih =>
      rw [Users.syncTenants]
      split
      · exact ih
      · split
        · exact .of_eq rfl rfl
        next d₁ hadd =>
          refine ((KeepsUsers.addUser hadd).trans ?_).trans ih
          exact .of_eq rfl rfl

theorem KeepsUsers.resolveUser {a : Assertion} : KeepsUsers d (resolveUser d a).1 := by
  unfold Users.resolveUser
  split
  · unfold syncProfile
    split_ifs
    · exact .of_eq rfl rfl
    · exact .updateUser fun _ => rfl
  · rw [dropDeadLink_rest]
    unfold createUser
    split_ifs
    · exact ⟨(Int.lt_succ _).le, fun _ => id, fun _ => .inl⟩
    · exact .insertUser (show (newUser d a).id = d.nextUserId from rfl) rfl rfl

theorem KeepsUsers.provision {a : Assertion} : KeepsUsers d (provisionObligateUser d a).1 := by
  have hres := @KeepsUsers.resolveUser d a
  unfold provisionObligateUser
  split
  next d₁ heq =>
    rw [heq] at hres
    exact hres
  next d₁ u heq =>
    rw [heq] at hres
    have hsync := hres.trans (@KeepsUsers.syncTenants d₁ u a.teams a.tenants)
    split
    next d₂ heq₂ =>
      rw [heq₂] at hsync
      exact hsync
    next d₂ heq₂ =>
      rw [heq₂] at hsync
      split
      · exact hsync
      next d₃ hmaster =>
        have hall := hsync.trans (.ensureMaster hmaster)
        split_ifs <;> exact hall

theorem has_of_hasSomeTenant (hwf : d.WellFormed) (h : HasSomeTenant d userId) : d.Has userId := by
  obtain hadmin | ⟨m, hm, rfl⟩ := h
  · obtain ⟨r, hr, -⟩ := (Option.any_eq_true _ _).1 hadmin
    exact ⟨r, mem_of_get hr, key_of_get hr⟩
  · exact hwf.memberUsers m hm

theorem Accounts.Has.lt (hwf : d.WellFormed) (h : d.Has userId) : userId < d.nextUserId := by
  obtain ⟨r, hr, rfl⟩ := h
  exact hwf.userIds r hr

/-- The state of a user without a row lets no request on. -/
theorem get_eq_none_of_not_has (h : ¬ d.Has userId) : get UserRow.id d.users userId = none :=
  get_eq_none_iff.2 fun r hr hid => h ⟨r, hr, hid⟩

theorem has_deleteUser {u : ℤ} : (d.deleteUser userId).Has u ↔ d.Has u ∧ u ≠ userId := by
  constructor
  · rintro ⟨r, hr, rfl⟩
    exact ⟨⟨r, (mem_remove.1 hr).1, rfl⟩, (mem_remove.1 hr).2⟩
  · rintro ⟨⟨r, hr, rfl⟩, hne⟩
    exact ⟨r, mem_remove.2 ⟨hr, hne⟩, rfl⟩

end Users

/-! ## What entitles to a tenant -/

section Holds
variable {d' : Accounts} {userId tenantId : ℤ}

theorem holds_first {d : Accounts} (hwf : d.WellFormed) (h : HasSomeTenant d userId) :
    Holds d userId (firstTenantOrMaster d userId) := by
  obtain hadmin | ⟨m, hm, hu⟩ := h
  · exact .inl hadmin
  · right
    cases hfirst : d.getFirstTenantForUser userId with
    | none => exact absurd hu ((Accounts.first_eq_none_iff hwf).1 hfirst m hm)
    | some t =>
        rw [firstTenantOrMaster, hfirst]
        exact Accounts.userHasAccess_of_first hfirst

theorem holds_resolveTenant {d : Accounts} {a : Assertion} {requestedSlug : Option String} (hwf : d.WellFormed)
    (h : HasSomeTenant d userId) (hrole : a.role = "admin" → isPlatformAdmin d userId = true) :
    Holds d userId (resolveTenant d a userId requestedSlug) := by
  unfold resolveTenant
  cases hreq : (requestedSlug.bind fun slug => (get TenantRow.slug d.tenants slug).filter fun t =>
      decide (a.role = "admin") || d.userHasAccess userId t.id) with
  | none => exact holds_first hwf h
  | some t =>
      obtain ⟨slug, -, hfilter⟩ := Option.bind_eq_some_iff.1 hreq
      have hok := (Option.filter_eq_some_iff.1 hfilter).2
      rw [Bool.or_eq_true, decide_eq_true_eq] at hok
      exact hok.imp hrole id

/-- The platform role and the activity of one user change. -/
theorem holds_updateUser {d : Accounts} {f : UserRow → UserRow} (hf : ∀ r, (f r).id = r.id) {u t : ℤ}
    (hother : u ≠ userId ∨ ∀ r, r.role = .admin → (f r).role = .admin) (h : Holds d u t) :
    Holds (d.updateUser userId f) u t := by
  refine h.imp (fun hadm => ?_) id
  obtain hu | hrole := hother
  · rw [isPlatformAdmin_updateUser_ne hf hu]
    exact hadm
  · obtain ⟨r, hr, hadmin⟩ := (Option.any_eq_true _ _).1 hadm
    rw [isPlatformAdmin_updateUser hf, hr, Option.any_some, decide_eq_true_eq]
    split_ifs
    · exact hrole r (of_decide_eq_true hadmin)
    · exact of_decide_eq_true hadmin

theorem holds_addUser {d : Accounts} {role : String} {u t : ℤ} (hadd : d.addUser tenantId userId role = some d')
    (h : Holds d u t) : Holds d' u t :=
  h.imp (isPlatformAdmin_congr (users_addUser hadd)).trans (access_addUser_mono hadd)

theorem holds_ensureMaster {d : Accounts} {role : PlatformRole} {u t : ℤ}
    (hm : ensureMasterTenant d role userId = some d') (h : Holds d u t) : Holds d' u t :=
  h.imp (isPlatformAdmin_congr (ensureMasterTenant_rights hm).1.users).trans (ensureMasterTenant_access hm)

end Holds

end Obliance.Users
