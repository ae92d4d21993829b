import Obliance.Users.Tables
import Obliance.Js.Number

/-!
# Who may manage whom (`services/userScope.service.ts`, `services/permission.service.ts`)

A manager that is not a platform administrator acts on accounts it dominates in every tenant of theirs.

* `userHasTenantCapability` : what a role gives, as every request checks it;
* `capsOfRole`, `membershipRole`, `refusalFor` : what the manager's scope reads of it;
* `assertManageableTarget`, `resolveTenantAssignments` : the two questions answered by that reading;
* `Overstated`, `Understated` : where the reading and the check differ;
* `dominates_iff`, `assignmentsWithin_iff` : the answers are right exactly where that does no harm.
-/

namespace Obliance.Users
open KeyedTable

/-- An entry of `capabilities`: a text, or another JSON value with what `String` makes of it. -/
inductive CapEntry where
  | text (s : String)
  | other (shown : String)
  deriving DecidableEq, Repr

def CapEntry.shown : CapEntry → String
  | text s => s
  | other s => s

/-- `capabilities` is `none` when the column holds no array. -/
structure PermissionSet where
  slug : String
  capabilities : Option (List CapEntry)
  deriving DecidableEq, Repr

/-- Users, memberships and permission sets, with the keys of the tables. -/
structure RightsDb where
  accounts : Accounts
  permissionSets : List PermissionSet
  memberKeys : Keyed UserTenant.key accounts.userTenants
  slugKeys : Keyed PermissionSet.slug permissionSets

/-! ## The check of a request -/

/-- What the stored role of a membership allows. -/
def roleGrants (s : RightsDb) (role capability : String) : Bool :=
  if role = "admin" then true
  else
    match get PermissionSet.slug s.permissionSets role with
    | none => false
    | some set => (set.capabilities.getD []).contains (.text capability)

def userHasTenantCapability (s : RightsDb) (userId tenantId : ℤ) (capability : String) : Bool :=
  (get UserTenant.key s.accounts.userTenants (userId, tenantId)).any fun m => roleGrants s m.role capability

/-! ## The scope of a manager -/

structure ScopeActor where
  userId : ℤ
  isPlatformAdmin : Bool
  tenantId : ℤ
  deriving DecidableEq, Repr

/-- `String(role ?? '').trim()`, with the blank role and the old name of the set `user`. -/
def normaliseTenantRole (role : String) : String :=
  let r := String.ofList (Numerals.strip Js.isJsSpace role.toList)
  if r = "" ∨ r = "member" then "user" else r

inductive Caps where
  | all
  | set (caps : List String)
  deriving DecidableEq, Repr

def Caps.has : Caps → String → Bool
  | all, _ => true
  | set caps, capability => caps.contains capability

def capsOfRole (s : RightsDb) (role : String) : Option Caps :=
  if role = "admin" then some .all
  else (get PermissionSet.slug s.permissionSets role).map fun set =>
    .set ((set.capabilities.getD []).map CapEntry.shown)

def membershipRole (s : RightsDb) (userId tenantId : ℤ) : Option String :=
  (get UserTenant.key s.accounts.userTenants (userId, tenantId)).map fun m => normaliseTenantRole m.role

/-- The text of a refusal, `none` when the actor may manage the role. -/
def refusalFor (s : RightsDb) (actor : ScopeActor) (tenantId : ℤ) (targetRole : String) : Option String :=
  let callerRole := membershipRole s actor.userId tenantId
  if callerRole = some "admin" then none
  else if targetRole = "admin" then
    some "Only an administrator of each of this user's tenants can manage a tenant administrator"
  else
    match callerRole.bind (capsOfRole s) with
    | some .all => none
    | none => some "This user also belongs to a tenant where you cannot manage users"
    | some (.set callerCaps) =>
        if !callerCaps.contains "users.manage" then
          some "This user also belongs to a tenant where you cannot manage users"
        else
          match capsOfRole s targetRole with
          | some .all => some "This user has permissions you do not hold"
          | some (.set targetCaps) =>
              if targetCaps.all callerCaps.contains then none else some "This user has permissions you do not hold"
          | none => none

abbrev AppError := ℕ × String

/-- A number that is an integer above 0. -/
def positiveId (n : Option ℚ) : Option ℤ := n.bind fun q => if q.den = 1 ∧ 0 < q.num then some q.num else none

/-- The refusal of the first row that has one. -/
def firstRefusal (s : RightsDb) (actor : ScopeActor) (rows : List UserTenant) : Option String :=
  rows.findSome? fun r => refusalFor s actor r.tenantId (normaliseTenantRole r.role)

def membershipsOf (s : RightsDb) (userId : ℤ) : List UserTenant :=
  s.accounts.userTenants.filter fun m => m.userId = userId

/-- `targetId` is `none` for a number that is not finite. -/
def assertManageableTarget (s : RightsDb) (actor : ScopeActor) (targetId : Option ℚ) : Except AppError UserRow :=
  match positiveId targetId with
  | none => .error (400, "Invalid user id")
  | some id =>
      match get UserRow.id s.accounts.users id with
      | none => .error (404, "User not found")
      | some target =>
          if actor.isPlatformAdmin then .ok target
          else if target.role = .admin then
            .error (403, "Only a platform administrator can manage an administrator account")
          else if !(membershipsOf s id).any (fun r => decide (r.tenantId = actor.tenantId)) then
            .error (404, "User not found")
          else
            match firstRefusal s actor (membershipsOf s id) with
            | some refusal => .error (403, refusal)
            | none => .ok target

/-- An entry of the body: `Number(a?.tenantId)`, `none` when it is not finite, and `String(a?.role ?? '')`. -/
structure WantedEntry where
  tenantId : Option ℚ
  role : String
  deriving DecidableEq, Repr

/-- The loop over the body, with the tenants seen so far. -/
def readWanted : List ℤ → List WantedEntry → Except AppError (List TenantAssignment)
  | _, [] => .ok []
  | seen, a :: as =>
      match positiveId a.tenantId with
      | none => .error (400, "Invalid tenant id")
      | some tenantId =>
          if seen.contains tenantId then .error (400, "Duplicate tenant in assignments")
          else (readWanted (tenantId :: seen) as).map fun wanted =>
            ⟨tenantId, normaliseTenantRole a.role⟩ :: wanted

/-- The rows of the other tenants. -/
def keptAssignments (s : RightsDb) (actor : ScopeActor) (id : ℤ) : List TenantAssignment :=
  ((membershipsOf s id).map fun r => ⟨r.tenantId, normaliseTenantRole r.role⟩).filter
    fun r => r.tenantId ≠ actor.tenantId

/-- A wanted row of another tenant repeats a kept one. -/
def repeatsKept (actor : ScopeActor) (kept : List TenantAssignment) (w : TenantAssignment) : Bool :=
  decide (w.tenantId = actor.tenantId) ||
    (kept.find? fun k => decide (k.tenantId = w.tenantId)).any fun same => decide (same.role = w.role)

/-- May the actor give the role in the current tenant? -/
def grantRefusal (s : RightsDb) (actor : ScopeActor) (role : String) : Option AppError :=
  if role = "admin" then
    if membershipRole s actor.userId actor.tenantId = some "admin" then none
    else some (403, "Only a tenant administrator can grant the tenant administrator role")
  else if (capsOfRole s role).isNone then some (400, "Unknown role: " ++ role)
  else (refusalFor s actor actor.tenantId role).map fun _ =>
    (403, "You can only grant a role whose permissions you hold")

/-- The part for a manager that is not a platform administrator. -/
def resolveOwnTenant (s : RightsDb) (actor : ScopeActor) (id : ℤ) (wanted : List TenantAssignment) :
    Except AppError (List TenantAssignment) :=
  let kept := keptAssignments s actor id
  if !wanted.all (repeatsKept actor kept) then .error (403, "You can only change access to the current tenant")
  else
    match wanted.find? fun w => decide (w.tenantId = actor.tenantId) with
    | none => .ok kept
    | some next =>
        match grantRefusal s actor next.role with
        | some e => .error e
        | none => .ok (kept ++ [next])

/-- `assignments` is `none` when the body holds no array. -/
def resolveTenantAssignments (s : RightsDb) (actor : ScopeActor) (targetId : Option ℚ)
    (assignments : Option (List WantedEntry)) : Except AppError (List TenantAssignment) :=
  match assignments with
  | none => .error (400, "assignments must be an array")
  | some body =>
      match readWanted [] body with
      | .error e => .error e
      | .ok wanted =>
          if actor.isPlatformAdmin then .ok wanted
          else if targetId = some (actor.userId : ℚ) then .error (403, "You cannot change your own tenant access")
          else
            match assertManageableTarget s actor targetId with
            | .error e => .error e
            | .ok target => resolveOwnTenant s actor target.id wanted

/-! ## What the answers promise -/

/-- The target is a plain user whose capabilities the actor holds, in every tenant of the target. -/
structure Dominates (s : RightsDb) (actor : ScopeActor) (target : UserRow) : Prop where
  plain : target.role ≠ .admin
  capabilities : ∀ m ∈ s.accounts.userTenants, m.userId = target.id → ∀ capability,
    userHasTenantCapability s target.id m.tenantId capability = true →
      userHasTenantCapability s actor.userId m.tenantId capability = true

/-- The other tenants keep their rows, and in the current one a role is granted whose capabilities the actor
holds. -/
structure AssignmentsWithin (s : RightsDb) (actor : ScopeActor) (id : ℤ) (as : List TenantAssignment) : Prop where
  others : ∀ tenantId, tenantId ≠ actor.tenantId → ∀ role,
    (⟨tenantId, role⟩ ∈ as ↔ ⟨id, tenantId, role⟩ ∈ s.accounts.userTenants)
  granted : ∀ a ∈ as, a.tenantId = actor.tenantId → ∀ capability, roleGrants s a.role capability = true →
    userHasTenantCapability s actor.userId actor.tenantId capability = true

/-- What the scope takes a member to hold. -/
def scopeHas (s : RightsDb) (userId tenantId : ℤ) (capability : String) : Bool :=
  ((membershipRole s userId tenantId).bind (capsOfRole s)).any fun caps => caps.has capability

/-- The scope counts a capability that no request of the user passes with. -/
def Overstated (s : RightsDb) (userId tenantId : ℤ) (capability : String) : Prop :=
  scopeHas s userId tenantId capability = true ∧ userHasTenantCapability s userId tenantId capability = false

/-- The scope misses a capability the user has. -/
def Understated (s : RightsDb) (userId tenantId : ℤ) (capability : String) : Prop :=
  scopeHas s userId tenantId capability = false ∧ userHasTenantCapability s userId tenantId capability = true

/-! ## The scope against itself -/

section Scope
variable {s : RightsDb} {actor : ScopeActor} {tenantId id : ℤ} {role capability : String} {m : UserTenant}

theorem membershipRole_of_mem (hm : m ∈ s.accounts.userTenants) :
    membershipRole s m.userId m.tenantId = some (normaliseTenantRole m.role) := by
  have hget : get UserTenant.key s.accounts.userTenants (m.userId, m.tenantId) = some m :=
    (get_eq_some_iff s.memberKeys).2 ⟨hm, rfl⟩
  rw [membershipRole, hget]
  rfl

theorem scopeHas_of_admin (h : membershipRole s actor.userId tenantId = some "admin") :
    scopeHas s actor.userId tenantId capability = true := by
  simp [scopeHas, h, capsOfRole, Caps.has]

/-- A role that is not refused gives nothing the scope does not count for the actor. -/
theorem scopeHas_of_no_refusal (h : refusalFor s actor tenantId role = none) {caps : Caps}
    (hcaps : capsOfRole s role = some caps) (hhas : caps.has capability = true) :
    scopeHas s actor.userId tenantId capability = true := by
  unfold refusalFor at h
  simp only at h
  split_ifs at h with hadmin hrole
  · exact scopeHas_of_admin hadmin
  · split at h
    next hcaller => simp [scopeHas, hcaller, Caps.has]
    · cases h
    next callerCaps hcaller =>
      split_ifs at h with hmanage
      rw [hcaps] at h
      cases caps with
      | all => cases h
      | set targetCaps =>
          simp only at h
          split_ifs at h with hall
          rw [List.all_eq_true] at hall
          simp only [Caps.has] at hhas
          simp only [scopeHas, hcaller, Option.any_some, Caps.has]
          exact hall capability (by simpa using hhas)

/-- The scope reads every text of a set as the check does. -/
theorem capsOfRole_of_grants (h : roleGrants s role capability = true) :
    ∃ caps, capsOfRole s role = some caps ∧ caps.has capability = true := by
  unfold roleGrants at h
  unfold capsOfRole
  split_ifs at h ⊢ with hadmin
  · exact ⟨.all, rfl, rfl⟩
  · split at h
    · cases h
    next set hget =>
      refine ⟨_, by rw [hget]; rfl, ?_⟩
      simp only [Caps.has, List.contains_iff_mem, List.mem_map] at h ⊢
      exact ⟨_, h, rfl⟩

/-- What holds when the target may be managed. -/
theorem assertManageableTarget_ok {targetId : Option ℚ} {target : UserRow} (hactor : actor.isPlatformAdmin = false)
    (h : assertManageableTarget s actor targetId = .ok target) :
    target.role ≠ .admin ∧ ∀ m ∈ s.accounts.userTenants, m.userId = target.id →
      refusalFor s actor m.tenantId (normaliseTenantRole m.role) = none := by
  unfold assertManageableTarget at h
  split at h
  · cases h
  next id hid =>
    split at h
    · cases h
    next row hget =>
      rw [if_neg (by simp [hactor])] at h
      split_ifs at h with hrole hmember
      split at h
      · cases h
      next hnone =>
        cases h
        refine ⟨hrole, fun m hm hu => ?_⟩
        have hmem : m ∈ membershipsOf s id :=
          List.mem_filter.2 ⟨hm, decide_eq_true (hu.trans (key_of_get hget))⟩
        exact List.findSome?_eq_none_iff.1 hnone m hmem

/-- A managed target is dominated iff its real capabilities meet no capability the scope counts for the actor
without reason, and none it misses in the target's role and the actor lacks. -/
theorem dominates_iff {targetId : Option ℚ} {target : UserRow} (hactor : actor.isPlatformAdmin = false)
    (h : assertManageableTarget s actor targetId = .ok target) :
    Dominates s actor target ↔
      ∀ m ∈ s.accounts.userTenants, m.userId = target.id → ∀ capability,
        userHasTenantCapability s target.id m.tenantId capability = true →
          ¬ Overstated s actor.userId m.tenantId capability ∧
            (Understated s target.id m.tenantId capability →
              userHasTenantCapability s actor.userId m.tenantId capability = true) := by
  obtain ⟨hplain, hallowed⟩ := assertManageableTarget_ok hactor h
  constructor
  · intro hdom m hm hu capability hcap
    have hactorHas := hdom.capabilities m hm hu capability hcap
    exact ⟨fun hover => absurd (hactorHas.symm.trans hover.2) (by decide), fun _ => hactorHas⟩
  · intro hcond
    refine ⟨hplain, fun m hm hu capability hcap => ?_⟩
    obtain ⟨hover, hunder⟩ := hcond m hm hu capability hcap
    cases hscope : scopeHas s target.id m.tenantId capability with
    | false => exact hunder ⟨hscope, hcap⟩
    | true =>
        have hread := membershipRole_of_mem hm
        rw [hu] at hread
        rw [scopeHas, hread, Option.bind_some] at hscope
        obtain ⟨caps, hcaps, hhas⟩ := (Option.any_eq_true _ _).1 hscope
        have hactorScope := scopeHas_of_no_refusal (hallowed m hm hu) hcaps hhas
        by_contra hlacks
        exact hover ⟨hactorScope, Bool.eq_false_iff.2 hlacks⟩

end Scope

/-! ## The assignments -/

section Assignments
variable {s : RightsDb} {actor : ScopeActor} {id : ℤ} {wanted as : List TenantAssignment}

theorem mem_membershipsOf {m : UserTenant} :
    m ∈ membershipsOf s id ↔ m ∈ s.accounts.userTenants ∧ m.userId = id := by
  simp [membershipsOf]

theorem mem_keptAssignments {a : TenantAssignment} : a ∈ keptAssignments s actor id ↔
    a.tenantId ≠ actor.tenantId ∧ ∃ m ∈ s.accounts.userTenants, m.userId = id ∧ m.tenantId = a.tenantId ∧
      normaliseTenantRole m.role = a.role := by
  obtain ⟨tenantId, role⟩ := a
  simp only [keptAssignments, List.mem_filter, List.mem_map, mem_membershipsOf, TenantAssignment.mk.injEq,
    decide_eq_true_eq]
  constructor
  · rintro ⟨⟨m, ⟨hm, hu⟩, ht, hr⟩, hne⟩
    exact ⟨hne, m, hm, hu, ht, hr⟩
  · rintro ⟨hne, m, hm, hu, ht, hr⟩
    exact ⟨⟨m, ⟨hm, hu⟩, ht, hr⟩, hne⟩

/-- The kept rows, and the wanted row of the current tenant when it is granted. -/
theorem resolveOwnTenant_ok (h : resolveOwnTenant s actor id wanted = .ok as) :
    (as = keptAssignments s actor id ∧ ∀ w ∈ wanted, w.tenantId ≠ actor.tenantId) ∨
      ∃ next ∈ wanted, next.tenantId = actor.tenantId ∧ grantRefusal s actor next.role = none ∧
        as = keptAssignments s actor id ++ [next] := by
  unfold resolveOwnTenant at h
  simp only at h
  split_ifs at h
  split at h
  next hnone =>
    cases h
    left
    refine ⟨rfl, fun w hw ht => ?_⟩
    exact absurd (decide_eq_true ht) (List.find?_eq_none.1 hnone w hw)
  next next hsome =>
    split at h
    · cases h
    next hgrant =>
      cases h
      right
      have hcurrent := List.find?_some hsome
      exact ⟨next, List.mem_of_find?_eq_some hsome, by simpa using hcurrent, hgrant, rfl⟩

theorem scopeHas_of_grant {role capability : String} (h : grantRefusal s actor role = none)
    (hcap : roleGrants s role capability = true) :
    scopeHas s actor.userId actor.tenantId capability = true := by
  unfold grantRefusal at h
  split_ifs at h with hrole hadmin
  · exact scopeHas_of_admin hadmin
  · obtain ⟨caps, hcaps, hhas⟩ := capsOfRole_of_grants hcap
    exact scopeHas_of_no_refusal (Option.map_eq_none_iff.1 h) hcaps hhas

/-- The wanted rows are the entries of the body, one a tenant. -/
theorem readWanted_ok {seen : List ℤ} {body : List WantedEntry} (h : readWanted seen body = .ok wanted) :
    (∀ w, w ∈ wanted ↔ ∃ b ∈ body, positiveId b.tenantId = some w.tenantId ∧ normaliseTenantRole b.role = w.role) ∧
      (∀ w ∈ wanted, w.tenantId ∉ seen) ∧ (wanted.map TenantAssignment.tenantId).Nodup := by
  induction body generalizing seen wanted with
  | nil =>
      cases h
      simp
  | cons b body ih =>
      rw [readWanted] at h
      split at h
      · cases h
      next tenantId hid =>
        split_ifs at h with hseen
        cases hrest : readWanted (tenantId :: seen) body with
        | error e =>
            rw [hrest] at h
            cases h
        | ok rest =>
            rw [hrest] at h
            cases h
            obtain ⟨hmem, hnew, hnodup⟩ := ih hrest
            have hnot : tenantId ∉ rest.map TenantAssignment.tenantId := by
              intro hin
              obtain ⟨w, hw, rfl⟩ := List.mem_map.1 hin
              exact hnew w hw List.mem_cons_self
            refine ⟨fun w => ?_, ?_, List.nodup_cons.2 ⟨hnot, hnodup⟩⟩
            · simp only [List.mem_cons, hmem, exists_eq_or_imp]
              constructor
              · rintro (rfl | hw)
                · left
                  dsimp only
                  exact ⟨hid, rfl⟩
                · exact .inr hw
              · rintro (⟨ht, hr⟩ | hw)
                · left
                  rw [hid, Option.some.injEq] at ht
                  cases w
                  simp_all
                · exact .inr hw
            · intro w hw
              obtain rfl | hw := List.mem_cons.1 hw
              · simpa using hseen
              · exact fun hin => hnew w hw (List.mem_cons_of_mem _ hin)

/-- What holds when the assignments of a plain manager are resolved. -/
theorem resolveTenantAssignments_ok {targetId : Option ℚ} {body : Option (List WantedEntry)}
    (hactor : actor.isPlatformAdmin = false) (hid : positiveId targetId = some id)
    (h : resolveTenantAssignments s actor targetId body = .ok as) :
    ∃ entries wanted, body = some entries ∧ readWanted [] entries = .ok wanted ∧
      resolveOwnTenant s actor id wanted = .ok as := by
  unfold resolveTenantAssignments at h
  split at h
  · cases h
  next entries =>
    split at h
    · cases h
    next wanted hread =>
      rw [if_neg (by simp [hactor])] at h
      split_ifs at h with hself
      split at h
      · cases h
      next target htarget =>
        refine ⟨entries, wanted, rfl, hread, ?_⟩
        have hrow : target.id = id := by
          unfold assertManageableTarget at htarget
          rw [hid] at htarget
          simp only at htarget
          split at htarget
          · cases htarget
          next row hget =>
            rw [if_neg (by simp [hactor])] at htarget
            split_ifs at htarget
            split at htarget
            · cases htarget
            · cases htarget
              exact key_of_get hget
        rwa [hrow] at h

/-- The body asks for the role in the tenant. -/
def WantsRole (body : Option (List WantedEntry)) (tenantId : ℤ) (role : String) : Prop :=
  ∃ entries, body = some entries ∧
    ∃ b ∈ entries, positiveId b.tenantId = some tenantId ∧ normaliseTenantRole b.role = role

/-- In other tenants the assignments are the rows that are kept. -/
theorem mem_ownTenant_other (h : resolveOwnTenant s actor id wanted = .ok as) {a : TenantAssignment}
    (ha : a.tenantId ≠ actor.tenantId) : a ∈ as ↔ a ∈ keptAssignments s actor id := by
  obtain ⟨rfl, -⟩ | ⟨next, -, hnext, -, rfl⟩ := resolveOwnTenant_ok h
  · rfl
  · rw [List.mem_append, List.mem_singleton]
    constructor
    · rintro (hk | rfl)
      · exact hk
      · exact absurd hnext ha
    · exact .inl

/-- In the tenant of the manager they are the wanted ones, each granted. -/
theorem mem_ownTenant_current (h : resolveOwnTenant s actor id wanted = .ok as)
    (hnodup : (wanted.map TenantAssignment.tenantId).Nodup) {a : TenantAssignment} (ha : a.tenantId = actor.tenantId) :
    (a ∈ as ↔ a ∈ wanted) ∧ (a ∈ as → grantRefusal s actor a.role = none) := by
  have hnotKept : a ∉ keptAssignments s actor id := fun hk => (mem_keptAssignments.1 hk).1 ha
  obtain ⟨rfl, hnone⟩ | ⟨next, hnext, hnextId, hgrant, rfl⟩ := resolveOwnTenant_ok h
  · exact ⟨⟨fun hk => absurd hk hnotKept, fun hw => absurd ha (hnone a hw)⟩, fun hk => absurd hk hnotKept⟩
  · have hsingle : a ∈ keptAssignments s actor id ++ [next] ↔ a = next := by
      rw [List.mem_append, List.mem_singleton]
      exact ⟨fun hk => hk.resolve_left hnotKept, .inr⟩
    rw [hsingle]
    refine ⟨⟨?_, ?_⟩, ?_⟩
    · rintro rfl
      exact hnext
    · exact fun hw => List.inj_on_of_nodup_map hnodup hw hnext (ha.trans hnextId.symm)
    · rintro rfl
      exact hgrant

/-- The other tenants keep their rows iff each of them is stored as the scope reads it; a granted role is held
iff it meets no capability the scope counts for the actor without reason. -/
theorem assignmentsWithin_iff {targetId : Option ℚ} {body : Option (List WantedEntry)}
    (hactor : actor.isPlatformAdmin = false) (hid : positiveId targetId = some id)
    (h : resolveTenantAssignments s actor targetId body = .ok as) :
    AssignmentsWithin s actor id as ↔
      (∀ m ∈ s.accounts.userTenants, m.userId = id → m.tenantId ≠ actor.tenantId →
        normaliseTenantRole m.role = m.role) ∧
      ∀ role, WantsRole body actor.tenantId role → ∀ capability, roleGrants s role capability = true →
        ¬ Overstated s actor.userId actor.tenantId capability := by
  obtain ⟨entries, wanted, rfl, hread, hown⟩ := resolveTenantAssignments_ok hactor hid h
  obtain ⟨hwanted, -, hnodup⟩ := readWanted_ok hread
  have hasks : ∀ role, WantsRole (some entries) actor.tenantId role ↔ ⟨actor.tenantId, role⟩ ∈ wanted := by
    intro role
    rw [hwanted]
    constructor
    · rintro ⟨_, heq, hb⟩
      cases heq
      exact hb
    · exact fun hb => ⟨entries, rfl, hb⟩
  constructor
  · intro hwithin
    constructor
    · intro m hm hu ht
      have hin := (hwithin.others m.tenantId ht m.role).2 (hu ▸ hm)
      obtain ⟨-, m', hm', hu', ht', hr'⟩ := mem_keptAssignments.1 ((mem_ownTenant_other hown ht).1 hin)
      have hsame : m' = m := s.memberKeys.eq_of_key hm' hm (Prod.ext (hu'.trans hu.symm) ht')
      rwa [hsame] at hr'
    · intro role hasked capability hcap hover
      have hin := (mem_ownTenant_current hown hnodup rfl).1.2 ((hasks role).1 hasked)
      have hheld := hwithin.granted _ hin rfl capability hcap
      exact absurd (hheld.symm.trans hover.2) (by decide)
  · rintro ⟨hstored, hgrants⟩
    constructor
    · intro tenantId ht role
      rw [mem_ownTenant_other hown ht, mem_keptAssignments]
      constructor
      · rintro ⟨-, m, hm, rfl, rfl, rfl⟩
        rw [hstored m hm rfl ht]
        exact hm
      · intro hm
        exact ⟨ht, _, hm, rfl, rfl, hstored _ hm rfl ht⟩
    · intro a ha ht capability hcap
      have hscope := scopeHas_of_grant ((mem_ownTenant_current hown hnodup ht).2 ha) hcap
      have hasked : WantsRole (some entries) actor.tenantId a.role := by
        rw [hasks, ← ht]
        exact (mem_ownTenant_current hown hnodup ht).1.1 ha
      by_contra hlacks
      exact hgrants a.role hasked capability hcap ⟨hscope, Bool.eq_false_iff.2 hlacks⟩

end Assignments

/-! ## Both answers -/

/-- A manager that is not a platform administrator: when the two answers of the scope are right. -/
theorem managing_widens_nothing (s : RightsDb) (actor : ScopeActor) (hactor : actor.isPlatformAdmin = false)
    (targetId : Option ℚ) :
    (∀ target, assertManageableTarget s actor targetId = .ok target →
      (Dominates s actor target ↔
        ∀ m ∈ s.accounts.userTenants, m.userId = target.id → ∀ capability,
          userHasTenantCapability s target.id m.tenantId capability = true →
            ¬ Overstated s actor.userId m.tenantId capability ∧
              (Understated s target.id m.tenantId capability →
                userHasTenantCapability s actor.userId m.tenantId capability = true))) ∧
      ∀ id body as, positiveId targetId = some id → resolveTenantAssignments s actor targetId body = .ok as →
        (AssignmentsWithin s actor id as ↔
          (∀ m ∈ s.accounts.userTenants, m.userId = id → m.tenantId ≠ actor.tenantId →
            normaliseTenantRole m.role = m.role) ∧
          ∀ role, WantsRole body actor.tenantId role → ∀ capability, roleGrants s role capability = true →
            ¬ Overstated s actor.userId actor.tenantId capability) :=
  ⟨fun _ h => dominates_iff hactor h, fun _ _ _ hid h => assignmentsWithin_iff hactor hid h⟩

/-- Roles stored as the scope reads them, and permission sets of texts. -/
structure PlainRights (s : RightsDb) : Prop where
  roles : ∀ m ∈ s.accounts.userTenants, normaliseTenantRole m.role = m.role
  capabilities : ∀ set ∈ s.permissionSets, ∀ e ∈ set.capabilities.getD [], e = .text e.shown

/-- There the reading of the scope is the check of a request. -/
theorem PlainRights.scopeHas_eq {s : RightsDb} (h : PlainRights s) (userId tenantId : ℤ) (capability : String) :
    scopeHas s userId tenantId capability = userHasTenantCapability s userId tenantId capability := by
  rw [scopeHas, userHasTenantCapability, membershipRole]
  cases hget : get UserTenant.key s.accounts.userTenants (userId, tenantId) with
  | none => rfl
  | some m =>
      simp only [Option.map_some, Option.bind_some, Option.any_some, h.roles m (mem_of_get hget)]
      rw [capsOfRole, roleGrants]
      split_ifs with hadmin
      · rfl
      · cases hset : get PermissionSet.slug s.permissionSets m.role with
        | none => rfl
        | some set =>
            simp only [Option.map_some, Option.any_some, Caps.has]
            rw [Bool.eq_iff_iff, List.contains_iff_mem, List.contains_iff_mem, List.mem_map]
            constructor
            · rintro ⟨e, he, rfl⟩
              rw [← h.capabilities set (mem_of_get hset) e he]
              exact he
            · exact fun hc => ⟨_, hc, rfl⟩

/-- In such a state the scope never widens a right. -/
theorem PlainRights.dominates {s : RightsDb} (h : PlainRights s) {actor : ScopeActor} {targetId : Option ℚ}
    {target : UserRow} (hactor : actor.isPlatformAdmin = false)
    (hok : assertManageableTarget s actor targetId = .ok target) : Dominates s actor target := by
  rw [dominates_iff hactor hok]
  intro m _ _ capability _
  have hactorEq := h.scopeHas_eq actor.userId m.tenantId capability
  have htargetEq := h.scopeHas_eq target.id m.tenantId capability
  constructor
  · rintro ⟨hscope, hlacks⟩
    rw [hactorEq, hlacks] at hscope
    cases hscope
  · rintro ⟨hmisses, hhas⟩
    rw [htargetEq, hhas] at hmisses
    cases hmisses

theorem PlainRights.assignmentsWithin {s : RightsDb} (h : PlainRights s) {actor : ScopeActor}
    {targetId : Option ℚ} {id : ℤ} {body : Option (List WantedEntry)} {as : List TenantAssignment}
    (hactor : actor.isPlatformAdmin = false) (hid : positiveId targetId = some id)
    (hok : resolveTenantAssignments s actor targetId body = .ok as) : AssignmentsWithin s actor id as := by
  rw [assignmentsWithin_iff hactor hid hok]
  refine ⟨fun m hm _ _ => h.roles m hm, ?_⟩
  rintro role - capability - ⟨hscope, hlacks⟩
  rw [h.scopeHas_eq, hlacks] at hscope
  cases hscope

/-! ## Failing states -/

/-- Ann (10) is an administrator of tenant 1; in tenant 2 her role is `annRole`, and Bob's (20) is `bobRole`. -/
def twoTenantsDb (annRole bobRole : String) : RightsDb where
  accounts :=
    { users := [⟨10, "ann", none, none, .user, true, none, none⟩, ⟨20, "bob", none, none, .user, true, none, none⟩]
      nextUserId := 21
      tenants := [⟨1, "default"⟩, ⟨2, "acme"⟩]
      userTenants := [⟨10, 1, "admin"⟩, ⟨10, 2, annRole⟩, ⟨20, 1, "user"⟩, ⟨20, 2, bobRole⟩]
      userTeams := []
      teamMemberships := []
      ssoForeignUsers := [] }
  permissionSets := [⟨"user", some [.text "users.manage", .text "scripts.execute"]⟩]
  memberKeys := by simp [Keyed, UserTenant.key]
  slugKeys := by decide

def ann : ScopeActor := ⟨10, false, 1⟩

/-- The role `member` gives Ann nothing in tenant 2, and counts as the set `user` there; and Bob's role
`member` becomes `user` when his role in tenant 1 is saved. -/
theorem member_role_widens :
    (∃ target, assertManageableTarget (twoTenantsDb "member" "user") ann (some 20) = .ok target ∧
      ¬ Dominates (twoTenantsDb "member" "user") ann target) ∧
    ∃ as, resolveTenantAssignments (twoTenantsDb "admin" "member") ann (some 20) (some [⟨some 1, "user"⟩]) = .ok as ∧
      ¬ AssignmentsWithin (twoTenantsDb "admin" "member") ann 20 as := by
  constructor
  · refine ⟨⟨20, "bob", none, none, .user, true, none, none⟩, by decide, fun hdom => ?_⟩
    have hheld := hdom.capabilities ⟨20, 2, "user"⟩ (by decide) rfl "users.manage" (by decide)
    exact absurd hheld (by decide)
  · refine ⟨[⟨2, "user"⟩, ⟨1, "user"⟩], by decide, fun hwithin => ?_⟩
    have hkept := (hwithin.others 2 (by decide) "user").1 (by decide)
    exact absurd hkept (by decide)

/-- With the roles as they are read, the same save is right. -/
theorem managing_widens_nothing_for_ann :
    ∃ target as, assertManageableTarget (twoTenantsDb "admin" "user") ann (some 20) = .ok target ∧
      resolveTenantAssignments (twoTenantsDb "admin" "user") ann (some 20) (some [⟨some 1, "user"⟩]) = .ok as ∧
      Dominates (twoTenantsDb "admin" "user") ann target ∧
      AssignmentsWithin (twoTenantsDb "admin" "user") ann 20 as := by
  have hplain : PlainRights (twoTenantsDb "admin" "user") := ⟨by decide, by decide⟩
  have hscope := hplain.scopeHas_eq
  obtain ⟨hdominates, hwithin⟩ := managing_widens_nothing (twoTenantsDb "admin" "user") ann rfl (some 20)
  refine ⟨⟨20, "bob", none, none, .user, true, none, none⟩, [⟨2, "user"⟩, ⟨1, "user"⟩], by decide, by decide, ?_, ?_⟩
  · rw [hdominates _ (by decide)]
    intro m _ _ capability hcap
    simp only [Overstated, Understated, hscope]
    grind
  · rw [hwithin 20 (some [⟨some 1, "user"⟩]) _ (by decide) (by decide)]
    refine ⟨by decide, ?_⟩
    intro role _ capability _
    simp only [Overstated, hscope]
    grind

end Obliance.Users
