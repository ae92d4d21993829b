import Mathlib.Data.List.Sort
import Obliance.Lib.GuardedRun
import Obliance.Lib.JsSet
import Obliance.Lib.KeyedTable
import Obliance.Phone.Ringing
import Obliance.Phone.ServerUrl

/-!
# The servers of the phone (`core/auth` `ServerRegistry.kt`, `core/model` `Server.kt`, `Monogram.kt`)

The profiles in memory and in the store, with every call of the registry; a save may fail. The listeners that `remove`
calls once the removal is saved are left out; where one of them throws, the server is removed all the same.

* `sanitize` : the profiles of a store that may have been edited by hand;
* `Registry`, `RegistryOp`, `call`, `registryMachine` : the registry and its calls;
* `WellFormed`, `sanitize_self` : what `sanitize` keeps as it is;
* `registry_spec` : the registry is well formed and survives a restart.
-/

namespace Obliance.Phone.Servers
open GuardedRun

abbrev ServerId := Text

inductive ServerColor where
  | VIOLET
  | TEAL
  | FUCHSIA
  | INDIGO
  | CYAN
  | SAND
  | LAVENDER
  | MINT
  deriving DecidableEq

def ServerColor.entries : List ServerColor := [VIOLET, TEAL, FUCHSIA, INDIGO, CYAN, SAND, LAVENDER, MINT]

inductive NotifyScope where
  | ALL
  | CRITICAL_ONLY
  | NONE
  deriving DecidableEq

structure ServerProfile where
  id : ServerId
  origin : Text
  displayName : Text
  color : ServerColor
  monogram : Text
  order : ℤ
  notify : NotifyScope := .ALL
  includeInTriage : Bool := true
  lastTenantId : Option ℤ := none
  theme : Option Text := none
  viewFilter : List ℤ := []
  deriving DecidableEq

structure ServerRegistryState where
  profiles : List ServerProfile := []
  activeId : Option ServerId := none
  version : ℤ := 1
  deriving DecidableEq

def ServerRegistryState.byId (s : ServerRegistryState) (id : ServerId) : Option ServerProfile :=
  s.profiles.find? fun p => decide (p.id = id)

def ServerRegistryState.active (s : ServerRegistryState) : Option ServerProfile :=
  s.profiles.find? fun p => decide (some p.id = s.activeId)

/-- The profile of the server that a link leads to, by the origin of the link. -/
def ServerRegistryState.byUrl (t : CharTables) (s : ServerRegistryState) (url : Text) : Option ServerProfile :=
  (originOf t url).bind fun origin => s.profiles.find? fun p => decide (p.origin = origin)

def maxServers : ℕ := 8
def maxName : ℕ := 40
def maxViewFilter : ℕ := 64

/-! ## Names -/

/-- What names are read with: letters and numbers, and their case. -/
structure NameTables where
  isWordChar : Char → Bool
  isUpperCase : Char → Bool
  uppercase : Text → Text

/-- `Monogram.of` -/
def monogramOf (n : NameTables) (displayName : Text) : Text :=
  match (displayName.splitOnP fun c => !n.isWordChar c).filter fun word => decide (word ≠ []) with
  | [] => ['?']
  | [word] =>
      match (word.drop 1).find? n.isUpperCase with
      | some c => n.uppercase (word.take 1 ++ [c])
      | none => n.uppercase (word.take 2)
  | first :: second :: _ => n.uppercase (first.take 1 ++ second.take 1)

/-- `\s` -/
def isBlank (c : Char) : Bool := decide (c ∈ [' ', '\t', '\n', '\x0b', '\x0c', '\r'])

/-- `replace(Regex("\\s+"), " ")`, behind a blank or not. -/
def collapse : Bool → Text → Text
  | _, [] => []
  | afterBlank, c :: cs =>
      if isBlank c then
        if afterBlank then collapse true cs else ' ' :: collapse true cs
      else c :: collapse false cs

def cleanName (t : CharTables) (raw : Text) : Option Text :=
  let name := takeUnits maxName (collapse false (Numerals.strip t.isWhitespace raw))
  if name = [] then none else some name

/-- `Origins.host` -/
def hostOf (t : CharTables) (url : Text) : Option Text :=
  (originOf t url).map fun origin =>
    let h := (origin.dropWhile fun c => decide (c ≠ ':')).drop 3
    if h.head? = some '[' then (h.takeWhile fun c => decide (c ≠ ']')) ++ [']']
    else h.takeWhile fun c => decide (c ≠ ':')

/-- The first colour that is not used. -/
def nextColor (existing : List ServerProfile) : ServerColor :=
  let used := existing.map ServerProfile.color
  (ServerColor.entries.find? fun c => decide (c ∉ used)).getD
    (ServerColor.entries.getD (existing.length % ServerColor.entries.length) .VIOLET)

def newProfile (t : CharTables) (n : NameTables) (newId : ServerId) (origin : Text) (displayName : Option Text)
    (color : Option ServerColor) (existing : List ServerProfile) : ServerProfile :=
  let name := ((displayName.bind (cleanName t)).or (hostOf t origin)).getD origin
  { id := newId
    origin := origin
    displayName := name
    color := color.getD (nextColor existing)
    monogram := monogramOf n name
    order := existing.length }

/-! ## What is stored -/

def cleanViewFilter (tenantIds : List ℤ) : List ℤ :=
  ((JsSet.ofList (tenantIds.filter fun id => decide (0 < id))).insertionSort (· ≤ ·)).take maxViewFilter

def renumber (list : List ServerProfile) : List ServerProfile := list.mapIdx fun i p => { p with order := i }

/-- The profiles that `sanitize` keeps, behind those whose ids and origins were seen. -/
def keepFirst (t : CharTables) : List ServerId → List Text → List ServerProfile → List ServerProfile
  | _, _, [] => []
  | seenIds, seenOrigins, p :: ps =>
      if (normalize t p.origin).toOption = some p.origin then
        if seenIds.contains p.id then keepFirst t seenIds seenOrigins ps
        else if seenOrigins.contains p.origin then keepFirst t (p.id :: seenIds) seenOrigins ps
        else p :: keepFirst t (p.id :: seenIds) (p.origin :: seenOrigins) ps
      else keepFirst t seenIds seenOrigins ps

def sanitize (t : CharTables) (state : ServerRegistryState) : ServerRegistryState :=
  let sorted := state.profiles.insertionSort fun p q => p.order ≤ q.order
  let profiles := (renumber ((keepFirst t [] [] sorted).take maxServers)).map fun p =>
    { p with viewFilter := cleanViewFilter p.viewFilter }
  { profiles := profiles
    activeId := (state.activeId.filter fun id => profiles.any fun p => decide (p.id = id)).or
      (profiles.head?.map ServerProfile.id) }

/-! ## The registry -/

structure Registry where
  state : ServerRegistryState
  store : Option ServerRegistryState
  /-- The store was read or written. Nothing reads this. -/
  begun : Bool

/-- `commit` and the answer behind it; nothing when the save throws. -/
def Registry.commit {α : Type} (r : Registry) (saves : Bool) (next : ServerRegistryState) (result : α) :
    Option α × Registry :=
  if saves then (some result, ⟨next, some next, true⟩) else (none, r)

/-- The state that is loaded when no legacy URL is given. -/
def restart (t : CharTables) (store : Option ServerRegistryState) : ServerRegistryState :=
  match store.map (sanitize t) with
  | some stored => if stored.profiles = [] then {} else stored
  | none => {}

def Registry.load (t : CharTables) (n : NameTables) (legacyServerUrl : Option Text) (newId : ServerId) (saves : Bool)
    (r : Registry) : Option ServerRegistryState × Registry :=
  let stored := restart t r.store
  if stored.profiles ≠ [] then (some stored, { r with state := stored, begun := true })
  else
    match legacyServerUrl.bind fun url => (normalize t url).toOption with
    | none => (some {}, { r with state := {}, begun := true })
    | some origin =>
        let profile := newProfile t n newId origin none none []
        let state : ServerRegistryState := { profiles := [profile], activeId := some profile.id }
        r.commit saves state state

inductive AddServerResult where
  | Added (profile : ServerProfile)
  | Invalid (problem : Problem)
  | AlreadyConfigured (existing : ServerProfile)
  | LimitReached

def Registry.add (t : CharTables) (n : NameTables) (address : Text) (displayName : Option Text)
    (color : Option ServerColor) (newId : ServerId) (saves : Bool) (r : Registry) :
    Option AddServerResult × Registry :=
  let current := r.state
  match normalize t address with
  | .error problem => (some (.Invalid problem), r)
  | .ok origin =>
      match current.profiles.find? fun p => decide (p.origin = origin) with
      | some existing => (some (.AlreadyConfigured existing), r)
      | none =>
          if maxServers ≤ current.profiles.length then (some .LimitReached, r)
          else
            let profile := newProfile t n newId origin displayName color current.profiles
            let next := { current with
              profiles := current.profiles ++ [profile]
              activeId := current.activeId.or (some profile.id) }
            r.commit saves next (.Added profile)

inductive RemoveServerResult where
  | Removed (newActive : Option ServerProfile)
  | LastServer
  | NotFound

def Registry.remove (id : ServerId) (saves : Bool) (r : Registry) : Option RemoveServerResult × Registry :=
  let current := r.state
  match current.byId id with
  | none => (some .NotFound, r)
  | some _ =>
      if current.profiles.length = 1 then (some .LastServer, r)
      else
        let rest := renumber (current.profiles.filter fun p => decide (p.id ≠ id))
        let next := { current with
          profiles := rest
          activeId := if current.activeId = some id then rest.head?.map ServerProfile.id else current.activeId }
        r.commit saves next (.Removed next.active)

def Registry.update (id : ServerId) (saves : Bool) (change : ServerRegistryState → ServerRegistryState)
    (r : Registry) : Option Bool × Registry :=
  match r.state.byId id with
  | none => (some false, r)
  | some _ =>
      let next := change r.state
      if next ≠ r.state then r.commit saves next true else (some true, r)

def changeProfile (id : ServerId) (change : ServerProfile → ServerProfile) (s : ServerRegistryState) :
    ServerRegistryState :=
  { s with profiles := s.profiles.map fun p => if p.id = id then change p else p }

def Registry.updateProfile (id : ServerId) (saves : Bool) (change : ServerProfile → ServerProfile) (r : Registry) :
    Option Bool × Registry :=
  r.update id saves (changeProfile id change)

def Registry.activate (id : ServerId) (saves : Bool) (r : Registry) : Option Bool × Registry :=
  r.update id saves fun s => { s with activeId := some id }

def Registry.rename (t : CharTables) (n : NameTables) (id : ServerId) (displayName : Text) (saves : Bool)
    (r : Registry) : Option Bool × Registry :=
  match cleanName t displayName with
  | none => (some false, r)
  | some name => r.updateProfile id saves fun p => { p with displayName := name, monogram := monogramOf n name }

def Registry.recolor (id : ServerId) (color : ServerColor) (saves : Bool) (r : Registry) : Option Bool × Registry :=
  r.updateProfile id saves fun p => { p with color := color }

def Registry.setNotify (id : ServerId) (scope : NotifyScope) (saves : Bool) (r : Registry) : Option Bool × Registry :=
  r.updateProfile id saves fun p => { p with notify := scope }

def Registry.setIncludeInTriage (id : ServerId) (included : Bool) (saves : Bool) (r : Registry) :
    Option Bool × Registry :=
  r.updateProfile id saves fun p => { p with includeInTriage := included }

def Registry.setLastTenant (id : ServerId) (tenantId : Option ℤ) (saves : Bool) (r : Registry) :
    Option Bool × Registry :=
  r.updateProfile id saves fun p => { p with lastTenantId := tenantId }

def Registry.setTheme (id : ServerId) (theme : Option Text) (saves : Bool) (r : Registry) : Option Bool × Registry :=
  r.updateProfile id saves fun p => { p with theme := theme }

def Registry.setViewFilter (id : ServerId) (tenantIds : List ℤ) (saves : Bool) (r : Registry) :
    Option Bool × Registry :=
  r.updateProfile id saves fun p => { p with viewFilter := cleanViewFilter tenantIds }

def Registry.reorder (ids : List ServerId) (saves : Bool) (r : Registry) : Option Bool × Registry :=
  let current := r.state
  let configured := current.profiles.map ServerProfile.id
  if ids.length ≠ configured.length ∨ ¬ (ids ⊆ configured ∧ configured ⊆ ids) then (some false, r)
  else
    -- `associateBy`: the last profile with the id.
    let getValue := fun id => current.profiles.reverse.find? fun p => decide (p.id = id)
    r.commit saves { current with profiles := renumber (ids.filterMap getValue) } true

/-- The calls, with the id that `newId` returns and whether `store.save` does. -/
inductive RegistryOp where
  | load (legacyServerUrl : Option Text) (newId : ServerId) (saves : Bool)
  | add (address : Text) (displayName : Option Text) (color : Option ServerColor) (newId : ServerId) (saves : Bool)
  | remove (id : ServerId) (saves : Bool)
  | activate (id : ServerId) (saves : Bool)
  | rename (id : ServerId) (displayName : Text) (saves : Bool)
  | recolor (id : ServerId) (color : ServerColor) (saves : Bool)
  | setNotify (id : ServerId) (scope : NotifyScope) (saves : Bool)
  | setIncludeInTriage (id : ServerId) (included : Bool) (saves : Bool)
  | setLastTenant (id : ServerId) (tenantId : Option ℤ) (saves : Bool)
  | setTheme (id : ServerId) (theme : Option Text) (saves : Bool)
  | setViewFilter (id : ServerId) (tenantIds : List ℤ) (saves : Bool)
  | reorder (ids : List ServerId) (saves : Bool)

inductive Answer where
  | loaded (state : ServerRegistryState)
  | added (result : AddServerResult)
  | removed (result : RemoveServerResult)
  | done (ok : Bool)

def answered {α : Type} (answer : α → Answer) (res : Option α × Registry) : Option Answer × Registry :=
  (res.1.map answer, res.2)

/-- The answer of a call, none when it throws, and the registry behind it. -/
def call (t : CharTables) (n : NameTables) (r : Registry) : RegistryOp → Option Answer × Registry
  | .load legacyServerUrl newId saves => answered .loaded (r.load t n legacyServerUrl newId saves)
  | .add address displayName color newId saves => answered .added (r.add t n address displayName color newId saves)
  | .remove id saves => answered .removed (r.remove id saves)
  | .activate id saves => answered .done (r.activate id saves)
  | .rename id displayName saves => answered .done (r.rename t n id displayName saves)
  | .recolor id color saves => answered .done (r.recolor id color saves)
  | .setNotify id scope saves => answered .done (r.setNotify id scope saves)
  | .setIncludeInTriage id included saves => answered .done (r.setIncludeInTriage id included saves)
  | .setLastTenant id tenantId saves => answered .done (r.setLastTenant id tenantId saves)
  | .setTheme id theme saves => answered .done (r.setTheme id theme saves)
  | .setViewFilter id tenantIds saves => answered .done (r.setViewFilter id tenantIds saves)
  | .reorder ids saves => answered .done (r.reorder ids saves)

/-- A registry begins empty, whatever is stored. -/
def registryMachine (t : CharTables) (n : NameTables) : Machine Registry RegistryOp where
  init r := ∃ store, r = ⟨{}, store, false⟩
  step r op := some (call t n r op).2

/-- `newId` does not repeat the id of a profile. -/
def Fresh (r : Registry) : RegistryOp → Prop
  | .add _ _ _ newId _ => newId ∉ r.state.profiles.map ServerProfile.id
  | _ => True

instance decidableFresh (r : Registry) (op : RegistryOp) : Decidable (Fresh r op) :=
  match op with
  | .add _ _ _ newId _ => inferInstanceAs (Decidable (newId ∉ r.state.profiles.map ServerProfile.id))
  | .load _ _ _ | .remove _ _ | .activate _ _ | .rename _ _ _ | .recolor _ _ _ | .setNotify _ _ _
  | .setIncludeInTriage _ _ _ | .setLastTenant _ _ _ | .setTheme _ _ _ | .setViewFilter _ _ _ | .reorder _ _ =>
      .isTrue trivial

/-! ## What a registry holds -/

/-- The profiles of a registry, in any order. -/
structure Sound (t : CharTables) (ps : List ServerProfile) : Prop where
  ids : (ps.map ServerProfile.id).Nodup
  origins : (ps.map ServerProfile.origin).Nodup
  size : ps.length ≤ maxServers
  stored : ∀ p ∈ ps, Stored t p.origin
  viewFilter : ∀ p ∈ ps, cleanViewFilter p.viewFilter = p.viewFilter

/-- The active id is the id of a profile, when there is one. -/
def ActiveOf (ps : List ServerProfile) : Option ServerId → Prop
  | none => ps = []
  | some id => id ∈ ps.map ServerProfile.id

/-- The profiles are numbered in their order, and one of them is active. -/
structure WellFormed (t : CharTables) (s : ServerRegistryState) : Prop where
  sound : Sound t s.profiles
  numbered : ∀ (i : ℕ) (p : ServerProfile), s.profiles[i]? = some p → p.order = i
  active : ActiveOf s.profiles s.activeId
  version : s.version = 1

/-! ### Settings of the profiles -/

theorem cleanViewFilter_clean (ids : List ℤ) : cleanViewFilter (cleanViewFilter ids) = cleanViewFilter ids := by
  have hsorted : (cleanViewFilter ids).Pairwise (· ≤ ·) :=
    (List.pairwise_insertionSort (· ≤ ·) _).sublist (List.take_sublist _ _)
  have hnodup : (cleanViewFilter ids).Nodup :=
    ((List.perm_insertionSort _ _).nodup_iff.2 (JsSet.nodup_ofList _)).sublist (List.take_sublist _ _)
  have hpos : ∀ id ∈ cleanViewFilter ids, decide (0 < id) = true := fun id hid => by
    have hmem := JsSet.mem_ofList.1 ((List.mem_insertionSort _).1 (List.mem_of_mem_take hid))
    exact (List.mem_filter.1 hmem).2
  have hsize : (cleanViewFilter ids).length ≤ maxViewFilter := List.length_take_le _ _
  generalize cleanViewFilter ids = ids at hsorted hnodup hpos hsize
  rw [cleanViewFilter, List.filter_eq_self.2 hpos, JsSet.ofList_of_nodup hnodup, hsorted.insertionSort_eq,
    List.take_of_length_le hsize]

section Renumber
variable {t : CharTables} {ps qs : List ServerProfile} {β : Type}

/-- Nothing but the numbers changes. -/
theorem map_renumber (f : ServerProfile → β) (hf : ∀ p n, f { p with order := n } = f p) :
    (renumber ps).map f = ps.map f := by
  refine List.ext_getElem? fun i => ?_
  rw [renumber, List.getElem?_map, List.getElem?_map, List.getElem?_mapIdx, Option.map_map]
  exact congrArg (fun g => ps[i]?.map g) (funext fun p => hf p i)

theorem mem_renumber {p : ServerProfile} (h : p ∈ renumber ps) : ∃ q ∈ ps, ∃ n, p = { q with order := n } := by
  obtain ⟨i, hi, rfl⟩ := List.mem_mapIdx.1 h
  exact ⟨ps[i], List.getElem_mem hi, i, rfl⟩

theorem order_renumber {i : ℕ} {p : ServerProfile} (h : (renumber ps)[i]? = some p) : p.order = i := by
  rw [renumber, List.getElem?_mapIdx, Option.map_eq_some_iff] at h
  obtain ⟨q, -, rfl⟩ := h
  rfl

theorem renumber_self (h : ∀ (i : ℕ) (p : ServerProfile), ps[i]? = some p → p.order = i) : renumber ps = ps := by
  refine List.ext_getElem? fun i => ?_
  rw [renumber, List.getElem?_mapIdx]
  cases hp : ps[i]? with
  | none => rfl
  | some p => rw [Option.map_some, ← h i p hp]

theorem Sound.renumber (h : Sound t ps) : Sound t (renumber ps) where
  ids := by
    rw [map_renumber _ fun _ _ => rfl]
    exact h.ids
  origins := by
    rw [map_renumber _ fun _ _ => rfl]
    exact h.origins
  size := by
    rw [Servers.renumber, List.length_mapIdx]
    exact h.size
  stored p hp := by
    obtain ⟨q, hq, n, rfl⟩ := mem_renumber hp
    exact h.stored q hq
  viewFilter p hp := by
    obtain ⟨q, hq, n, rfl⟩ := mem_renumber hp
    exact h.viewFilter q hq

theorem Sound.sublist (h : Sound t ps) (hsub : qs.Sublist ps) : Sound t qs where
  ids := h.ids.sublist (hsub.map _)
  origins := h.origins.sublist (hsub.map _)
  size := hsub.length_le.trans h.size
  stored p hp := h.stored p (hsub.subset hp)
  viewFilter p hp := h.viewFilter p (hsub.subset hp)

theorem Sound.perm (h : Sound t ps) (hperm : qs.Perm ps) : Sound t qs where
  ids := (hperm.map _).nodup_iff.2 h.ids
  origins := (hperm.map _).nodup_iff.2 h.origins
  size := hperm.length_eq.le.trans h.size
  stored p hp := h.stored p (hperm.subset hp)
  viewFilter p hp := h.viewFilter p (hperm.subset hp)

end Renumber

/-! ### What `sanitize` keeps -/

section Sanitize
variable {t : CharTables} {ps : List ServerProfile} {ids : List ServerId} {origins : List Text}

theorem toOption_eq_some {e : Except Problem Text} {o : Text} : e.toOption = some o ↔ e = .ok o := by
  cases e with
  | error _ => exact ⟨(nomatch ·), (nomatch ·)⟩
  | ok a => exact ⟨fun h => congrArg Except.ok (Option.some.inj h), fun h => congrArg some (Except.ok.inj h)⟩

/-- The profiles that are kept are new, and their origins are as they are normalised. -/
theorem keepFirst_spec : ((keepFirst t ids origins ps).map ServerProfile.id).Nodup ∧
    ((keepFirst t ids origins ps).map ServerProfile.origin).Nodup ∧
    ∀ p ∈ keepFirst t ids origins ps, p.id ∉ ids ∧ p.origin ∉ origins ∧ normalize t p.origin = .ok p.origin := by
  induction ps generalizing ids origins with
  | nil => exact ⟨List.nodup_nil, List.nodup_nil, fun p hp => nomatch hp⟩
  | cons p ps ih =>
      rw [keepFirst]
      split_ifs with horigin hid hseen
      · exact ih
      · obtain ⟨hids, horigins, hnew⟩ := @ih (p.id :: ids) origins
        exact ⟨hids, horigins, fun q hq => ⟨fun h => (hnew q hq).1 (List.mem_cons_of_mem _ h), (hnew q hq).2⟩⟩
      · obtain ⟨hids, horigins, hnew⟩ := @ih (p.id :: ids) (p.origin :: origins)
        refine ⟨List.nodup_cons.2 ⟨fun h => ?_, hids⟩, List.nodup_cons.2 ⟨fun h => ?_, horigins⟩, fun q hq => ?_⟩
        · obtain ⟨q, hq, heq⟩ := List.mem_map.1 h
          exact (hnew q hq).1 (heq ▸ List.mem_cons_self)
        · obtain ⟨q, hq, heq⟩ := List.mem_map.1 h
          exact (hnew q hq).2.1 (heq ▸ List.mem_cons_self)
        · rcases List.mem_cons.1 hq with rfl | hq
          · rw [List.contains_iff_mem] at hid hseen
            exact ⟨hid, hseen, toOption_eq_some.1 horigin⟩
          · obtain ⟨hid', horigin', hnormal⟩ := hnew q hq
            exact ⟨fun h => hid' (List.mem_cons_of_mem _ h), fun h => horigin' (List.mem_cons_of_mem _ h), hnormal⟩
      · exact ih

/-- Nothing is dropped where nothing repeats. -/
theorem keepFirst_self (hids : (ps.map ServerProfile.id).Nodup) (horigins : (ps.map ServerProfile.origin).Nodup)
    (hnew : ∀ p ∈ ps, p.id ∉ ids ∧ p.origin ∉ origins ∧ normalize t p.origin = .ok p.origin) :
    keepFirst t ids origins ps = ps := by
  induction ps generalizing ids origins with
  | nil => rfl
  | cons p ps ih =>
      obtain ⟨hid, horigin, hnormal⟩ := hnew p List.mem_cons_self
      rw [List.map_cons, List.nodup_cons] at hids horigins
      rw [keepFirst, if_pos (toOption_eq_some.2 hnormal), if_neg (List.contains_iff_mem.not.2 hid),
        if_neg (List.contains_iff_mem.not.2 horigin), ih hids.2 horigins.2 fun q hq => ?_]
      obtain ⟨hid', horigin', hnormal'⟩ := hnew q (List.mem_cons_of_mem _ hq)
      refine ⟨fun h => ?_, fun h => ?_, hnormal'⟩
      · rcases List.mem_cons.1 h with heq | h
        · exact hids.1 (heq ▸ List.mem_map_of_mem hq)
        · exact hid' h
      · rcases List.mem_cons.1 h with heq | h
        · exact horigins.1 (heq ▸ List.mem_map_of_mem hq)
        · exact horigin' h

theorem activeOf_or (a : Option ServerId) : ActiveOf ps
    ((a.filter fun id => ps.any fun p => decide (p.id = id)).or (ps.head?.map ServerProfile.id)) := by
  cases hfilter : a.filter fun id => ps.any fun p => decide (p.id = id) with
  | none =>
      cases ps with
      | nil => rfl
      | cons p ps => exact List.mem_cons_self
  | some id =>
      have hany := (Option.filter_eq_some_iff.1 hfilter).2
      obtain ⟨p, hp, heq⟩ := List.any_eq_true.1 hany
      exact List.mem_map.2 ⟨p, hp, of_decide_eq_true heq⟩

/-- Whatever is stored, what is loaded is well formed. -/
theorem sanitize_wellFormed (s : ServerRegistryState) : WellFormed t (sanitize t s) := by
  let clean : ServerProfile → ServerProfile := fun p => { p with viewFilter := cleanViewFilter p.viewFilter }
  let kept := (keepFirst t [] [] (s.profiles.insertionSort fun p q => p.order ≤ q.order)).take maxServers
  obtain ⟨hids, horigins, hnew⟩ :=
    @keepFirst_spec t (s.profiles.insertionSort fun p q => p.order ≤ q.order) [] []
  have hsub : kept.Sublist (keepFirst t [] [] (s.profiles.insertionSort fun p q => p.order ≤ q.order)) :=
    List.take_sublist _ _
  have hsound : Sound t (kept.map clean) :=
    { ids := by
        rw [List.map_map]
        exact hids.sublist (hsub.map _)
      origins := by
        rw [List.map_map]
        exact horigins.sublist (hsub.map _)
      size := by
        rw [List.length_map]
        exact List.length_take_le _ _
      stored := fun p hp => by
        obtain ⟨q, hq, rfl⟩ := List.mem_map.1 hp
        exact stored_of_normalize (hnew q (hsub.subset hq)).2.2
      viewFilter := fun p hp => by
        obtain ⟨q, -, rfl⟩ := List.mem_map.1 hp
        exact cleanViewFilter_clean q.viewFilter }
  have hclean : (renumber kept).map clean = renumber (kept.map clean) := by
    refine List.ext_getElem? fun i => ?_
    rw [renumber, renumber, List.getElem?_map, List.getElem?_mapIdx, List.getElem?_mapIdx, List.getElem?_map,
      Option.map_map, Option.map_map]
    rfl
  change WellFormed t ⟨(renumber kept).map clean, _, 1⟩
  rw [hclean]
  exact ⟨hsound.renumber, fun _ _ => order_renumber, activeOf_or _, rfl⟩

/-- A well formed registry is loaded as it is. -/
theorem sanitize_self {s : ServerRegistryState} (h : WellFormed t s) : sanitize t s = s := by
  obtain ⟨profiles, activeId, version⟩ := s
  obtain ⟨hsound, hnumbered, hactive, rfl⟩ := h
  dsimp only at hsound hnumbered hactive
  have hsorted : profiles.insertionSort (fun p q => p.order ≤ q.order) = profiles := by
    refine List.Pairwise.insertionSort_eq (List.pairwise_iff_getElem.2 fun i j hi hj hij => ?_)
    rw [hnumbered i _ (List.getElem?_eq_getElem hi), hnumbered j _ (List.getElem?_eq_getElem hj)]
    exact Int.ofNat_le.2 hij.le
  have hkept : keepFirst t [] [] profiles = profiles := by
    refine keepFirst_self hsound.ids hsound.origins fun p hp => ⟨List.not_mem_nil, List.not_mem_nil, ?_⟩
    exact normalize_stored (hsound.stored p hp)
  have hclean : (profiles.map fun p => { p with viewFilter := cleanViewFilter p.viewFilter }) = profiles := by
    refine (List.map_congr_left fun p hp => ?_).trans (List.map_id profiles)
    rw [hsound.viewFilter p hp]
    rfl
  have hprofiles : (renumber ((keepFirst t [] [] (profiles.insertionSort fun p q => p.order ≤ q.order)).take
      maxServers)).map (fun p => { p with viewFilter := cleanViewFilter p.viewFilter }) = profiles := by
    rw [hsorted, hkept, List.take_of_length_le hsound.size, renumber_self hnumbered, hclean]
  rw [sanitize]
  dsimp only
  rw [hprofiles]
  cases activeId with
  | none =>
      obtain rfl : profiles = [] := hactive
      rfl
  | some id =>
      obtain ⟨p, hp, heq⟩ := List.mem_map.1 hactive
      have hany : (profiles.any fun p => decide (p.id = id)) = true :=
        List.any_eq_true.2 ⟨p, hp, decide_eq_true heq⟩
      rw [Option.filter_some, if_pos hany]
      rfl

end Sanitize

/-! ## Runs -/

section Runs
variable {t : CharTables} {n : NameTables} {r : Registry} {ok : Prop} {α β : Type}

/-- What a call does: nothing, a save, or a load. Where it throws it does nothing. -/
inductive Outcome (t : CharTables) (ok : Prop) (r : Registry) : Option α × Registry → Prop
  | same (a : Option α) : Outcome t ok r (a, r)
  | saved (a : α) (next : ServerRegistryState) :
      (ok → WellFormed t next) → Outcome t ok r (some a, ⟨next, some next, true⟩)
  | read (a : α) : Outcome t ok r (some a, ⟨restart t r.store, r.store, true⟩)

theorem Outcome.map {res : Option α × Registry} (h : Outcome t ok r res) (f : α → β) :
    Outcome t ok r (res.1.map f, res.2) := by
  cases h with
  | same a => exact .same (a.map f)
  | saved a next hnext => exact .saved (f a) next hnext
  | read a => exact .read (f a)

theorem commit_outcome {saves : Bool} {next : ServerRegistryState} {result : α} (h : ok → WellFormed t next) :
    Outcome t ok r (r.commit saves next result) := by
  cases saves with
  | true => exact .saved result next h
  | false => exact .same none

/-! ### Loading -/

theorem wellFormed_empty : WellFormed t {} where
  sound := ⟨List.nodup_nil, List.nodup_nil, Nat.zero_le _, fun _ h => (nomatch h), fun _ h => (nomatch h)⟩
  numbered _ _ h := nomatch h
  active := rfl
  version := rfl

theorem WellFormed.eq_empty {s : ServerRegistryState} (h : WellFormed t s) (hnone : s.profiles = []) : s = {} := by
  obtain ⟨profiles, activeId, version⟩ := s
  obtain ⟨-, -, hactive, rfl⟩ := h
  obtain rfl : profiles = [] := hnone
  cases activeId with
  | none => rfl
  | some id => exact nomatch hactive

theorem restart_wellFormed (store : Option ServerRegistryState) : WellFormed t (restart t store) := by
  cases store with
  | none => exact wellFormed_empty
  | some s =>
      change WellFormed t (if (sanitize t s).profiles = [] then {} else sanitize t s)
      split_ifs
      · exact wellFormed_empty
      · exact sanitize_wellFormed s

/-- What is saved is loaded. -/
theorem restart_saved {s : ServerRegistryState} (h : WellFormed t s) : restart t (some s) = s := by
  change (if (sanitize t s).profiles = [] then {} else sanitize t s) = s
  rw [sanitize_self h]
  split_ifs with hnone
  · exact (h.eq_empty hnone).symm
  · rfl

theorem wellFormed_single {p : ServerProfile} (horigin : Stored t p.origin) (horder : p.order = 0)
    (hfilter : p.viewFilter = []) : WellFormed t { profiles := [p], activeId := some p.id } where
  sound :=
    { ids := List.nodup_singleton _
      origins := List.nodup_singleton _
      size := (by decide : 1 ≤ 8)
      stored := fun q hq => by rwa [List.mem_singleton.1 hq]
      viewFilter := fun q hq => by
        rw [List.mem_singleton.1 hq, hfilter]
        rfl }
  numbered i q hq := by
    obtain ⟨hi, rfl⟩ := List.getElem?_eq_some_iff.1 hq
    obtain rfl : i = 0 := Nat.lt_one_iff.1 hi
    exact horder
  active := List.mem_singleton.2 rfl
  version := rfl

theorem load_outcome {legacyServerUrl : Option Text} {newId : ServerId} {saves : Bool} :
    Outcome t ok r (r.load t n legacyServerUrl newId saves) := by
  unfold Registry.load
  dsimp only
  split_ifs with hnone
  · exact .read _
  · have hempty : restart t r.store = {} := (restart_wellFormed r.store).eq_empty (not_not.1 hnone)
    split
    · rw [← hempty]
      exact .read _
    · next origin horigin =>
        obtain ⟨url, -, hurl⟩ := Option.bind_eq_some_iff.1 horigin
        have hstored := stored_of_normalize (toOption_eq_some.1 hurl)
        exact commit_outcome fun _ => wellFormed_single hstored rfl rfl

/-! ### The profiles -/

theorem Sound.append {ps : List ServerProfile} {p : ServerProfile} (h : Sound t ps)
    (hid : p.id ∉ ps.map ServerProfile.id) (horigin : p.origin ∉ ps.map ServerProfile.origin)
    (hsize : ps.length < maxServers) (hstored : Stored t p.origin) (hfilter : p.viewFilter = []) :
    Sound t (ps ++ [p]) where
  ids := by
    rw [List.map_append, List.map_singleton]
    exact List.nodup_append_comm.1 (List.nodup_cons.2 ⟨hid, h.ids⟩)
  origins := by
    rw [List.map_append, List.map_singleton]
    exact List.nodup_append_comm.1 (List.nodup_cons.2 ⟨horigin, h.origins⟩)
  size := by
    rw [List.length_append]
    exact hsize
  stored q hq := by
    rcases List.mem_append.1 hq with hq | hq
    · exact h.stored q hq
    · rwa [List.mem_singleton.1 hq]
  viewFilter q hq := by
    rcases List.mem_append.1 hq with hq | hq
    · exact h.viewFilter q hq
    · rw [List.mem_singleton.1 hq, hfilter]
      rfl

theorem add_outcome (h : WellFormed t r.state) {address : Text} {displayName : Option Text}
    {color : Option ServerColor} {newId : ServerId} {saves : Bool} :
    Outcome t (newId ∉ r.state.profiles.map ServerProfile.id) r
      (r.add t n address displayName color newId saves) := by
  unfold Registry.add
  dsimp only
  split
  · exact .same _
  · next origin horigin =>
      split
      · exact .same _
      · next hnew =>
          split_ifs with hfull
          · exact .same _
          · refine commit_outcome fun hid => ?_
            have hnew' : origin ∉ r.state.profiles.map ServerProfile.origin := fun hmem => by
              obtain ⟨p, hp, heq⟩ := List.mem_map.1 hmem
              exact List.find?_eq_none.1 hnew p hp (decide_eq_true heq)
            have hstored := stored_of_normalize horigin
            refine ⟨h.sound.append hid hnew' (Nat.not_le.1 hfull) hstored rfl, ?_, ?_, h.version⟩
            · intro i p hp
              rcases Nat.lt_or_ge i r.state.profiles.length with hi | hi
              · rw [List.getElem?_append_left hi] at hp
                exact h.numbered i p hp
              · rw [List.getElem?_append_right hi] at hp
                obtain ⟨hlast, -⟩ := List.getElem?_eq_some_iff.1 hp
                rw [List.length_singleton, Nat.lt_one_iff, Nat.sub_eq_zero_iff_le] at hlast
                obtain rfl := le_antisymm hlast hi
                rw [Nat.sub_self, List.getElem?_cons_zero] at hp
                obtain rfl := Option.some.inj hp
                rfl
            · have hactive := h.active
              cases hid' : r.state.activeId with
              | none => exact List.mem_map.2 ⟨_, List.mem_append_right _ (List.mem_singleton_self _), rfl⟩
              | some id =>
                  rw [hid'] at hactive
                  change id ∈ (r.state.profiles ++ _).map ServerProfile.id
                  rw [List.map_append]
                  exact List.mem_append_left _ hactive

theorem activeOf_head (ps : List ServerProfile) : ActiveOf ps (ps.head?.map ServerProfile.id) := by
  cases ps with
  | nil => rfl
  | cons p ps => exact List.mem_cons_self

theorem remove_outcome (h : WellFormed t r.state) {id : ServerId} {saves : Bool} :
    Outcome t ok r (r.remove id saves) := by
  unfold Registry.remove
  dsimp only
  split
  · exact .same _
  · by_cases hlast : r.state.profiles.length = 1
    · rw [if_pos hlast]
      exact .same _
    · rw [if_neg hlast]
      refine commit_outcome fun _ => ?_
      refine ⟨(h.sound.sublist List.filter_sublist).renumber, fun _ _ => order_renumber, ?_, h.version⟩
      dsimp only
      split_ifs with hactive
      · exact activeOf_head _
      · have hold := h.active
        cases hid : r.state.activeId with
        | none =>
            rw [hid] at hold
            change renumber (r.state.profiles.filter fun p => decide (p.id ≠ id)) = []
            rw [show r.state.profiles = [] from hold]
            rfl
        | some id' =>
            rw [hid] at hold hactive
            obtain ⟨p, hp, rfl⟩ := List.mem_map.1 hold
            change p.id ∈ (renumber (r.state.profiles.filter fun p => decide (p.id ≠ id))).map ServerProfile.id
            rw [map_renumber _ fun _ _ => rfl]
            refine List.mem_map_of_mem (List.mem_filter.2 ⟨hp, decide_eq_true fun heq => ?_⟩)
            exact hactive (congrArg some heq)

/-- An edit of a profile that leaves its id, its origin and its number. -/
structure Edits (change : ServerProfile → ServerProfile) : Prop where
  id : ∀ p, (change p).id = p.id
  origin : ∀ p, (change p).origin = p.origin
  order : ∀ p, (change p).order = p.order
  viewFilter : ∀ p, cleanViewFilter p.viewFilter = p.viewFilter →
    cleanViewFilter (change p).viewFilter = (change p).viewFilter

theorem WellFormed.changeProfile {s : ServerRegistryState} (h : WellFormed t s)
    {change : ServerProfile → ServerProfile} (hchange : Edits change) (id : ServerId) :
    WellFormed t (changeProfile id change s) := by
  have hids : (s.profiles.map fun p => if p.id = id then change p else p).map ServerProfile.id =
      s.profiles.map ServerProfile.id := by
    rw [List.map_map]
    refine List.map_congr_left fun p _ => ?_
    rw [Function.comp_apply, apply_ite ServerProfile.id, hchange.id, ite_self]
  have horigins : (s.profiles.map fun p => if p.id = id then change p else p).map ServerProfile.origin =
      s.profiles.map ServerProfile.origin := by
    rw [List.map_map]
    refine List.map_congr_left fun p _ => ?_
    rw [Function.comp_apply, apply_ite ServerProfile.origin, hchange.origin, ite_self]
  refine ⟨⟨?_, ?_, ?_, fun p hp => ?_, fun p hp => ?_⟩, fun i p hp => ?_, ?_, h.version⟩
  · exact hids ▸ h.sound.ids
  · exact horigins ▸ h.sound.origins
  · exact (List.length_map _).trans_le h.sound.size
  · obtain ⟨q, hq, rfl⟩ := List.mem_map.1 hp
    split_ifs
    · rw [hchange.origin]
      exact h.sound.stored q hq
    · exact h.sound.stored q hq
  · obtain ⟨q, hq, rfl⟩ := List.mem_map.1 hp
    split_ifs
    · exact hchange.viewFilter q (h.sound.viewFilter q hq)
    · exact h.sound.viewFilter q hq
  · change (s.profiles.map fun p => if p.id = id then change p else p)[i]? = some p at hp
    rw [List.getElem?_map] at hp
    obtain ⟨q, hq, rfl⟩ := Option.map_eq_some_iff.1 hp
    rw [apply_ite ServerProfile.order, hchange.order, ite_self]
    exact h.numbered i q hq
  · have hactive := h.active
    change ActiveOf (s.profiles.map fun p => if p.id = id then change p else p) s.activeId
    cases hid : s.activeId with
    | none =>
        rw [hid] at hactive
        change s.profiles.map _ = []
        rw [show s.profiles = [] from hactive]
        rfl
    | some active =>
        rw [hid] at hactive
        change active ∈ (s.profiles.map _).map ServerProfile.id
        rw [hids]
        exact hactive

theorem update_outcome {id : ServerId} {saves : Bool} {change : ServerRegistryState → ServerRegistryState}
    (h : ∀ p, r.state.byId id = some p → WellFormed t (change r.state)) :
    Outcome t ok r (r.update id saves change) := by
  unfold Registry.update
  split
  · exact .same _
  · next p hp =>
      dsimp only
      split_ifs
      · exact commit_outcome fun _ => h p hp
      · exact .same _

theorem updateProfile_outcome (h : WellFormed t r.state) {id : ServerId} {saves : Bool}
    {change : ServerProfile → ServerProfile} (hchange : Edits change) :
    Outcome t ok r (r.updateProfile id saves change) :=
  update_outcome fun _ _ => h.changeProfile hchange id

/-- An edit of another field. -/
theorem updateProfile_outcome_of_rfl (h : WellFormed t r.state) {id : ServerId} {saves : Bool}
    {change : ServerProfile → ServerProfile}
    (hchange : ∀ p, (change p).id = p.id ∧ (change p).origin = p.origin ∧ (change p).order = p.order ∧
      (change p).viewFilter = p.viewFilter) : Outcome t ok r (r.updateProfile id saves change) :=
  updateProfile_outcome h
    { id := fun p => (hchange p).1
      origin := fun p => (hchange p).2.1
      order := fun p => (hchange p).2.2.1
      viewFilter := fun p hp => by rw [(hchange p).2.2.2, hp] }

theorem rename_outcome (h : WellFormed t r.state) {id : ServerId} {displayName : Text} {saves : Bool} :
    Outcome t ok r (r.rename t n id displayName saves) := by
  unfold Registry.rename
  split
  · exact .same _
  · exact updateProfile_outcome_of_rfl h fun _ => ⟨rfl, rfl, rfl, rfl⟩

theorem WellFormed.activate {s : ServerRegistryState} (h : WellFormed t s) {id : ServerId} {p : ServerProfile}
    (hp : s.byId id = some p) : WellFormed t { s with activeId := some id } := by
  have hfound := List.find?_some hp
  have hid : p.id = id := of_decide_eq_true hfound
  exact ⟨h.sound, h.numbered, List.mem_map.2 ⟨p, List.mem_of_find?_eq_some hp, hid⟩, h.version⟩

/-- Where no key repeats, a profile is found by its own. -/
theorem find?_key {κ : Type} [DecidableEq κ] {key : ServerProfile → κ} {ps : List ServerProfile} {p : ServerProfile}
    (hnodup : (ps.map key).Nodup) (hp : p ∈ ps) : (ps.find? fun q => decide (key q = key p)) = some p :=
  (KeyedTable.get_eq_some_iff hnodup).2 ⟨hp, rfl⟩

/-- A permutation of the ids gives a permutation of the profiles. -/
theorem filterMap_perm {ps : List ServerProfile} (hnodup : (ps.map ServerProfile.id).Nodup) {ids : List ServerId}
    (hperm : ids.Perm (ps.map ServerProfile.id)) :
    (ids.filterMap fun id => ps.reverse.find? fun p => decide (p.id = id)).Perm ps := by
  refine (hperm.filterMap _).trans (List.Perm.of_eq ?_)
  rw [List.filterMap_map]
  refine (List.filterMap_congr fun p hp => ?_).trans List.filterMap_some
  refine find?_key ?_ (List.mem_reverse.2 hp)
  rw [List.map_reverse]
  exact List.nodup_reverse.2 hnodup

theorem reorder_outcome (h : WellFormed t r.state) {ids : List ServerId} {saves : Bool} :
    Outcome t ok r (r.reorder ids saves) := by
  unfold Registry.reorder
  dsimp only
  split_ifs with hno
  · exact .same _
  · rw [not_or, not_not, not_not] at hno
    obtain ⟨hlength, -, hsub⟩ := hno
    have hperm : ids.Perm (r.state.profiles.map ServerProfile.id) :=
      ((List.subperm_of_subset h.sound.ids hsub).perm_of_length_le hlength.le).symm
    have hprofiles := filterMap_perm h.sound.ids hperm
    refine commit_outcome fun _ => ?_
    refine ⟨(h.sound.perm hprofiles).renumber, fun _ _ => order_renumber, ?_, h.version⟩
    have hactive := h.active
    cases hid : r.state.activeId with
    | none =>
        rw [hid] at hactive
        rw [show r.state.profiles = [] from hactive] at hprofiles
        change renumber _ = []
        rw [show r.state.profiles = [] from hactive, hprofiles.eq_nil]
        rfl
    | some id =>
        rw [hid] at hactive
        change id ∈ (renumber _).map ServerProfile.id
        rw [map_renumber _ fun _ _ => rfl]
        exact (hprofiles.map _).symm.subset hactive

theorem call_outcome (h : WellFormed t r.state) (op : RegistryOp) : Outcome t (Fresh r op) r (call t n r op) := by
  have hplain {id : ServerId} {saves : Bool} {change : ServerProfile → ServerProfile}
      (hchange : ∀ p, (change p).id = p.id ∧ (change p).origin = p.origin ∧ (change p).order = p.order ∧
        (change p).viewFilter = p.viewFilter) :
      Outcome t (Fresh r op) r (answered .done (r.updateProfile id saves change)) :=
    (updateProfile_outcome_of_rfl h hchange).map _
  cases op with
  | load legacyServerUrl newId saves => exact load_outcome.map _
  | add address displayName color newId saves => exact (add_outcome h).map _
  | remove id saves => exact (remove_outcome h).map _
  | activate id saves => exact (update_outcome fun _ hp => h.activate hp : Outcome t _ r (r.activate id saves)).map _
  | rename id displayName saves => exact (rename_outcome h).map _
  | recolor _ _ _ | setNotify _ _ _ | setIncludeInTriage _ _ _ | setLastTenant _ _ _ | setTheme _ _ _ =>
      exact hplain fun _ => ⟨rfl, rfl, rfl, rfl⟩
  | setViewFilter id tenantIds saves =>
      refine (updateProfile_outcome h ?_).map _
      exact ⟨fun _ => rfl, fun _ => rfl, fun _ => rfl, fun _ _ => cleanViewFilter_clean tenantIds⟩
  | reorder ids saves => exact (reorder_outcome h).map _

/-- The registry is well formed, and is what a restart loads once the store was read or written. -/
structure Survives (t : CharTables) (r : Registry) : Prop where
  wellFormed : WellFormed t r.state
  restarts : r.begun = true → restart t r.store = r.state

theorem call_survives (h : Survives t r) {op : RegistryOp} (hfresh : Fresh r op) :
    Survives t (call t n r op).2 := by
  have hcall := call_outcome (n := n) h.wellFormed op
  generalize call t n r op = res at hcall
  cases hcall with
  | same a => exact h
  | saved a next hnext => exact ⟨hnext hfresh, fun _ => restart_saved (hnext hfresh)⟩
  | read a => exact ⟨restart_wellFormed r.store, fun _ => rfl⟩

theorem survives_of_reach (h : Reach (registryMachine t n) Fresh r) : Survives t r := by
  refine h.invariant ?_ fun r op r' hr hfresh hstep => ?_
  · rintro r ⟨store, rfl⟩
    exact ⟨wellFormed_empty, fun hbegun => nomatch hbegun⟩
  · obtain rfl := Option.some.inj hstep
    exact call_survives hr hfresh

/-- The origin of a configured server finds its profile. -/
theorem WellFormed.byUrl {s : ServerRegistryState} (h : WellFormed t s) {p : ServerProfile} (hp : p ∈ s.profiles) :
    s.byUrl t p.origin = some p := by
  rw [ServerRegistryState.byUrl, originOf_stored (h.sound.stored p hp), Option.bind_some]
  exact find?_key h.sound.origins hp

end Runs

/-- **The registry survives a restart**: in every run the profiles are well formed, what is stored gives them back,
the origin of a server finds it, and a call that throws changes nothing. -/
theorem registry_spec (t : CharTables) (n : NameTables) {r : Registry}
    (h : Reach (registryMachine t n) Fresh r) :
    WellFormed t r.state ∧ (r.begun = true → restart t r.store = r.state) ∧
      (∀ p ∈ r.state.profiles, r.state.byUrl t p.origin = some p) ∧
      ∀ op, (call t n r op).1 = none → (call t n r op).2 = r := by
  have hr := survives_of_reach h
  refine ⟨hr.wellFormed, hr.restarts, fun p hp => hr.wellFormed.byUrl hp, fun op hthrows => ?_⟩
  have hcall := call_outcome (n := n) hr.wellFormed op
  generalize call t n r op = res at hcall hthrows
  cases hcall with
  | same a => rfl
  | saved a next _ => cases hthrows
  | read a => cases hthrows

/-- Letters and digits of ASCII. -/
instance : Inhabited NameTables := ⟨⟨Char.isAlphanum, Char.isUpper, List.map Char.toUpper⟩⟩

/-- A legacy server is loaded, a second one is added, and they change places. -/
def legacyOps : List RegistryOp :=
  [.load (some "https://obli.example/".toList) ['1'] true,
    .add "Qual.example:8443".toList (some "Obliance Qual".toList) none ['2'] true, .reorder [['2'], ['1']] true]

def legacyRun : Option Registry := (registryMachine default default).exec ⟨{}, none, false⟩ legacyOps

example : (legacyRun.map fun r => r.state.profiles.map fun p => (String.ofList p.monogram, p.order)) =
    some [("OQ", 0), ("OE", 1)] := by decide +kernel

theorem registry_spec_legacy : ∃ r, legacyRun = some r ∧ WellFormed default r.state ∧
    (r.begun = true → restart default r.store = r.state) ∧
    (∀ p ∈ r.state.profiles, r.state.byUrl default p.origin = some p) ∧
    ∀ op, (call default default r op).1 = none → (call default default r op).2 = r := by
  obtain ⟨r, hr⟩ := Option.isSome_iff_exists.1 (by decide +kernel : legacyRun.isSome = true)
  have hfresh : (registryMachine default default).Admits Fresh ⟨{}, none, false⟩ legacyOps := by decide +kernel
  have hinit : (registryMachine default default).init ⟨{}, none, false⟩ := ⟨none, rfl⟩
  exact ⟨r, hr, registry_spec default default ((Reach.start hinit).of_exec legacyOps hfresh hr)⟩

end Obliance.Phone.Servers
