import Mathlib.Data.List.ReduceOption
import Obliance.Alerts.Service
import Obliance.Db.Int4
import Obliance.Groups.Tables

/-!
# The targets of a schedule (`services/schedule.service.ts`)

Two selectors read one stored list of ids: the one a run uses binds the raw entries to the query, the one
an authorisation uses normalises them with `Number()` first.

* `resolveTargetDevices`, `resolveTargetDeviceIdsForAuthz` : the selectors; `none` is a query that throws;
* `SameReading` : every id PostgreSQL reads from the list is one that `Number()` reads from it;
* `runs_within_authz_iff` : that is when a run stays within what was authorised.
-/

namespace Obliance.Schedules
open Obliance.Js Obliance.Db Obliance.Groups Obliance.Alerts

inductive DeviceApproval where
  | pending
  | approved
  | refused
  deriving DecidableEq, Repr

/-- The columns of `devices` that select targets. -/
structure TargetDevice where
  id : ℕ
  tenantId : ℕ
  groupId : Option ℕ
  approvalStatus : DeviceApproval
  status : DeviceStatus
  deriving DecidableEq, Repr

/-- The tables, their serial ids positive. -/
structure TargetDb where
  devices : List TargetDevice
  closure : List ClosureRow
  device_pos : ∀ d ∈ devices, 0 < d.id
  group_pos : ∀ d ∈ devices, ∀ g ∈ d.groupId, 0 < g
  ancestor_pos : ∀ r ∈ closure, 0 < r.ancestorId

/-- The JSON value of `target_ids`: an array, or something else. -/
inductive TargetIds where
  | array (entries : List JsVal)
  | value (v : JsVal)
  deriving DecidableEq, Repr

/-- `Number(v)`, with what it makes of an array or an object. -/
def numberOf (nested : String → Option ℚ) : JsVal → Option ℚ
  | .undefined => none
  | .null => some 0
  | .bool b => some (if b then 1 else 0)
  | .num q => some q
  | .str s => numberOfText s
  | .obj json => nested json

/-- What the language and the database driver make of texts that hold JSON, of objects, and of arrays
inside the list. -/
structure Host where
  /-- `JSON.parse`, `none` when it throws. -/
  parse : String → Option TargetIds
  /-- `Number(v)` of an array or an object. -/
  nestedNumber : String → Option ℚ
  /-- Whether `v.length > 0` for an object. -/
  hasLength : String → Bool
  /-- A list that holds arrays or objects, bound to `IN`; `none` when the query is refused. -/
  nestedIds : List JsVal → Option (List ℤ)
  /-- A list that the database reads has no entry out of its range. -/
  nestedIds_le : ∀ entries vals, nestedIds entries = some vals →
    ∀ v ∈ entries, ∀ n : ℤ, numberOf nestedNumber v = some n → n ≤ int4Max

/-- An entry as an `integer` parameter: `some none` is NULL, `none` a refused query. -/
def bindInt4 : JsVal → Option (Option ℤ)
  | .null => some none
  | .num q => if q.den = 1 ∧ -int4Max - 1 ≤ q.num ∧ q.num ≤ int4Max then some (some q.num) else none
  | .str s => (int4OfText s).map some
  | .undefined | .bool _ | .obj _ => none

def isNested : JsVal → Bool
  | .obj _ => true
  | _ => false

variable (host : Host)

/-- The integers of `IN (…)` with the raw entries. -/
def readIds (entries : List JsVal) : Option (List ℤ) :=
  if entries.any isNested then host.nestedIds entries
  else (entries.mapM bindInt4).map List.reduceOption

/-- `.map(Number).filter((n) => Number.isInteger(n) && n > 0)` -/
def numberIds (entries : List JsVal) : List ℤ :=
  entries.filterMap fun v => (numberOf host.nestedNumber v).bind fun q =>
    if q.den = 1 ∧ 0 < q.num then some q.num else none

/-- What the stored value restricts a run to. -/
inductive Restriction where
  | unrestricted
  | entries (entries : List JsVal)
  /-- A text or an object with a length, which `IN` does not take. -/
  | notAList
  deriving DecidableEq, Repr

def restriction : TargetIds → Restriction
  | .array entries => if entries.length > 0 then .entries entries else .unrestricted
  | .value (.str s) => if s.length > 0 then .notAList else .unrestricted
  | .value (.obj json) => if host.hasLength json then .notAList else .unrestricted
  | .value _ => .unrestricted

/-- `typeof target_ids === 'string' ? JSON.parse(target_ids || '[]') : (target_ids || [])` -/
def parseIds : TargetIds → Option TargetIds
  | .value (.str s) => if s = "" then some (.array []) else host.parse s
  | ids => some ids

/-! ## The selectors -/

def inIds (ids : List ℤ) (id : ℕ) : Bool := decide ((id : ℤ) ∈ ids)

/-- The groups of the list and those below them. -/
def inGroups (closure : List ClosureRow) (ids : List ℤ) (groupId : Option ℕ) : Bool :=
  groupId.any fun g => inIds ids g ||
    closure.any fun r => inIds ids r.ancestorId && decide (r.descendantId = g)

def approvedDevices (db : TargetDb) (tenantId : ℕ) : List TargetDevice :=
  db.devices.filter fun d => decide (d.tenantId = tenantId ∧ d.approvalStatus = .approved)

def isAlive (d : TargetDevice) : Bool := decide (d.status ∈ [DeviceStatus.online, .warning, .critical])

def selectDevices (db : TargetDb) (devices : List TargetDevice) (targetType : String) (ids : List ℤ) :
    List TargetDevice :=
  if targetType = "device" then devices.filter fun d => inIds ids d.id
  else devices.filter fun d => inGroups db.closure ids d.groupId

def isListType (targetType : String) : Bool := targetType = "device" || targetType = "group"

def resolveTargetDevices (db : TargetDb) (tenantId : ℕ) (targetType : String) (targetIds : TargetIds) :
    Option (List TargetDevice) :=
  (parseIds host targetIds).bind fun targetIds =>
    let q := (approvedDevices db tenantId).filter isAlive
    if isListType targetType then
      match restriction host targetIds with
      | .unrestricted => some q
      | .entries entries => (readIds host entries).map (selectDevices db q targetType)
      | .notAList => none
    else some q

/-- `Array.isArray(rawTargetIds) ? rawTargetIds : []`, normalised. -/
def authzIds : TargetIds → List ℤ
  | .array entries => numberIds host entries
  | .value _ => []

/-- A parameter out of the range of the column is refused. -/
def resolveTargetDeviceIdsForAuthz (db : TargetDb) (tenantId : ℕ) (targetType : Option String)
    (rawTargetIds : TargetIds) : Option (List ℕ) :=
  let targetIds := authzIds host rawTargetIds
  let q := approvedDevices db tenantId
  let selected := match targetType.filter isListType with
    | some targetType =>
        if targetIds.length > 0 then
          if targetIds.all (· ≤ int4Max) then some (selectDevices db q targetType targetIds) else none
        else some q
    | none => some q
  selected.map fun q => q.map TargetDevice.id

/-! ## Where they agree -/

/-- Every device a run selects is among the authorised ones, whatever the tables hold. -/
def RunsWithinAuthz (targetType : String) (targetIds : TargetIds) : Prop :=
  ∀ (db : TargetDb) (tenantId : ℕ) (devices : List TargetDevice),
    resolveTargetDevices host db tenantId targetType targetIds = some devices →
    ∀ d ∈ devices, ∃ allowed,
      resolveTargetDeviceIdsForAuthz host db tenantId (some targetType) targetIds = some allowed ∧ d.id ∈ allowed

/-- Every positive integer that PostgreSQL reads from an entry is one that `Number()` reads from some
entry, unless PostgreSQL refuses an entry or `Number()` keeps none. -/
def SameReading (targetType : String) (targetIds : TargetIds) : Prop :=
  isListType targetType = true → ∀ entries, targetIds = .array entries → ∀ vals, readIds host entries = some vals →
    numberIds host entries = [] ∨ ∀ v ∈ vals, 0 < v → v ∈ numberIds host entries

variable {host} {entries : List JsVal} {vals : List ℤ}

theorem mem_numberIds {n : ℤ} : n ∈ numberIds host entries ↔
    0 < n ∧ ∃ v ∈ entries, numberOf host.nestedNumber v = some (n : ℚ) := by
  rw [numberIds, List.mem_filterMap]
  constructor
  · rintro ⟨v, hv, h⟩
    obtain ⟨q, hq, h⟩ := Option.bind_eq_some_iff.1 h
    split_ifs at h with hint
    obtain rfl := Option.some.inj h
    refine ⟨hint.2, v, hv, ?_⟩
    rw [hq, Rat.coe_int_num_of_den_eq_one hint.1]
  · rintro ⟨hpos, v, hv, hq⟩
    refine ⟨v, hv, ?_⟩
    rw [hq, Option.bind_some, if_pos ⟨Rat.den_intCast n, by rwa [Rat.num_intCast]⟩, Rat.num_intCast]

/-- A number that both read of one entry is in the range of the column. -/
theorem le_int4Max_of_bind {v : JsVal} {r : Option ℤ} (hbind : bindInt4 v = some r) {n : ℤ}
    (hn : numberOf host.nestedNumber v = some (n : ℚ)) : n ≤ int4Max := by
  cases v with
  | undefined | bool b | obj json => cases hbind
  | null =>
      have hzero : (0 : ℚ) = n := Option.some.inj hn
      rw [← Int.cast_zero, Rat.intCast_inj] at hzero
      rw [← hzero]
      decide
  | num q =>
      obtain rfl := Option.some.inj hn
      rw [bindInt4] at hbind
      split_ifs at hbind with hrange
      exact (Rat.num_intCast n).symm.trans_le hrange.2.2
  | str s =>
      obtain ⟨m, hm, -⟩ := Option.map_eq_some_iff.1 hbind
      have heq : (n : ℚ) = m := number_eq_int4 hm hn
      rw [Rat.intCast_inj.1 heq]
      exact int4OfText_le hm

/-- A list is bound entry by entry. -/
theorem map_bindInt4 {bound : List (Option ℤ)} (h : entries.mapM bindInt4 = some bound) :
    entries.map bindInt4 = bound.map some := by
  induction entries generalizing bound with
  | nil => cases h; rfl
  | cons v entries ih =>
      rw [List.mapM_cons] at h
      obtain ⟨r, hr, h⟩ := Option.bind_eq_some_iff.1 h
      obtain ⟨rs, hrs, h⟩ := Option.bind_eq_some_iff.1 h
      obtain rfl := Option.some.inj h
      rw [List.map_cons, List.map_cons, hr, ih hrs]

/-- What the run reads, the authorisation can bind. -/
theorem numberIds_le (hread : readIds host entries = some vals) : ∀ n ∈ numberIds host entries, n ≤ int4Max := by
  intro n hn
  obtain ⟨-, v, hv, hnumber⟩ := mem_numberIds.1 hn
  rw [readIds] at hread
  split_ifs at hread with hnested
  · exact host.nestedIds_le entries vals hread v hv n hnumber
  · obtain ⟨bound, hbound, -⟩ := Option.map_eq_some_iff.1 hread
    have hbind : bindInt4 v ∈ entries.map bindInt4 := List.mem_map_of_mem hv
    rw [map_bindInt4 hbound] at hbind
    obtain ⟨r, -, hr⟩ := List.mem_map.1 hbind
    exact le_int4Max_of_bind hr.symm hnumber

section Select
variable {db : TargetDb} {devices : List TargetDevice} {targetType : String} {ids ids' : List ℤ} {d : TargetDevice}

theorem selectDevices_sublist (db : TargetDb) (devices : List TargetDevice) (targetType : String) (ids : List ℤ) :
    (selectDevices db devices targetType ids).Sublist devices := by
  unfold selectDevices
  split_ifs <;> exact List.filter_sublist

theorem mem_of_mem_selectDevices (h : d ∈ selectDevices db devices targetType ids) : d ∈ devices :=
  (selectDevices_sublist _ _ _ _).subset h

/-- A selection grows with the positive ids of the list: those of the tables are positive. -/
theorem selectDevices_mono {devices' : List TargetDevice} (hdevices : devices ⊆ devices')
    (hdb : ∀ d ∈ devices, d ∈ db.devices) (hids : ∀ v ∈ ids, 0 < v → v ∈ ids')
    (h : d ∈ selectDevices db devices targetType ids) : d ∈ selectDevices db devices' targetType ids' := by
  have hmem := mem_of_mem_selectDevices h
  have hin : ∀ n : ℕ, 0 < n → inIds ids n = true → inIds ids' n = true := by
    intro n hpos hn
    exact decide_eq_true (hids n (of_decide_eq_true hn) (by omega))
  rw [selectDevices] at h ⊢
  split_ifs at h ⊢ with htype
  · rw [List.mem_filter] at h ⊢
    exact ⟨hdevices hmem, hin _ (db.device_pos d (hdb d hmem)) h.2⟩
  · rw [List.mem_filter] at h ⊢
    refine ⟨hdevices hmem, ?_⟩
    obtain ⟨g, hg, h⟩ := (Option.any_eq_true _ _).1 h.2
    refine (Option.any_eq_true _ _).2 ⟨g, hg, ?_⟩
    rw [Bool.or_eq_true, List.any_eq_true] at h ⊢
    rcases h with h | ⟨r, hr, h⟩
    · exact .inl (hin g (db.group_pos d (hdb d hmem) g hg) h)
    · rw [Bool.and_eq_true] at h
      exact .inr ⟨r, hr, Bool.and_eq_true _ _ ▸ ⟨hin _ (db.ancestor_pos r hr) h.1, h.2⟩⟩

end Select

theorem resolveTargetDevices_sublist {db : TargetDb} {tenantId : ℕ} {targetType : String} {targetIds : TargetIds}
    {devices : List TargetDevice} (h : resolveTargetDevices host db tenantId targetType targetIds = some devices) :
    devices.Sublist (approvedDevices db tenantId) := by
  obtain ⟨parsed, -, h⟩ := Option.bind_eq_some_iff.1 h
  have hlive : ((approvedDevices db tenantId).filter isAlive).Sublist (approvedDevices db tenantId) :=
    List.filter_sublist
  dsimp only at h
  split_ifs at h
  · cases hr : restriction host parsed with
    | unrestricted =>
        rw [hr] at h
        exact Option.some.inj h ▸ hlive
    | entries entries =>
        rw [hr] at h
        obtain ⟨vals, -, rfl⟩ := Option.map_eq_some_iff.1 h
        exact (selectDevices_sublist _ _ _ _).trans hlive
    | notAList =>
        rw [hr] at h
        cases h
  · exact Option.some.inj h ▸ hlive

theorem resolveTargetDevices_approved {db : TargetDb} {tenantId : ℕ} {targetType : String} {targetIds : TargetIds}
    {devices : List TargetDevice} (h : resolveTargetDevices host db tenantId targetType targetIds = some devices) :
    ∀ d ∈ devices, d ∈ approvedDevices db tenantId := fun _ hd =>
  (resolveTargetDevices_sublist h).subset hd

theorem mem_devices_of_approved {db : TargetDb} {tenantId : ℕ} {d : TargetDevice}
    (h : d ∈ approvedDevices db tenantId) : d ∈ db.devices := List.mem_of_mem_filter h

theorem authz_all {db : TargetDb} {tenantId : ℕ} {targetType : String} {targetIds : TargetIds}
    (h : isListType targetType = false ∨ authzIds host targetIds = []) :
    resolveTargetDeviceIdsForAuthz host db tenantId (some targetType) targetIds =
      some ((approvedDevices db tenantId).map TargetDevice.id) := by
  unfold resolveTargetDeviceIdsForAuthz
  rcases h with htype | hids
  · rw [Option.filter_some_neg htype]
    rfl
  · rw [hids]
    cases htype : isListType targetType with
    | true => rw [Option.filter_some_pos htype]; rfl
    | false => rw [Option.filter_some_neg htype]; rfl

theorem authz_listed {db : TargetDb} {tenantId : ℕ} {targetType : String} (htype : isListType targetType = true)
    (hne : numberIds host entries ≠ []) :
    resolveTargetDeviceIdsForAuthz host db tenantId (some targetType) (.array entries) =
      if (numberIds host entries).all (· ≤ int4Max) then
        some ((selectDevices db (approvedDevices db tenantId) targetType (numberIds host entries)).map
          TargetDevice.id)
      else none := by
  unfold resolveTargetDeviceIdsForAuthz
  rw [Option.filter_some_pos htype]
  dsimp only [authzIds]
  rw [if_pos (List.length_pos_iff.2 hne)]
  split_ifs <;> rfl

theorem run_listed {db : TargetDb} {tenantId : ℕ} {targetType : String} (htype : isListType targetType = true)
    (hne : entries ≠ []) :
    resolveTargetDevices host db tenantId targetType (.array entries) =
      (readIds host entries).map (selectDevices db ((approvedDevices db tenantId).filter isAlive) targetType) := by
  rw [resolveTargetDevices, parseIds, Option.bind_some]
  · dsimp only
    rw [if_pos htype, restriction, if_pos (List.length_pos_iff.2 hne)]
  · rintro s ⟨⟩

def loneRow (v : ℤ) : TargetDevice := ⟨v.toNat, 1, some v.toNat, .approved, .online⟩

/-- One device, alone in its group, both with the id `v`. -/
def loneDevice (v : ℤ) (h : 0 < v) : TargetDb where
  devices := [loneRow v]
  closure := []
  device_pos := by simpa [loneRow] using h
  group_pos := by simpa [loneRow] using h
  ancestor_pos := by simp

theorem mem_select_lone {v : ℤ} (hpos : 0 < v) {targetType : String} {ids : List ℤ} {d : TargetDevice} :
    d ∈ selectDevices (loneDevice v hpos) [loneRow v] targetType ids ↔ d = loneRow v ∧ v ∈ ids := by
  have hcast : ((v.toNat : ℕ) : ℤ) = v := Int.toNat_of_nonneg hpos.le
  rw [selectDevices]
  split_ifs
  · rw [List.mem_filter, List.mem_singleton]
    refine and_congr_right ?_
    rintro rfl
    rw [inIds, decide_eq_true_eq, loneRow, hcast]
  · rw [List.mem_filter, List.mem_singleton]
    refine and_congr_right ?_
    rintro rfl
    rw [inGroups, loneRow, Option.any_some, loneDevice, List.any_nil, Bool.or_false, inIds, decide_eq_true_eq,
      hcast]

/-- **A run stays within what was authorised** exactly when the two readings of the list agree. -/
theorem runs_within_authz_iff (host : Host) (targetType : String) (targetIds : TargetIds) :
    RunsWithinAuthz host targetType targetIds ↔ SameReading host targetType targetIds := by
  constructor
  · intro hwithin htype entries hids vals hread
    subst hids
    by_contra hnot
    rw [not_or] at hnot
    obtain ⟨hne, hsome⟩ := hnot
    rw [not_forall] at hsome
    obtain ⟨v, hsome⟩ := hsome
    rw [Classical.not_imp, Classical.not_imp] at hsome
    obtain ⟨hv, hpos, hout⟩ := hsome
    have hentries : entries ≠ [] := by
      rintro rfl
      exact hne rfl
    have hrun : resolveTargetDevices host (loneDevice v hpos) 1 targetType (.array entries) = _ :=
      run_listed htype hentries
    rw [hread, Option.map_some] at hrun
    obtain ⟨allowed, hallowed, hmem⟩ := hwithin _ 1 _ hrun (loneRow v) ((mem_select_lone hpos).2 ⟨rfl, hv⟩)
    rw [authz_listed htype hne] at hallowed
    split_ifs at hallowed
    obtain rfl := Option.some.inj hallowed
    obtain ⟨d, hd, -⟩ := List.mem_map.1 hmem
    exact hout ((mem_select_lone hpos).1 hd).2
  · intro hsame db tenantId devices hrun d hd
    have happroved := resolveTargetDevices_approved hrun d hd
    have hall : (isListType targetType = false ∨ authzIds host targetIds = []) → ∃ allowed,
        resolveTargetDeviceIdsForAuthz host db tenantId (some targetType) targetIds = some allowed ∧
          d.id ∈ allowed := fun h => ⟨_, authz_all h, List.mem_map_of_mem happroved⟩
    cases htype : isListType targetType with
    | false => exact hall (.inl htype)
    | true =>
        cases targetIds with
        | value v => exact hall (.inr rfl)
        | array entries =>
            by_cases hnumbers : numberIds host entries = []
            · exact hall (.inr hnumbers)
            · have hne : entries ≠ [] := by
                rintro rfl
                exact hnumbers rfl
              rw [run_listed htype hne] at hrun
              obtain ⟨vals, hread, rfl⟩ := Option.map_eq_some_iff.1 hrun
              have hin := (hsame htype entries rfl vals hread).resolve_left hnumbers
              refine ⟨_, (authz_listed htype hnumbers).trans (if_pos (List.all_eq_true.2 fun n hn =>
                decide_eq_true (numberIds_le hread n hn))), List.mem_map_of_mem ?_⟩
              exact selectDevices_mono (fun d hd => List.mem_of_mem_filter hd)
                (fun d hd => mem_devices_of_approved (List.mem_of_mem_filter hd)) hin hd

/-- A list of numbers, as a client that sends no texts makes it, is read alike. -/
theorem sameReading_of_numbers (h : ∀ v ∈ entries, ∃ q, v = .num q) (targetType : String) :
    SameReading host targetType (.array entries) := by
  rintro - _ ⟨⟩ vals hread
  refine .inr fun v hv hpos => ?_
  have hplain : entries.any isNested = false := by
    rw [List.any_eq_false]
    intro e he
    obtain ⟨q, rfl⟩ := h e he
    exact Bool.false_ne_true
  rw [readIds, hplain] at hread
  obtain ⟨bound, hbound, rfl⟩ := Option.map_eq_some_iff.1 hread
  have hmem : some (some v) ∈ bound.map some := List.mem_map_of_mem (List.reduceOption_mem_iff.1 hv)
  rw [← map_bindInt4 hbound] at hmem
  obtain ⟨e, he, hbind⟩ := List.mem_map.1 hmem
  obtain ⟨q, rfl⟩ := h e he
  rw [bindInt4] at hbind
  split_ifs at hbind with hint
  obtain rfl := Option.some.inj (Option.some.inj hbind)
  exact mem_numberIds.2 ⟨hpos, _, he, congrArg some (Rat.coe_int_num_of_den_eq_one hint.1).symm⟩

/-- Devices 5 and 1000 of tenant 1. -/
def twoDevices : TargetDb where
  devices := [⟨5, 1, none, .approved, .online⟩, ⟨1000, 1, none, .approved, .online⟩]
  closure := []
  device_pos := by decide
  group_pos := by decide
  ancestor_pos := by decide

/-- A host on which texts never hold JSON and nested lists are refused. -/
def plainHost : Host where
  parse := fun _ => none
  nestedNumber := fun _ => none
  hasLength := fun _ => false
  nestedIds := fun _ => none
  nestedIds_le := by simp

/-- The list `["1_000", 5]`: a run selects device 1000, an authorisation asks about device 5 only. -/
theorem unauthorised_device_runs :
    resolveTargetDevices plainHost twoDevices 1 "device" (.array [.str "1_000", .num 5]) =
        some twoDevices.devices ∧
      resolveTargetDeviceIdsForAuthz plainHost twoDevices 1 (some "device") (.array [.str "1_000", .num 5]) =
        some [5] ∧
      ¬ RunsWithinAuthz plainHost "device" (.array [.str "1_000", .num 5]) := by
  have hrun : resolveTargetDevices plainHost twoDevices 1 "device" (.array [.str "1_000", .num 5]) =
      some twoDevices.devices := by decide
  have hauthz : resolveTargetDeviceIdsForAuthz plainHost twoDevices 1 (some "device")
      (.array [.str "1_000", .num 5]) = some [5] := by decide
  refine ⟨hrun, hauthz, fun hwithin => ?_⟩
  obtain ⟨allowed, hallowed, hmem⟩ := hwithin twoDevices 1 _ hrun ⟨1000, 1, none, .approved, .online⟩ (by decide)
  rw [hauthz] at hallowed
  rw [← Option.some.inj hallowed] at hmem
  exact absurd hmem (by decide)

end Obliance.Schedules
