import Obliance.Schedules.Targets

/-!
# Action restrictions (`services/restriction.service.ts`)

Every tenant has a matrix that maps an action to a level, with a scope of devices. A request passes a
level, or it does not; `none` is a lookup that throws.

* `normalizeEntry`, `scopeAppliesToDevice`, `getLevelFor` : the level a tenant sets for a device;
* `passes` : whether `enforce` lets a request through; `rank` orders levels by what they demand.
-/

namespace Obliance.Restrictions
open Obliance.Js Obliance.Groups KeyedTable

inductive RestrictionLevel where
  | none
  | restricted
  | sensitive
  deriving DecidableEq, Repr

inductive ScopeMode where
  | all
  | include
  | exclude
  deriving DecidableEq, Repr

/-- The ids are numbers; a missing list is none. -/
structure RestrictionScope where
  mode : ScopeMode
  deviceIds : List ℚ
  groupIds : List ℚ
  deriving DecidableEq, Repr

structure RestrictionEntry where
  level : RestrictionLevel
  scope : RestrictionScope
  deriving DecidableEq, Repr

/-- `raw.scope`: an id list that is not an array is `none`. -/
structure RawScope where
  mode : JsVal
  deviceIds : Option (List JsVal)
  groupIds : Option (List JsVal)
  deriving DecidableEq, Repr

/-- A value of the stored matrix. -/
inductive RawEntry where
  | value (v : JsVal)
  | object (level : JsVal) (scope : Option RawScope)
  deriving DecidableEq, Repr

/-- The stored matrix, by action key. -/
abbrev RawMatrix := String → Option RawEntry

/-- The column `action_restrictions`: an object, or a text that may hold one. -/
inductive StoredMatrix where
  | object (entries : RawMatrix)
  | text (s : String)
  | falsy

structure TenantRow where
  id : ℕ
  actionRestrictions : StoredMatrix

/-- What the language makes of JSON texts and of nested values. -/
structure Host where
  /-- `JSON.parse`, `none` when it throws. -/
  parse : String → Option RawMatrix
  /-- `Number(v)` of an array or an object. -/
  nestedNumber : String → Option ℚ

/-- A row of `devices`, as far as a remote session depends on it. -/
structure DeviceRow where
  id : ℕ
  tenantId : ℕ
  groupId : Option ℕ
  agentFlavor : Option String
  deriving DecidableEq, Repr

structure RestrictionDb where
  tenants : List TenantRow
  devices : List DeviceRow
  closure : List ClosureRow

variable (host : Host)

def levelOf : JsVal → Option RestrictionLevel
  | .str "restricted" => some .restricted
  | .str "sensitive" => some .sensitive
  | _ => none

def modeOf : JsVal → ScopeMode
  | .str "include" => .include
  | .str "exclude" => .exclude
  | _ => .all

/-- `.map(Number).filter(Number.isFinite)` -/
def finiteNumbers (ids : Option (List JsVal)) : List ℚ :=
  (ids.getD []).filterMap (Schedules.numberOf host.nestedNumber)

def normalizeEntry : RawEntry → Option RestrictionEntry
  | .value v => (levelOf v).map fun level => ⟨level, ⟨.all, [], []⟩⟩
  | .object level scope => (levelOf level).map fun level =>
      ⟨level, modeOf ((scope.map RawScope.mode).getD .undefined),
        finiteNumbers host (scope.bind RawScope.deviceIds), finiteNumbers host (scope.bind RawScope.groupIds)⟩

/-- A number bound to an `integer` column. -/
def isInt4 (q : ℚ) : Bool := q.den = 1 ∧ -Db.int4Max - 1 ≤ q.num ∧ q.num ≤ Db.int4Max

/-- `whereIn('ancestor_id', groupIds).andWhere('descendant_id', groupId)` -/
def groupInScope (closure : List ClosureRow) (groupIds : List ℚ) (groupId : ℕ) : Option Bool :=
  if groupIds.all isInt4
  then some (closure.any fun r => decide ((r.ancestorId : ℚ) ∈ groupIds) && decide (r.descendantId = groupId))
  else none

def device (db : RestrictionDb) (deviceId : ℕ) : Option DeviceRow := get DeviceRow.id db.devices deviceId

def scopeAppliesToDevice (db : RestrictionDb) (scope : RestrictionScope) (deviceId tenantId : ℕ) :
    Option Bool :=
  if scope.mode = .all then some true
  else
    match (device db deviceId).filter fun d => d.tenantId = tenantId with
    | none => some (decide (scope.mode ≠ .include))
    | some dev =>
        let deviceMatches := decide ((dev.id : ℚ) ∈ scope.deviceIds)
        let groupMatches := if scope.groupIds = [] then some false
          else dev.groupId.elim (some false) (groupInScope db.closure scope.groupIds)
        groupMatches.map fun groupMatches =>
          if scope.mode = .include then deviceMatches || groupMatches
          else !(deviceMatches || groupMatches)

/-- `none` when the stored text is not JSON. -/
def getMap (db : RestrictionDb) (tenantId : ℕ) : Option (String → Option RestrictionEntry) :=
  match (get TenantRow.id db.tenants tenantId).map TenantRow.actionRestrictions with
  | none | some .falsy => some fun _ => none
  | some (.object raw) => some fun key => (raw key).bind (normalizeEntry host)
  | some (.text s) => (host.parse (if s = "" then "\x7b\x7d" else s)).map fun raw key =>
      (raw key).bind (normalizeEntry host)

/-- The loop over the devices of a request: the first one in scope decides. -/
def levelOverDevices (db : RestrictionDb) (entry : RestrictionEntry) (tenantId : ℕ) :
    List ℕ → Option RestrictionLevel
  | [] => some .none
  | id :: ids => (scopeAppliesToDevice db entry.scope id tenantId).bind fun applies =>
      if applies then some entry.level else levelOverDevices db entry tenantId ids

def getLevelFor (db : RestrictionDb) (tenantId : ℕ) (actionKey : String) (deviceIds : List ℕ) :
    Option RestrictionLevel :=
  (getMap host db tenantId).bind fun map =>
    match map actionKey with
    | none => some .none
    | some entry =>
        if entry.scope.mode = .all ∨ deviceIds = [] then some entry.level
        else levelOverDevices db entry tenantId deviceIds

/-- `enforce`, once the level is known: a sensitive action needs the second factor of the request, a
restricted one waits for an approval. -/
def passes (secondFactor : Bool) : RestrictionLevel → Bool
  | .none => true
  | .sensitive => secondFactor
  | .restricted => false

/-- What a level demands: nothing, a second factor, or more than a request can give. A matrix that
cannot be read lets nobody through either. -/
def rank : Option RestrictionLevel → ℕ
  | some .none => 0
  | some .sensitive => 1
  | some .restricted | none => 2

/-- When passing one level is passing another: the other demands no more, or the second factor decides. -/
theorem passes_imp_iff (level level' : Option RestrictionLevel) (secondFactor : Bool) :
    (level.any (passes secondFactor) → level'.any (passes secondFactor)) ↔
      rank level' ≤ rank level ∨ (level' = some .sensitive ∧ secondFactor) ∨
        (level = some .sensitive ∧ ¬ secondFactor) := by
  cases secondFactor <;> rcases level with _ | _ | _ | _ <;> rcases level' with _ | _ | _ | _ <;>
    simp [passes, rank]

end Obliance.Restrictions
