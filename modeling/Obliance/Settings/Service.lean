import Mathlib.Algebra.Order.Field.Rat
import Mathlib.Data.List.TakeWhile
import Obliance.Lib.InterruptedWrites
import Obliance.Lib.KeyedTable

/-!
# Overrides of settings (`services/settings.service.ts`)

* `SettingsDb` : the rows of `settings` with their unique indexes;
* `set`, `setBulk` : one override and a list of them, with the answers of the database;
* `stored_write` : an accepted override replaces the value of its setting and no other;
* `setBulk_eq` : a list writes what stands before its first refused item;
* `AllOrNothing`, `setBulk_atomic_iff` : when a bulk call is all or nothing.
-/

namespace Obliance.Settings
open KeyedTable

/-- A number; JSON has no text for the last two. -/
inductive SettingValue where
  | finite (q : ℚ)
  | infinity (negative : Bool)
  | nan
  deriving DecidableEq, Repr

inductive SettingScope where
  | global
  | group
  | device
  deriving DecidableEq, Repr

def SettingScope.text : SettingScope → String
  | .global => "global"
  | .group => "group"
  | .device => "device"

/-- What `set` reads of a definition. -/
structure SettingDefinition where
  key : String
  min : Option ℕ
  max : Option ℕ
  globalOnly : Bool
  deriving DecidableEq, Repr

def SETTINGS_DEFINITIONS : List SettingDefinition :=
  [⟨"pushInterval", some 10, some 3600, false⟩,
   ⟨"scanInterval", some 0, some 86400, false⟩,
   ⟨"fastPollInterval", some 3, some 30, false⟩,
   ⟨"maxMissedPushes", some 1, some 20, false⟩,
   ⟨"notificationCooldown", some 0, some 86400, false⟩,
   ⟨"inventoryRetentionDays", some 7, some 365, true⟩,
   ⟨"autoApproveDevices", none, none, true⟩,
   ⟨"tfaTrustHours", some 0, some 8760, true⟩]

/-- A row of `settings`; the value `none` is JSON's null. -/
structure SettingsRow where
  tenantId : ℕ
  scope : SettingScope
  scopeId : Option ℤ
  key : String
  value : Option ℚ
  createdAt : ℤ
  updatedAt : ℤ
  deriving DecidableEq, Repr

/-- The columns of the unique indexes. -/
structure Slot where
  tenantId : ℕ
  scope : SettingScope
  scopeId : Option ℤ
  key : String
  deriving DecidableEq, Repr

def SettingsRow.slot (r : SettingsRow) : Slot := ⟨r.tenantId, r.scope, r.scopeId, r.key⟩

structure SettingsDb where
  rows : List SettingsRow
  slots : Keyed SettingsRow.slot rows

structure SettingOverride where
  key : String
  value : SettingValue
  deriving DecidableEq, Repr

/-- Whose settings a call is about. -/
structure Target where
  tenantId : ℕ
  scope : SettingScope
  scopeId : Option ℤ
  deriving DecidableEq, Repr

def Target.slot (target : Target) (key : String) : Slot := ⟨target.tenantId, target.scope, target.scopeId, key⟩

inductive SettingsError where
  | error (message : String)
  /-- The statement throws. -/
  | database
  deriving DecidableEq, Repr

/-- The statements of one call: whether the `i`-th is taken, and its instant. -/
structure Host where
  takes : ℕ → Bool
  now : ℕ → ℤ

/-! ## One override -/

/-- `value < bound` -/
def SettingValue.lt (v : SettingValue) (bound : ℕ) : Bool :=
  match v with
  | .finite q => decide (q < bound)
  | .infinity negative => negative
  | .nan => false

/-- `value > bound` -/
def SettingValue.gt (v : SettingValue) (bound : ℕ) : Bool :=
  match v with
  | .finite q => decide ((bound : ℚ) < q)
  | .infinity negative => ! negative
  | .nan => false

/-- `JSON.stringify(value)`, as the column reads it. -/
def SettingValue.serialized : SettingValue → Option ℚ
  | .finite q => some q
  | _ => none

def bound (b : Option ℕ) : String := (b.map toString).getD "undefined"

/-- The error of an override that is not written. -/
def refusal (scope : SettingScope) (o : SettingOverride) : Option SettingsError :=
  match SETTINGS_DEFINITIONS.find? fun d => d.key = o.key with
  | none => some (.error ("Unknown setting key: " ++ o.key))
  | some d =>
      if d.globalOnly && scope ≠ .global then
        some (.error ("Setting " ++ o.key ++ " is global-only and cannot be overridden per " ++ scope.text))
      else if d.min.any o.value.lt || d.max.any o.value.gt then
        some (.error ("Value for " ++ o.key ++ " must be between " ++ bound d.min ++ " and " ++ bound d.max))
      else none

def newRow (target : Target) (o : SettingOverride) (now : ℤ) : SettingsRow where
  tenantId := target.tenantId
  scope := target.scope
  scopeId := target.scopeId
  key := o.key
  value := o.value.serialized
  createdAt := now
  updatedAt := now

def SettingsRow.merge (o : SettingOverride) (now : ℤ) (r : SettingsRow) : SettingsRow :=
  { r with value := o.value.serialized, updatedAt := now }

theorem merge_slot (o : SettingOverride) (now : ℤ) (r : SettingsRow) : (r.merge o now).slot = r.slot := rfl

/-- The upsert, where the database takes it: of its partial indexes only that of the global settings fits the
conflict target, so that it refuses a scoped one. -/
def SettingsDb.write (db : SettingsDb) (target : Target) (o : SettingOverride) (now : ℤ) : SettingsDb where
  rows := upsert SettingsRow.slot db.rows (newRow target o now) (SettingsRow.merge o now)
  slots := nodup_upsert (merge_slot o now) db.slots

def set (takes : Bool) (now : ℤ) (db : SettingsDb) (target : Target) (o : SettingOverride) :
    Option SettingsError × SettingsDb :=
  match refusal target.scope o with
  | some e => (some e, db)
  | none => if takes then (none, db.write target o now) else (some .database, db)

/-! ## A list of overrides -/

/-- The loop, from the `i`-th item on. -/
def setBulkFrom (host : Host) (target : Target) : ℕ → SettingsDb → List SettingOverride →
    Option SettingsError × SettingsDb
  | _, db, [] => (none, db)
  | i, db, o :: os =>
      match set (host.takes i) (host.now i) db target o with
      | (some e, db) => (some e, db)
      | (none, db) => setBulkFrom host target (i + 1) db os

def setBulk (host : Host) (db : SettingsDb) (target : Target) (overrides : List SettingOverride) :
    Option SettingsError × SettingsDb :=
  setBulkFrom host target 0 db overrides

/-! ## The stored settings -/

/-- The value of a setting, when it is stored. -/
def SettingsDb.stored (db : SettingsDb) (slot : Slot) : Option (Option ℚ) :=
  (get SettingsRow.slot db.rows slot).map SettingsRow.value

/-- The writes of a list of overrides, one after the other. -/
def writesOf (target : Target) (os : List SettingOverride) : List (Slot × Option ℚ) :=
  os.map fun o => (target.slot o.key, o.value.serialized)

/-- Nothing is stored when the call rejects, and every item in order when it succeeds. -/
def AllOrNothing (host : Host) (db : SettingsDb) (target : Target) (os : List SettingOverride) : Prop :=
  match setBulk host db target os with
  | (some _, after) => after.stored = db.stored
  | (none, after) => after.stored = InterruptedWrites.run db.stored (writesOf target os)

/-- The `i`-th item is written. -/
def accepted (host : Host) (scope : SettingScope) (item : SettingOverride × ℕ) : Bool :=
  (refusal scope item.1).isNone && host.takes item.2

/-- The items before the first refused one. -/
def written (host : Host) (scope : SettingScope) (os : List SettingOverride) : List SettingOverride :=
  ((os.zipIdx.takeWhile (accepted host scope)).map Prod.fst)

section
variable {host : Host} {target : Target} {db : SettingsDb} {os : List SettingOverride}

theorem stored_write (o : SettingOverride) (now : ℤ) :
    (db.write target o now).stored = Function.update db.stored (target.slot o.key) (some o.value.serialized) := by
  funext slot
  have hkey : (newRow target o now).slot = target.slot o.key := rfl
  change (get SettingsRow.slot (upsert SettingsRow.slot db.rows (newRow target o now) (SettingsRow.merge o now))
    slot).map SettingsRow.value = _
  rw [get_upsert (merge_slot o now), hkey]
  by_cases hslot : slot = target.slot o.key
  · rw [if_pos hslot, hslot, Function.update_self]
    cases get SettingsRow.slot db.rows (target.slot o.key) <;> rfl
  · rw [if_neg hslot, Function.update_of_ne hslot]
    rfl

/-- The loop is an attempt to write the items. -/
theorem setBulkFrom_eq (host : Host) (target : Target) (os : List SettingOverride) : ∀ (i : ℕ) (db : SettingsDb),
    ((setBulkFrom host target i db os).2, (setBulkFrom host target i db os).1.isNone) =
      InterruptedWrites.attempt (accepted host target.scope)
        (fun db item => db.write target item.1 (host.now item.2)) db (os.zipIdx i) := by
  induction os with
  | nil => exact fun _ _ => rfl
  | cons o os ih =>
      intro i db
      rw [List.zipIdx_cons, InterruptedWrites.attempt, setBulkFrom, set, accepted]
      cases href : refusal target.scope o with
      | some e => rfl
      | none =>
          cases htakes : host.takes i with
          | false => rfl
          | true => exact ih (i + 1) (db.write target o (host.now i))

theorem stored_foldl (items : List (SettingOverride × ℕ)) : ∀ db : SettingsDb,
    (items.foldl (fun db item => db.write target item.1 (host.now item.2)) db).stored =
      InterruptedWrites.run db.stored (writesOf target (items.map Prod.fst)) := by
  induction items with
  | nil => exact fun _ => rfl
  | cons item items ih =>
      intro db
      rw [List.foldl_cons, ih, stored_write]
      rfl

/-- **A bulk call stores what stands before its first refused item, and succeeds when that is every item.** -/
theorem setBulk_eq (host : Host) (target : Target) (db : SettingsDb) (os : List SettingOverride) :
    (setBulk host db target os).2.stored =
        InterruptedWrites.run db.stored (writesOf target (written host target.scope os)) ∧
      ((setBulk host db target os).1 = none ↔ os.zipIdx.all (accepted host target.scope) = true) := by
  have heq := setBulkFrom_eq host target os 0 db
  rw [InterruptedWrites.attempt_eq] at heq
  obtain ⟨hdb, hok⟩ := Prod.mk.inj heq
  refine ⟨?_, ?_⟩
  · rw [setBulk, hdb, stored_foldl]
    rfl
  · rw [setBulk, ← Option.isNone_iff_eq_none, hok]

theorem written_of_all (h : os.zipIdx.all (accepted host target.scope) = true) :
    written host target.scope os = os := by
  rw [written, List.takeWhile_eq_self_iff.2 (List.all_eq_true.1 h)]
  exact List.zipIdx_map_fst ..

end

/-- **A bulk call is all or nothing if and only if every item is accepted, or the items before the first
refused one store what is stored already: the last value they have for a setting is its value.** -/
theorem setBulk_atomic_iff (host : Host) (db : SettingsDb) (target : Target) (os : List SettingOverride) :
    AllOrNothing host db target os ↔ os.zipIdx.all (accepted host target.scope) = true ∨
      ∀ slot v, InterruptedWrites.last (writesOf target (written host target.scope os)) slot = some v →
        db.stored slot = some v := by
  obtain ⟨hstored, hnone⟩ := setBulk_eq host target db os
  unfold AllOrNothing
  rcases hcall : setBulk host db target os with ⟨_ | e, after⟩
  · rw [hcall] at hstored hnone
    have hall := hnone.1 rfl
    rw [written_of_all hall] at hstored
    exact ⟨fun _ => .inl hall, fun _ => hstored⟩
  · rw [hcall] at hstored hnone
    have hnot : ¬ os.zipIdx.all (accepted host target.scope) = true := fun hall => nomatch hnone.2 hall
    rw [or_iff_right hnot, ← InterruptedWrites.run_eq_self_iff, ← hstored]

/-! ## A bad item behind a good one -/

def pgGlobal : Host where
  takes _ := true
  now _ := 0

/-- The push interval is stored, although the call rejects. -/
theorem pushInterval_kept : ¬ ∀ (host : Host) (db : SettingsDb) (target : Target) (os : List SettingOverride),
    AllOrNothing host db target os := by
  intro h
  have hkept : (setBulk pgGlobal ⟨[], List.nodup_nil⟩ ⟨1, .global, none⟩
      [⟨"pushInterval", .finite 30⟩, ⟨"maxMissedPushes", .finite 50⟩]).2.stored =
        (⟨[], List.nodup_nil⟩ : SettingsDb).stored :=
    h pgGlobal ⟨[], List.nodup_nil⟩ ⟨1, .global, none⟩
      [⟨"pushInterval", .finite 30⟩, ⟨"maxMissedPushes", .finite 50⟩]
  exact absurd (congrFun hkept ⟨1, .global, none, "pushInterval"⟩) (by decide)

end Obliance.Settings
