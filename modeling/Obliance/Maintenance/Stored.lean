import Mathlib.Data.List.Infix
import Obliance.Lib.Raising
import Obliance.Maintenance.Service

/-!
# Windows with their rules as stored (`services/maintenance.service.ts`)

The routes store the `recurrenceRule` of a body as it comes, and `rowToWindow` casts the column. `isWindowActive`
throws on a rule with a time that is no text, for one, and so does a query that comes to it. Each query reads the
rows in the order of the table.

* `isWindowActive` : `none` where it throws, by `isWindowActive_eq_none_iff`;
* `getEffectiveWindows`, `isInMaintenance`, `getInMaintenanceDeviceIds` : the three queries, for a test of a window
  that may throw;
* `candidates` : the windows both checks ask, `lookup_eq` and `batchCheck_eq`;
* `isWindowActive_stored`, `lookup_typed`, `batch_typed`, `effective_typed` : on rules that are what their interface
  says these are the queries of `Service`.
-/

namespace Obliance.Maintenance.Stored
open Obliance.Js Obliance.Groups Obliance.Devices Raising

/-! ## One window -/

section Rule
variable (host : Host)

/-- `startMinutes + rule.duration`: a sum of numbers, else the number that the joined texts are used as. The outer
`none` is the exception of a value without a text. -/
def endMinutes (startHour startMin : ℚ) (duration : Json) : Option (Option ℚ) :=
  let start := startMinutes host startHour startMin
  match duration with
  | .num q => some (start.bind fun m => host.double (m + q))
  | .null => some start
  | .bool b => some (start.bind fun m => host.double (m + if b then 1 else 0))
  | .infinity _ => some none
  | v => (v.toText host.text).map fun text => start.bind fun m => numberOf host (host.text m ++ String.ofList text)

/-- `days.length === 0` -/
def noDays : Json → Bool
  | .arr items => items.isEmpty
  | .obj fields =>
      match fields.lookup "length".toList with
      | some (.num q) => decide (q = 0)
      | _ => false
  | _ => false

def isDay (day : ℤ) : Json → Bool
  | .num q => decide (q = day)
  | _ => false

/-- `days.includes(day)`, of an array or of a text; nothing else has an `includes`. -/
def includesDay (day : ℤ) : Json → Option Bool
  | .arr items => some (items.any (isDay day))
  | .str s => some (decide ((toString day).toList <:+: s))
  | _ => none

/-- Whether the rule comes on the day. -/
def allowsDay (rule : Json) (day : ℤ) : Option Bool :=
  match rule.get "frequency" with
  | some (.str frequency) =>
      if frequency = "daily".toList then some true
      else if frequency = "weekly".toList then
        match rule.get "daysOfWeek" with
        | none => some false
        | some days => if !days.truthy || noDays days then some false else includesDay day days
      else some false
  | _ => some false

def isWindowActive (window : Window Json) (now : ℤ) : Option Bool :=
  match window.scheduleType with
  | .oneTime => some (decide (window.startsAt ≤ now) && decide (now ≤ window.endsAt))
  | .recurring =>
      let rule := window.recurrenceRule
      match rule.get "time", rule.get "duration" with
      | some time, some duration =>
          if time.truthy = false then some false
          else match time with
            | .str text =>
                match parseTime host (String.ofList text) with
                | none => some false
                | some (startHour, startMin) =>
                    (endMinutes host startHour startMin duration).bind fun stop =>
                      let inRange := isTimeInRange (getNowTimeInTz host window.timezone now)
                        (timeText host startHour startMin) (endText host stop)
                      (allowsDay rule (getNowDayOfWeekInTz host window.timezone now)).map (· && inRange)
            | _ => none
      | _, _ => some false

variable {host} {window : Window Json} {now day : ℤ}

/-- The days of a weekly rule that are neither missing nor in an array or a text. -/
def Unlisted (rule : Json) : Prop :=
  rule.get "frequency" = some (.str "weekly".toList) ∧
    ∃ days, rule.get "daysOfWeek" = some days ∧ days.truthy = true ∧ noDays days = false ∧
      (∀ items, days ≠ .arr items) ∧ ∀ s, days ≠ .str s

theorem includesDay_eq_none_iff {days : Json} :
    includesDay day days = none ↔ (∀ items, days ≠ .arr items) ∧ ∀ s, days ≠ .str s := by
  cases days <;> simp [includesDay]

theorem allowsDay_eq_none_iff {rule : Json} : allowsDay rule day = none ↔ Unlisted rule := by
  unfold allowsDay Unlisted
  split
  · rename_i frequency hfrequency
    rw [hfrequency, Option.some.injEq, Json.str.injEq]
    by_cases hdaily : frequency = "daily".toList
    · have hne : ¬ frequency = "weekly".toList := by
        rw [hdaily]
        decide
      simp [hdaily]
    · rw [if_neg hdaily]
      by_cases hweekly : frequency = "weekly".toList
      · rw [if_pos hweekly]
        cases hdays : rule.get "daysOfWeek" with
        | none => simp
        | some days =>
            dsimp only
            split
            · rename_i hempty
              rw [Bool.or_eq_true, Bool.not_eq_true'] at hempty
              refine iff_of_false (by simp) ?_
              rintro ⟨-, days', heq, htruthy, hsome, -⟩
              obtain rfl := Option.some.inj heq
              rw [htruthy, hsome] at hempty
              simp at hempty
            · rename_i hlisted
              rw [Bool.not_eq_true, Bool.or_eq_false_iff, Bool.not_eq_false'] at hlisted
              rw [includesDay_eq_none_iff]
              exact ⟨fun h => ⟨hweekly, days, rfl, hlisted.1, hlisted.2, h⟩, fun ⟨_, days', heq, _, _, h⟩ =>
                Option.some.inj heq ▸ h⟩
      · rw [if_neg hweekly]
        exact iff_of_false (by simp) fun h => hweekly h.1
  · rename_i hother
    refine iff_of_false (by simp) ?_
    rintro ⟨hweekly, -⟩
    exact hother _ hweekly

/-- **When it throws**: the rule has a duration and a time that is no text; or its time is read, and the duration has
no text or the days of a weekly rule are no list. -/
theorem isWindowActive_eq_none_iff : isWindowActive host window now = none ↔
    window.scheduleType = .recurring ∧ ∃ time duration, window.recurrenceRule.get "time" = some time ∧
      window.recurrenceRule.get "duration" = some duration ∧ time.truthy = true ∧
      ((∀ text, time ≠ .str text) ∨ ∃ text startHour startMin, time = .str text ∧
        parseTime host (String.ofList text) = some (startHour, startMin) ∧
        (endMinutes host startHour startMin duration = none ∨ Unlisted window.recurrenceRule)) := by
  unfold isWindowActive
  cases hschedule : window.scheduleType with
  | oneTime => simp
  | recurring =>
      dsimp only
      cases htime : window.recurrenceRule.get "time" with
      | none => simp
      | some time =>
          cases hduration : window.recurrenceRule.get "duration" with
          | none => simp
          | some duration =>
              dsimp only
              cases htruthy : time.truthy with
              | false => simp [htruthy]
              | true =>
                  simp only [Bool.true_eq_false, if_false, true_and, Option.some.injEq]
                  cases time with
                  | str text =>
                      cases hparse : parseTime host (String.ofList text) with
                      | none => simp [hparse]
                      | some start =>
                          obtain ⟨startHour, startMin⟩ := start
                          simp [hparse, Option.bind_eq_none_iff, allowsDay_eq_none_iff, htruthy]
                          cases endMinutes host startHour startMin duration <;> simp
                  | _ => simp [htruthy]

end Rule

/-! ## The queries -/

section Queries
variable {ρ : Type} (active : Window ρ → Option Bool) (db : MaintenanceTables ρ)

/-- `where({ scope_type, scope_id })` -/
def ownWindows (scopeType : MaintenanceScope) (scopeId : ℕ) : List (Window ρ) :=
  db.windows.filter fun w => decide (w.scopeType = scopeType) && decide (w.scopeId = some scopeId)

/-- `where({ scope_type: 'group' }).whereIn('scope_id', groupIds)` -/
def groupWindows (groupIds : List ℕ) : List (Window ρ) :=
  db.windows.filter fun w => decide (w.scopeType = .group) && groupIds.any fun g => w.scopeId = some g

def globalWindows : List (Window ρ) := db.windows.filter fun w => w.scopeType = .global

def enabled (disabledIds : List ℕ) (windows : List (Window ρ)) : List (Window ρ) :=
  windows.filter fun w => !decide (w.id ∈ disabledIds)

def getEffectiveWindows (scopeType : MaintenanceScope) (scopeId : ℕ) (groupId : Option ℕ) :
    Option (List (EffectiveWindow ρ)) :=
  let ancestorGroupIds := match groupId.filter (· ≠ 0) with
    | some g => getAncestorGroupIds db g
    | none => if scopeType = .group then getAncestorGroupIds db scopeId else []
  let disabledIds := getDisabledWindowIds db scopeType scopeId ancestorGroupIds
  let directlyDisabledIds := getDirectlyDisabledWindowIds db scopeType scopeId
  let groupAncestorIds := if scopeType = .group then ancestorGroupIds.filter (· ≠ scopeId)
    else ancestorGroupIds
  let locals := (ownWindows db scopeType scopeId).mapM fun w => (active w).map (localEntry scopeId w)
  let groups := (groupWindows db groupAncestorIds).mapM fun w => (active w).map
    (inheritedEntry disabledIds directlyDisabledIds .group w.scopeId (sourceGroupName db w.scopeId) w)
  let globals := (globalWindows db).mapM fun w => (active w).map
    (inheritedEntry disabledIds directlyDisabledIds .global none "Global" w)
  (locals.bind fun es => groups.map fun es' => es ++ es').bind fun es => globals.map fun es' => es ++ es'

/-- What `isInMaintenance` reads when nothing is cached. -/
def lookupMaintenance (scopeId : ℕ) (groupId : Option ℕ) : Option Bool :=
  let ancestorGroupIds := ancestorsOf db groupId
  let disabledIds := getDisabledWindowIds db .device scopeId ancestorGroupIds
  ((ownWindows db .device scopeId).anyM active).bind fun own =>
    if own then some true
    else (if ancestorGroupIds.isEmpty then some false
      else (enabled disabledIds (groupWindows db ancestorGroupIds)).anyM active).bind fun inherited =>
        if inherited then some true
        else (enabled disabledIds (globalWindows db)).anyM active

/-- Where it throws nothing is cached. -/
def isInMaintenance (now : ℤ) (cache : MaintenanceCache) (scopeId : ℕ) (groupId : Option ℕ) :
    Option (Bool × MaintenanceCache) :=
  match getCached cache (scopeId, groupId) now with
  | some value => some (value, cache)
  | none => (lookupMaintenance active db scopeId groupId).map fun value =>
      (value, Function.update cache (scopeId, groupId) (some (value, now)))

/-- The body of the loop over the devices, on what was fetched for all of them. -/
def batchCheck (closureRows : List ClosureRow) (disableRows : List DisableRow) (device : DeviceScope) : Option Bool :=
  let ancestorIds := (device.groupId.filter (· ≠ 0)).elim [] fun g =>
    (closureRows.filter fun r : ClosureRow => r.descendantId = g).map ClosureRow.ancestorId
  let deviceDisables := (disableRows.filter fun r =>
    decide (r.scopeType = .device) && decide (r.scopeId = device.id)).map DisableRow.windowId
  let groupDisables := ancestorIds.flatMap fun g => (disableRows.filter fun r : DisableRow =>
    decide (r.scopeType = .group) && decide (r.scopeId = g)).map DisableRow.windowId
  let disabledIds := deviceDisables ++ groupDisables
  let groups := if (device.groupId.filter (· ≠ 0)).isSome then groupWindows db ancestorIds else []
  ((ownWindows db .device device.id).anyM active).bind fun own =>
    if own then some true
    else ((enabled disabledIds groups).anyM active).bind fun inherited =>
      if inherited then some true
      else (enabled disabledIds (globalWindows db)).anyM active

def getInMaintenanceDeviceIds (devices : List DeviceScope) : Option (List ℕ) :=
  devices.foldlM (fun result device =>
    (batchCheck active db (fetchClosure db devices) (fetchDisables db devices) device).map fun inMaintenance =>
      if inMaintenance then JsSet.add result device.id else result) []

/-! ## The windows the checks ask -/

/-- In this order: the device's own windows, then those of the groups above it and the global ones that are not
disabled there. -/
def candidates (scopeId : ℕ) (groupId : Option ℕ) : List (Window ρ) :=
  let disabledIds := getDisabledWindowIds db .device scopeId (ancestorsOf db groupId)
  ownWindows db .device scopeId ++ enabled disabledIds (groupWindows db (ancestorsOf db groupId)) ++
    enabled disabledIds (globalWindows db)

/-- All windows over the device, disabled or not. -/
def windowsOver (scopeId : ℕ) (groupId : Option ℕ) : List (Window ρ) :=
  ownWindows db .device scopeId ++ groupWindows db (ancestorsOf db groupId) ++ globalWindows db

theorem candidates_subset (scopeId : ℕ) (groupId : Option ℕ) :
    candidates db scopeId groupId ⊆ windowsOver db scopeId groupId := by
  intro w hw
  simp only [candidates, windowsOver, enabled, List.mem_append, List.mem_filter] at hw ⊢
  exact hw.imp (Or.imp_right And.left) And.left

theorem windowsOver_subset (scopeId : ℕ) (groupId : Option ℕ) : windowsOver db scopeId groupId ⊆ db.windows := by
  intro w hw
  simp only [windowsOver, ownWindows, groupWindows, globalWindows, List.mem_append, List.mem_filter] at hw
  exact hw.elim (fun h => h.elim And.left And.left) And.left

theorem groupWindows_nil : groupWindows db [] = [] := by
  simp [groupWindows]

theorem lookup_eq (scopeId : ℕ) (groupId : Option ℕ) :
    lookupMaintenance active db scopeId groupId = (candidates db scopeId groupId).anyM active := by
  unfold lookupMaintenance candidates
  dsimp only
  rw [anyM_append, anyM_append]
  cases hancestors : ancestorsOf db groupId with
  | nil =>
      rw [groupWindows_nil]
      rcases (ownWindows db .device scopeId).anyM active with _ | _ | _ <;> rfl
  | cons g gs =>
      rw [if_neg (by simp)]
      rcases (ownWindows db .device scopeId).anyM active with _ | _ | _ <;> rfl

theorem batchCheck_eq {devices : List DeviceScope} {device : DeviceScope} (hd : device ∈ devices) :
    batchCheck active db (fetchClosure db devices) (fetchDisables db devices) device =
      (candidates db device.id device.groupId).anyM active := by
  have hgroups : (if (device.groupId.filter (· ≠ 0)).isSome then groupWindows db (ancestorsOf db device.groupId)
      else []) =
      groupWindows db (ancestorsOf db device.groupId) := by
    split
    · rfl
    · rename_i hnone
      rw [Bool.not_eq_true, Option.isSome_eq_false_iff, Option.isNone_iff_eq_none] at hnone
      rw [ancestorsOf, hnone, groupWindows_nil]
  have hancestors : ((device.groupId.filter (· ≠ 0)).elim [] fun g =>
      ((fetchClosure db devices).filter fun r : ClosureRow => r.descendantId = g).map ClosureRow.ancestorId) =
      ancestorsOf db device.groupId := by
    rw [← batch_ancestors db hd]
    cases device.groupId.filter (· ≠ 0) <;> rfl
  unfold batchCheck candidates
  simp only [hancestors, hgroups, enabled, mem_batch_disabled db hd]
  rw [anyM_append, anyM_append]
  rcases (ownWindows db .device device.id).anyM active with _ | _ | _ <;> rfl

/-- A list is answered when each of its devices is. -/
theorem batch_eq_none_iff {devices : List DeviceScope} : getInMaintenanceDeviceIds active db devices = none ↔
    ∃ device ∈ devices, (candidates db device.id device.groupId).anyM active = none := by
  have hfold : ∀ (ds : List DeviceScope) (result : List ℕ), (∀ d ∈ ds, d ∈ devices) →
      (ds.foldlM (fun result device =>
        (batchCheck active db (fetchClosure db devices) (fetchDisables db devices) device).map fun inMaintenance =>
          if inMaintenance then JsSet.add result device.id else result) result = none ↔
        ∃ device ∈ ds, (candidates db device.id device.groupId).anyM active = none) := by
    intro ds
    induction ds with
    | nil => intro result _; simp
    | cons d ds ih =>
        intro result hds
        rw [List.foldlM_cons, batchCheck_eq active db (hds d List.mem_cons_self)]
        cases hcheck : (candidates db d.id d.groupId).anyM active with
        | none => simp [hcheck]
        | some inMaintenance =>
            refine (ih _ fun d' hd' => hds d' (List.mem_cons_of_mem _ hd')).trans ?_
            simp [hcheck]
  exact hfold devices [] fun _ h => h

theorem mem_batch {devices : List DeviceScope} {ids : List ℕ}
    (h : getInMaintenanceDeviceIds active db devices = some ids) (id : ℕ) :
    id ∈ ids ↔ ∃ device ∈ devices, device.id = id ∧
      (candidates db device.id device.groupId).anyM active = some true := by
  have hfold : ∀ (ds : List DeviceScope) (result : List ℕ), (∀ d ∈ ds, d ∈ devices) →
      ds.foldlM (fun result device =>
        (batchCheck active db (fetchClosure db devices) (fetchDisables db devices) device).map fun inMaintenance =>
          if inMaintenance then JsSet.add result device.id else result) result = some ids →
        (id ∈ ids ↔ id ∈ result ∨ ∃ device ∈ ds, device.id = id ∧
          (candidates db device.id device.groupId).anyM active = some true) := by
    intro ds
    induction ds with
    | nil =>
        intro result _ heq
        obtain rfl := Option.some.inj heq
        simp
    | cons d ds ih =>
        intro result hds heq
        rw [List.foldlM_cons, batchCheck_eq active db (hds d List.mem_cons_self)] at heq
        obtain ⟨result', hcheck, heq⟩ := Option.bind_eq_some_iff.1 heq
        obtain ⟨inMaintenance, hanswer, rfl⟩ := Option.map_eq_some_iff.1 hcheck
        rw [ih _ (fun d' hd' => hds d' (List.mem_cons_of_mem _ hd')) heq]
        rw [List.exists_mem_cons_iff, hanswer]
        cases inMaintenance with
        | false => simp
        | true =>
            rw [if_pos rfl, JsSet.mem_add, or_assoc]
            simp only [and_true, eq_comm]
  have := hfold devices [] (fun _ h => h) h
  simpa using this

/-! ## The list of windows -/

/-- A list is not there where something throws, and else has an entry that says the device is in maintenance where it
should. -/
def Lists (entries : Option (List (EffectiveWindow ρ))) (throws silenced : Prop) : Prop :=
  (entries = none ↔ throws) ∧
    ∀ es, entries = some es → ((∃ e ∈ es, e.isActiveNow = true ∧ e.isDisabledHere = false) ↔ silenced)

theorem Lists.append {a b : Option (List (EffectiveWindow ρ))} {throws silenced throws' silenced' : Prop}
    (ha : Lists a throws silenced) (hb : Lists b throws' silenced') :
    Lists (a.bind fun es => b.map fun es' => es ++ es') (throws ∨ throws') (silenced ∨ silenced') := by
  unfold Lists
  rw [← ha.1, ← hb.1]
  cases a with
  | none => simp
  | some es =>
      cases b with
      | none => simp
      | some es' =>
          rw [← ha.2 es rfl, ← hb.2 es' rfl]
          simp [or_and_right, exists_or]

/-- The entries of some windows. -/
theorem lists_mapM (f : Window ρ → Bool → EffectiveWindow ρ) (shown : Window ρ → Prop)
    (hf : ∀ w isActive, ((f w isActive).isActiveNow = true ∧ (f w isActive).isDisabledHere = false) ↔
      isActive = true ∧ shown w) (l : List (Window ρ)) :
    Lists (l.mapM fun w => (active w).map (f w)) (∃ w ∈ l, active w = none)
      (∃ w ∈ l, shown w ∧ active w = some true) := by
  refine ⟨by simp only [mapM_eq_none_iff, Option.map_eq_none_iff], fun es hes => ?_⟩
  simp only [mem_of_mapM hes, Option.map_eq_some_iff]
  constructor
  · rintro ⟨e, ⟨w, hw, isActive, hactive, rfl⟩, he⟩
    obtain ⟨rfl, hshown⟩ := (hf w isActive).1 he
    exact ⟨w, hw, hshown, hactive⟩
  · rintro ⟨w, hw, hshown, hactive⟩
    exact ⟨f w true, ⟨w, hw, true, hactive, rfl⟩, (hf w true).2 ⟨rfl, hshown⟩⟩

/-- **The list of a device** is there when no window over the device throws, and then says what the active
candidates say. -/
theorem lists_effective (scopeId : ℕ) (groupId : Option ℕ) :
    Lists (getEffectiveWindows active db .device scopeId groupId)
      (∃ w ∈ windowsOver db scopeId groupId, active w = none)
      (∃ w ∈ candidates db scopeId groupId, active w = some true) := by
  have hlocal := lists_mapM active (localEntry scopeId) (fun _ => True)
    (fun w isActive => by simp [localEntry]) (ownWindows db .device scopeId)
  have hinherited (source : WindowSource) (name : Window ρ → String) (sourceId : Window ρ → Option ℕ) :=
    lists_mapM active (fun w => inheritedEntry (getDisabledWindowIds db .device scopeId (ancestorsOf db groupId))
        (getDirectlyDisabledWindowIds db .device scopeId) source (sourceId w) (name w) w)
      (fun w => w.id ∉ getDisabledWindowIds db .device scopeId (ancestorsOf db groupId))
      fun w isActive => by simp [inheritedEntry]
  have hall := (hlocal.append (hinherited .group (fun w => sourceGroupName db w.scopeId) Window.scopeId
    (groupWindows db (ancestorsOf db groupId)))).append
      (hinherited .global (fun _ => "Global") (fun _ => none) (globalWindows db))
  have hlist : getEffectiveWindows active db .device scopeId groupId =
      (((ownWindows db .device scopeId).mapM fun w => (active w).map (localEntry scopeId w)).bind fun es =>
        ((groupWindows db (ancestorsOf db groupId)).mapM fun w => (active w).map
          (inheritedEntry (getDisabledWindowIds db .device scopeId (ancestorsOf db groupId))
            (getDirectlyDisabledWindowIds db .device scopeId) .group w.scopeId (sourceGroupName db w.scopeId) w)).map
        fun es' => es ++ es').bind fun es =>
          ((globalWindows db).mapM fun w => (active w).map
            (inheritedEntry (getDisabledWindowIds db .device scopeId (ancestorsOf db groupId))
              (getDirectlyDisabledWindowIds db .device scopeId) .global none "Global" w)).map fun es' => es ++ es' := by
    unfold getEffectiveWindows ancestorsOf
    cases groupId.filter (· ≠ 0) <;> rfl
  rw [hlist]
  have hthrows : (∃ w ∈ windowsOver db scopeId groupId, active w = none) ↔
      ((∃ w ∈ ownWindows db .device scopeId, active w = none) ∨
        ∃ w ∈ groupWindows db (ancestorsOf db groupId), active w = none) ∨ ∃ w ∈ globalWindows db, active w = none := by
    simp only [windowsOver, List.mem_append, or_and_right, exists_or]
  have hsilenced : (∃ w ∈ candidates db scopeId groupId, active w = some true) ↔
      ((∃ w ∈ ownWindows db .device scopeId, True ∧ active w = some true) ∨
        ∃ w ∈ groupWindows db (ancestorsOf db groupId),
          w.id ∉ getDisabledWindowIds db .device scopeId (ancestorsOf db groupId) ∧ active w = some true) ∨
      ∃ w ∈ globalWindows db, w.id ∉ getDisabledWindowIds db .device scopeId (ancestorsOf db groupId) ∧
        active w = some true := by
    simp only [candidates, enabled, List.mem_append, List.mem_filter, Bool.not_eq_true', decide_eq_false_iff_not,
      or_and_right, exists_or, true_and, and_assoc]
  rw [hthrows, hsilenced]
  exact hall

end Queries

/-! ## Rules that are what their interface says -/

def frequencyText : Frequency → String
  | .daily => "daily"
  | .weekly => "weekly"

def ruleJson (rule : MaintenanceRecurrenceRule) : Json :=
  .obj ((rule.frequency.map fun f => ("frequency".toList, Json.str (frequencyText f).toList)).toList ++
    (rule.daysOfWeek.map fun days => ("daysOfWeek".toList, Json.arr (days.map fun d : ℤ => Json.num d))).toList ++
    (rule.time.map fun time => ("time".toList, Json.str time.toList)).toList ++
    (rule.duration.map fun q => ("duration".toList, Json.num q)).toList)

def storedWindow (w : MaintenanceWindow) : Window Json := { w with recurrenceRule := ruleJson w.recurrenceRule }

section Typed
variable (host : Host) (now : ℤ) (db : MaintenanceDb)

theorem get_ruleJson (rule : MaintenanceRecurrenceRule) :
    (ruleJson rule).get "frequency" = rule.frequency.map (fun f => .str (frequencyText f).toList) ∧
      (ruleJson rule).get "daysOfWeek" = rule.daysOfWeek.map (fun days => Json.arr (days.map fun d : ℤ => Json.num d)) ∧
      (ruleJson rule).get "time" = rule.time.map (fun time => .str time.toList) ∧
      (ruleJson rule).get "duration" = rule.duration.map .num := by
  obtain ⟨frequency, daysOfWeek, time, duration⟩ := rule
  cases frequency <;> cases daysOfWeek <;> cases time <;> cases duration <;> exact ⟨rfl, rfl, rfl, rfl⟩

/-- The days of a rule, where it has a frequency. -/
theorem allowsDay_ruleJson (rule : MaintenanceRecurrenceRule) (day : ℤ) :
    allowsDay (ruleJson rule) day = some (match rule.frequency with
      | some .daily => true
      | some .weekly => decide (day ∈ rule.daysOfWeek.getD [])
      | none => false) := by
  obtain ⟨hfrequency, hdays, -, -⟩ := get_ruleJson rule
  have hweekly : ¬ "weekly".toList = "daily".toList := by decide
  unfold allowsDay
  rw [hfrequency, hdays]
  cases rule.frequency with
  | none => rfl
  | some frequency =>
      cases frequency with
      | daily => exact if_pos rfl
      | weekly =>
          simp only [Option.map_some, frequencyText, if_neg hweekly, if_true]
          cases rule.daysOfWeek with
          | none => simp
          | some days =>
              have hany : ((days.map fun d : ℤ => Json.num d).any (isDay day)) = decide (day ∈ days) := by
                rw [List.any_map, Bool.eq_iff_iff, List.any_eq_true, decide_eq_true_eq]
                simp [isDay]
              cases days with
              | nil => rfl
              | cons d ds =>
                  simp only [Option.map_some, Json.truthy, noDays, List.map_cons, List.isEmpty_cons]
                  exact congrArg some hany

/-- **On a rule that is what its interface says the test throws nothing.** -/
theorem isWindowActive_stored (w : MaintenanceWindow) :
    isWindowActive host (storedWindow w) now = some (Maintenance.isWindowActive host w now) := by
  obtain ⟨-, -, htime, hduration⟩ := get_ruleJson w.recurrenceRule
  unfold isWindowActive Maintenance.isWindowActive
  simp only [storedWindow, htime, hduration, allowsDay_ruleJson]
  cases w.scheduleType with
  | oneTime => rfl
  | recurring =>
      dsimp only
      cases w.recurrenceRule.time with
      | none => rfl
      | some time =>
          cases w.recurrenceRule.duration with
          | none =>
              dsimp only [Option.map_some, Option.map_none]
              cases Option.filter (fun x => decide (x ≠ "")) (some time) <;> rfl
          | some duration =>
              simp only [Option.map_some, Json.truthy, String.ofList_toList]
              by_cases hempty : time = ""
              · subst hempty
                rfl
              · have htext : (!time.toList.isEmpty) = true := by simpa using hempty
                rw [htext, if_neg (by decide), Option.filter_some, if_pos (by simpa using hempty)]
                dsimp only
                cases parseTime host time with
                | none => rfl
                | some start =>
                    simp only [endMinutes, Option.bind_some, ruleRange]
                    cases w.recurrenceRule.frequency with
                    | none => rfl
                    | some frequency =>
                        cases frequency with
                        | daily => rfl
                        | weekly =>
                            dsimp only
                            cases w.recurrenceRule.daysOfWeek.getD [] with
                            | nil => rfl
                            | cons d ds => rfl

/-! Where no test throws the queries are those of `Service`. -/

theorem any_candidates (act : MaintenanceWindow → Bool) (scopeId : ℕ) (groupId : Option ℕ) :
    (candidates db scopeId groupId).any act = db.windows.any fun w => Applies db scopeId groupId w && act w := by
  unfold Applies
  rw [← any_filter_or]
  simp only [candidates, ownWindows, groupWindows, globalWindows, enabled, List.any_append, List.filter_filter,
    Bool.and_comm, Bool.and_left_comm]

theorem lookup_typed (scopeId : ℕ) (groupId : Option ℕ) :
    lookupMaintenance (fun w => some (Maintenance.isWindowActive host w now)) db scopeId groupId =
      some (Maintenance.lookupMaintenance host now db scopeId groupId) := by
  rw [lookup_eq, anyM_some, any_candidates, lookup_eq_any]

theorem batch_typed (devices : List DeviceScope) :
    getInMaintenanceDeviceIds (fun w => some (Maintenance.isWindowActive host w now)) db devices =
      some (Maintenance.getInMaintenanceDeviceIds host now db devices) := by
  have hfold : ∀ (ds : List DeviceScope) (result : List ℕ), (∀ d ∈ ds, d ∈ devices) →
      (ds.foldlM (fun result device => (batchCheck (fun w => some (Maintenance.isWindowActive host w now)) db
          (fetchClosure db devices) (fetchDisables db devices) device).map fun inMaintenance =>
            if inMaintenance then JsSet.add result device.id else result) result) =
        some (JsSet.addAll result ds (Maintenance.batchCheck host now db.windows (fetchClosure db devices)
          (fetchDisables db devices)) DeviceScope.id) := by
    intro ds
    induction ds with
    | nil => exact fun result _ => rfl
    | cons d ds ih =>
        intro result hds
        have hd := hds d List.mem_cons_self
        rw [List.foldlM_cons, batchCheck_eq _ db hd, anyM_some, any_candidates, ← batchCheck_eq_any host now db hd]
        exact ih _ fun d' hd' => hds d' (List.mem_cons_of_mem _ hd')
  exact hfold devices [] fun _ h => h

theorem effective_typed (scopeType : MaintenanceScope) (scopeId : ℕ) (groupId : Option ℕ) :
    getEffectiveWindows (fun w => some (Maintenance.isWindowActive host w now)) db scopeType scopeId groupId =
      some (Maintenance.getEffectiveWindows host now db scopeType scopeId groupId) := by
  unfold getEffectiveWindows
  simp only [Option.map_some, mapM_some, Option.bind_some]
  rfl

end Typed

end Obliance.Maintenance.Stored
