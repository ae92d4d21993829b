import Obliance.Lib.Pool
import Obliance.Schedules.Ticks

/-!
# How often an occurrence is dispatched (`services/schedule.service.ts`)

The due test, the look at what is in flight and the write of the clock are statements of their own. A second
pass over a row is harmless as long as the look shows it what the first has made, and finds it done.

* `Tick.toCreate` : what a pass has still to make, its look behind it;
* `ReadsApart` : no pass looks at a device another one has still to dispatch to, or has dispatched to with an
  execution that is over;
* `OnceInv`, `OnceInv.step` : nothing is made, or to be made, twice, and a statement keeps that;
* `occurrence_dispatched_once` : in runs whose looks are all apart, no occurrence makes two executions for a
  device.
-/

namespace Obliance.Schedules
open GuardedRun KeyedTable Pool Obliance.Js Obliance.Commands
open Obliance.Scenario (CronParser everyMinute)

variable (host : ScheduleHost)

/-- The devices of a list that pass the gates. -/
def takes (schedule : ScheduleRow) (devices : List ScheduleDevice) : List ℕ :=
  (devices.filter fun d => decide (mayRun host schedule d = some true)).map ScheduleDevice.id

/-- The executions a list of devices stands for. -/
def toCreate (schedule : ScheduleRow) (now : ℤ) (devices : List ScheduleDevice) : List Creation :=
  (takes host schedule devices).flatMap (creations schedule now)

def Tick.toCreate (t : Tick) : List Creation :=
  match t.phase with
  | .devices schedule devices _ => Schedules.toCreate host schedule t.now devices
  | _ => []

def ScheduleState.toCreate (s : ScheduleState) : List Creation := s.ticks.flatMap (Tick.toCreate host)

/-- A pass looks at what is in flight. -/
def LooksApart (s : ScheduleState) (now : ℤ) : TickPhase → Prop
  | .inFlight schedule devices _ =>
      ∀ id ∈ takes host schedule devices, isInFlight s.tables.executions schedule id = false →
        ∀ c ∈ creations schedule now id, c ∉ s.created ∧ c ∉ s.toCreate host
  | _ => True

/-- **The steps that dispatch once.** -/
def ReadsApart (s : ScheduleState) : ScheduleOp → Prop
  | .run i => ∀ t ∈ s.ticks[i]?, LooksApart host s t.now t.phase
  | _ => True

instance (s : ScheduleState) (now : ℤ) : (phase : TickPhase) → Decidable (LooksApart host s now phase)
  | .inFlight schedule devices _ => inferInstanceAs (Decidable (∀ id ∈ takes host schedule devices,
      isInFlight s.tables.executions schedule id = false →
        ∀ c ∈ creations schedule now id, c ∉ s.created ∧ c ∉ s.toCreate host))
  | .read | .rows _ | .targets _ _ _ | .devices _ _ _ | .disable _ _ => .isTrue trivial

instance decidableReadsApart (s : ScheduleState) : (op : ScheduleOp) → Decidable (ReadsApart host s op)
  | .run i => inferInstanceAs (Decidable (∀ t ∈ s.ticks[i]?, LooksApart host s t.now t.phase))
  | .tick _ | .throws _ | .others _ | .restart => .isTrue trivial

variable {host} {s s' : ScheduleState} {i : ℕ} {schedule : ScheduleRow} {now : ℤ}

/-! ## What a look takes on -/

theorem nodup_creations (schedule : ScheduleRow) (now : ℤ) (id : ℕ) : (creations schedule now id).Nodup := by
  refine (List.nodup_dedup _).map ?_
  intro a b h
  exact congrArg Creation.occurrence h

theorem deviceId_of_mem {id : ℕ} {c : Creation} (h : c ∈ creations schedule now id) : c.deviceId = id := by
  obtain ⟨occurrence, -, rfl⟩ := List.mem_map.1 h
  rfl

theorem takes_sublist {devices devices' : List ScheduleDevice} (h : devices.Sublist devices') :
    (takes host schedule devices).Sublist (takes host schedule devices') := (h.filter _).map _

theorem nodup_toCreate {devices : List ScheduleDevice} (h : (devices.map ScheduleDevice.id).Nodup) :
    (toCreate host schedule now devices).Nodup := by
  have hids : (takes host schedule devices).Nodup := h.sublist (List.filter_sublist.map _)
  refine List.nodup_flatMap.2 ⟨fun id _ => nodup_creations schedule now id, hids.imp ?_⟩
  intro a b hab c ha hb
  exact hab ((deviceId_of_mem ha).symm.trans (deviceId_of_mem hb))

theorem toCreate_cons (device : ScheduleDevice) (devices : List ScheduleDevice) :
    toCreate host schedule now (device :: devices) =
      (if mayRun host schedule device = some true then creations schedule now device.id else []) ++
        toCreate host schedule now devices := by
  unfold toCreate takes
  rw [List.filter_cons]
  split <;> simp_all

/-- The devices of a schedule are rows of a table with a key. -/
theorem nodup_targetDevices {groups : TargetDb} {devices : List ScheduleDevice}
    (h : s.targetDevices host.toHost schedule groups = some devices) : (devices.map ScheduleDevice.id).Nodup := by
  obtain ⟨rows, hrows, rfl⟩ := Option.map_eq_some_iff.1 h
  have hids : (rows.map s.scheduleDevice).map ScheduleDevice.id = rows.map TargetDevice.id := by
    rw [List.map_map]
    rfl
  rw [hids]
  exact s.tables.devices_keyed.sublist (((resolveTargetDevices_sublist hrows).trans List.filter_sublist).map _)

/-! ## The count of an execution -/

/-- How often an execution is made or still to be made. -/
def ScheduleState.claims (host : ScheduleHost) (s : ScheduleState) (c : Creation) : ℕ :=
  s.created.count c + (s.toCreate host).count c

/-- A pass goes on; what it makes leaves its list. -/
theorem claims_setPhase {t : Tick} {made : List Creation} (ht : s.ticks[i]? = some t) (phase : TickPhase)
    (hticks : s'.ticks = s.ticks.set i ⟨t.now, phase⟩) (hcreated : s'.created = s.created ++ made) (c : Creation) :
    s'.claims host c + (t.toCreate host).count c =
      s.claims host c + made.count c + (Tick.toCreate host ⟨t.now, phase⟩).count c := by
  have hset := count_flatMap_set ht ⟨t.now, phase⟩ (Tick.toCreate host) c
  unfold ScheduleState.claims ScheduleState.toCreate
  rw [hticks, hcreated, List.count_append]
  omega

/-! ## Invariant -/

def Tick.Distinct (t : Tick) : Prop :=
  match t.phase with
  | .inFlight _ devices _ => (devices.map ScheduleDevice.id).Nodup
  | _ => True

/-- Nothing is made or to be made twice. -/
structure OnceInv (host : ScheduleHost) (s : ScheduleState) : Prop where
  once : ∀ c, s.claims host c ≤ 1
  distinct : ∀ t ∈ s.ticks, t.Distinct

section Inv
variable {t : Tick} {phase : TickPhase} {made : List Creation}

theorem OnceInv.distinct_set (h : OnceInv host s) (hphase : Tick.Distinct ⟨t.now, phase⟩)
    (hticks : s'.ticks = s.ticks.set i ⟨t.now, phase⟩) : ∀ t ∈ s'.ticks, t.Distinct := by
  intro u hu
  rw [hticks] at hu
  obtain hu | rfl := List.mem_or_eq_of_mem_set hu
  · exact h.distinct u hu
  · exact hphase

/-- A pass goes on and makes no more than it had taken on. -/
theorem OnceInv.goesOn (made : List Creation) (h : OnceInv host s) (ht : s.ticks[i]? = some t)
    (hticks : s'.ticks = s.ticks.set i ⟨t.now, phase⟩) (hcreated : s'.created = s.created ++ made)
    (hphase : Tick.Distinct ⟨t.now, phase⟩)
    (hless : (made ++ Tick.toCreate host ⟨t.now, phase⟩).Sublist (t.toCreate host)) : OnceInv host s' := by
  refine ⟨fun c => ?_, h.distinct_set hphase hticks⟩
  have hclaims : s'.claims host c + (t.toCreate host).count c = _ := claims_setPhase ht phase hticks hcreated c
  have hcount := hless.count_le c
  have honce := h.once c
  rw [List.count_append] at hcount
  omega

/-- A device a look takes on is one of the list, with nothing in flight. -/
theorem mem_takes_free {devices : List ScheduleDevice} {executions : List ExecutionRow} {id : ℕ}
    (h : id ∈ takes host schedule (devices.filter fun d => !isInFlight executions schedule d.id)) :
    id ∈ takes host schedule devices ∧ isInFlight executions schedule id = false := by
  refine ⟨(takes_sublist List.filter_sublist).subset h, ?_⟩
  obtain ⟨d, hd, rfl⟩ := List.mem_map.1 h
  have hfree := (List.mem_filter.1 (List.mem_of_mem_filter hd)).2
  simpa using hfree

/-- A pass looks at what is in flight, apart from the others. -/
theorem OnceInv.look {devices : List ScheduleDevice} {rest : List ScheduleRow} (h : OnceInv host s)
    (ht : s.ticks[i]? = some ⟨now, .inFlight schedule devices rest⟩)
    (hapart : LooksApart host s now (.inFlight schedule devices rest)) :
    OnceInv host (s.setPhase i now (.devices schedule
      (devices.filter fun d => !isInFlight s.tables.executions schedule d.id) rest)) := by
  have hdistinct : (devices.map ScheduleDevice.id).Nodup := h.distinct _ (List.mem_of_getElem? ht)
  let free := devices.filter fun d => !isInFlight s.tables.executions schedule d.id
  have hphase : Tick.Distinct ⟨now, .devices schedule free rest⟩ := trivial
  have hticks : (s.setPhase i now (.devices schedule free rest)).ticks =
      s.ticks.set i ⟨now, .devices schedule free rest⟩ := rfl
  refine ⟨fun c => ?_, h.distinct_set (t := ⟨now, .inFlight schedule devices rest⟩) hphase hticks⟩
  have hclaims : (s.setPhase i now (.devices schedule free rest)).claims host c + 0 =
      s.claims host c + 0 + (toCreate host schedule now free).count c :=
    claims_setPhase ht _ hticks (List.append_nil _).symm c
  have hnew : (toCreate host schedule now free).count c ≤ 1 :=
    List.nodup_iff_count_le_one.1 (nodup_toCreate (hdistinct.sublist (List.filter_sublist.map _))) c
  have honce := h.once c
  show (s.setPhase i now (.devices schedule free rest)).claims host c ≤ 1
  by_cases hmem : c ∈ toCreate host schedule now free
  · obtain ⟨id, hid, hc⟩ := List.mem_flatMap.1 hmem
    obtain ⟨hid, hfree⟩ := mem_takes_free hid
    obtain ⟨hmade, hclaimed⟩ := hapart id hid hfree c hc
    have hzero : s.claims host c = 0 := by
      rw [ScheduleState.claims, List.count_eq_zero_of_not_mem hmade, List.count_eq_zero_of_not_mem hclaimed]
    omega
  · have hzero := List.count_eq_zero_of_not_mem hmem
    omega

/-- A pass deals with the next device of its list. -/
theorem OnceInv.device {device : ScheduleDevice} {devices : List ScheduleDevice} {rest : List ScheduleRow}
    {runs : Bool} (h : OnceInv host s) (ht : s.ticks[i]? = some ⟨now, .devices schedule (device :: devices) rest⟩)
    (hruns : mayRun host schedule device = some runs) :
    OnceInv host ((if runs then s.dispatchExecution schedule now device else s).setPhase i now
      (.devices schedule devices rest)) := by
  have hold : Tick.toCreate host ⟨now, .devices schedule (device :: devices) rest⟩ = _ :=
    toCreate_cons device devices
  rw [hruns] at hold
  have hskip : (toCreate host schedule now devices).Sublist
      (Tick.toCreate host ⟨now, .devices schedule (device :: devices) rest⟩) := by
    rw [hold]
    exact List.sublist_append_right _ _
  cases runs with
  | false => exact h.goesOn [] ht rfl (List.append_nil _).symm trivial hskip
  | true =>
      rw [if_pos rfl]
      unfold ScheduleState.dispatchExecution
      split
      · refine h.goesOn (creations schedule now device.id) ht rfl rfl trivial ?_
        rw [hold]
        exact List.Sublist.refl _
      · exact h.goesOn [] ht rfl (List.append_nil _).symm trivial hskip

theorem OnceInv.runTick (h : OnceInv host s) (hapart : ReadsApart host s (.run i)) (hs : runTick host s i = some s') :
    OnceInv host s' := by
  obtain ⟨⟨now, phase⟩, ht, hs⟩ := Option.bind_eq_some_iff.1 hs
  have hapart : LooksApart host s now phase := hapart _ ht
  cases phase with
  | read => exact Option.some.inj hs ▸ h.goesOn [] ht rfl (List.append_nil _).symm trivial (List.nil_sublist _)
  | rows rows =>
      cases rows with
      | nil => cases hs
      | cons schedule rest =>
          exact Option.some.inj hs ▸ h.goesOn [] ht rfl (List.append_nil _).symm trivial (List.nil_sublist _)
  | targets schedule groups rest =>
      obtain ⟨devices, hdevices, rfl⟩ := Option.map_eq_some_iff.1 hs
      exact h.goesOn [] ht rfl (List.append_nil _).symm (nodup_targetDevices hdevices) (List.nil_sublist _)
  | inFlight schedule devices rest => exact Option.some.inj hs ▸ h.look ht hapart
  | devices schedule devices rest =>
      cases devices with
      | nil =>
          dsimp only at hs
          split at hs
          · cases hs
          · rw [← Option.some.inj hs]
            split <;> exact h.goesOn [] ht rfl (List.append_nil _).symm trivial (List.nil_sublist _)
      | cons device devices =>
          obtain ⟨runs, hruns, rfl⟩ := Option.map_eq_some_iff.1 hs
          exact h.device ht hruns
  | disable schedule rest =>
      exact Option.some.inj hs ▸ h.goesOn [] ht rfl (List.append_nil _).symm trivial (List.nil_sublist _)

theorem OnceInv.throwTick (h : OnceInv host s) (hs : throwTick s i = some s') : OnceInv host s' := by
  obtain ⟨⟨now, phase⟩, ht, hs⟩ := Option.bind_eq_some_iff.1 hs
  have hgone : ∀ rows, some (s.setPhase i now (.rows rows)) = some s' → OnceInv host s' := fun rows heq =>
    Option.some.inj heq ▸ h.goesOn [] ht rfl (List.append_nil _).symm trivial (List.nil_sublist _)
  cases phase with
  | rows rows =>
      cases rows with
      | nil => cases hs
      | cons schedule rest => exact hgone _ hs
  | read | targets | inFlight | devices | disable => exact hgone _ hs

theorem OnceInv.step {op : ScheduleOp} (h : OnceInv host s) (hapart : ReadsApart host s op)
    (hs : scheduleStep host s op = some s') : OnceInv host s' := by
  cases op with
  | tick now =>
      cases hs
      refine ⟨fun c => ?_, ?_⟩
      · have hsame : ScheduleState.toCreate host { s with ticks := s.ticks ++ [⟨now, .read⟩] } = s.toCreate host := by
          simp [ScheduleState.toCreate, Tick.toCreate]
        rw [ScheduleState.claims, hsame]
        exact h.once c
      · intro t ht
        rcases List.mem_append.1 ht with ht | ht
        · exact h.distinct t ht
        · rw [List.mem_singleton.1 ht]
          trivial
  | run i => exact h.runTick hapart hs
  | throws i => exact h.throwTick hs
  | others tables => exact Option.some.inj hs ▸ ⟨h.once, h.distinct⟩
  | restart =>
      cases hs
      refine ⟨fun c => ?_, by simp⟩
      show s.created.count c + 0 ≤ 1
      exact (Nat.le_add_right _ _).trans (h.once c)

end Inv

theorem onceInv_init (hticks : s.ticks = []) (hcreated : s.created = []) : OnceInv host s := by
  refine ⟨fun c => ?_, by simp [hticks]⟩
  simp [ScheduleState.claims, ScheduleState.toCreate, hticks, hcreated]

theorem OnceInv.createsOnce (h : OnceInv host s) : CreatesOnce s := by
  rw [CreatesOnce, List.nodup_iff_count_le_one]
  intro c
  exact (Nat.le_add_right _ _).trans (h.once c)

/-- **When no pass looks at a device that another one has still to dispatch to, or has dispatched to with an
execution that is over, each occurrence makes at most one execution for a device.** -/
theorem occurrence_dispatched_once (host : ScheduleHost) {s : ScheduleState}
    (h : Reach (scheduleMachine host) (ReadsApart host) s) : CreatesOnce s := by
  have hinv : OnceInv host s := by
    refine h.invariant (I := OnceInv host) ?_ fun s op s' hI hapart hs => hI.step hapart hs
    rintro s ⟨hticks, hcreated⟩
    exact onceInv_init hticks hcreated
  exact hinv.createsOnce

/-! ## A schedule on two devices -/

def minuteHost : ScheduleHost where
  toHost := plainHost
  parser := everyMinute
  validate := fun expression => expression = "* * * * *"
  text := fun _ => ""

/-- Every minute on every device, due at 60000. -/
def minuteSchedule : ScheduleRow where
  id := 2
  tenantId := 1
  scriptId := 3
  targetType := "all"
  targetIds := .array []
  cronExpression := some "* * * * *"
  fireOnceAt := none
  timezone := "UTC"
  catchupEnabled := true
  catchupMax := 3
  runConditions := []
  bypassPrivacyMode := false
  skipIfInFlight := true
  enabled := true
  lastRunAt := none
  nextRunAt := some 60000

/-- The schedule after its last pass, with the executions it made. -/
def minuteTables (lastRunAt : Option ℤ) (nextRunAt : ℤ) (executions : List ExecutionRow) : ScheduleTables where
  schedules := [{ minuteSchedule with lastRunAt := lastRunAt, nextRunAt := some nextRunAt }]
  scripts := [⟨3, some 1, []⟩]
  executions := executions
  db := twoDevices
  privacyModeEnabled := fun _ => false
  column := fun _ _ => .null
  schedules_keyed := List.nodup_singleton 2
  devices_keyed := by decide

def minuteBoot : ScheduleState := ⟨minuteTables none 60000 [], [], []⟩

theorem minuteBoot_init : (scheduleMachine minuteHost).init minuteBoot := ⟨rfl, rfl⟩

/-- The `i`-th pass, over one due schedule that runs on `n` devices. -/
def wholePass (now : ℤ) (i n : ℕ) : List ScheduleOp := .tick now :: List.replicate (5 + n) (.run i)

/-- After a minute the agent of device 5 is done, device 1000 still runs and is skipped. -/
def twoMinutes : List ScheduleOp :=
  wholePass 60000 0 2 ++
    .others (minuteTables (some 60000) 120000 [⟨some 2, 5, .success⟩, ⟨some 2, 1000, .running⟩]) ::
      wholePass 120000 1 1

theorem dispatched_once_a_minute : ∃ s ∈ (scheduleMachine minuteHost).exec minuteBoot twoMinutes,
    s.created = [⟨2, 60000, 5⟩, ⟨2, 60000, 1000⟩, ⟨2, 120000, 5⟩] ∧ CreatesOnce s := by
  refine ⟨_, rfl, by decide, occurrence_dispatched_once minuteHost ?_⟩
  exact (Reach.start minuteBoot_init).of_exec twoMinutes (by decide) rfl

/-- The dispatch to device 1000 throws, and device 5 is done before the next pass. -/
def thrownMidway : List ScheduleOp :=
  .tick 60000 :: List.replicate 5 (.run 0) ++ .throws 0 ::
    .others (minuteTables none 60000 [⟨some 2, 5, .success⟩]) :: wholePass 120000 1 2

theorem dispatched_again_after_throw : ¬ ∀ s, Reach (scheduleMachine minuteHost) anyStep s → CreatesOnce s :=
  not_forall_reach minuteBoot_init thrownMidway ⟨_, rfl, by decide⟩

/-- A second pass looks at what is in flight while the first has still to dispatch to device 1000. -/
example : ∃ s ∈ (scheduleMachine minuteHost).exec minuteBoot
    (.tick 60000 :: List.replicate 5 (.run 0) ++ wholePass 120000 1 1 ++ [.run 0]),
      s.created = [⟨2, 60000, 5⟩, ⟨2, 60000, 1000⟩, ⟨2, 60000, 1000⟩] := ⟨_, rfl, by decide⟩

end Obliance.Schedules
