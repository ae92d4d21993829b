import Mathlib.Data.List.Basic
import Mathlib.Data.List.Chain
import Obliance.Lib.GuardedRun
import Obliance.Maintenance.Windows

/-!
# The notifications of a maintenance window (`services/maintenance.service.ts`)

A job looks at every window at each tick, on its own: it announces a start or an end and remembers which
in `last_dedup_key`, together with the window's start. A window can be edited between two ticks.

* `checkTransition` : a tick on the row of a window; `update` : an edit;
* `transitionMachine` : ticks and edits of one window, and what was sent for it;
* `Announced` : starts and ends alternate, and the last one says whether the window is active;
* `TicksInStep` : the ticks that keep it; `notifications_alternate`, `announced_tick_iff`.
-/

namespace Obliance.Maintenance
open GuardedRun

inductive MaintenanceEvent where
  | start
  | end
  deriving DecidableEq, Repr

/-- The type of the column `notification_channels`: migration 001 creates it as `jsonb`. -/
inductive ChannelColumn where
  | jsonb
  | integerArray
  deriving DecidableEq, Repr

/-- `array_length(notification_channels, 1)`: there is no such function of a `jsonb`, the query throws. -/
def arrayLength : ChannelColumn → List ℕ → Option ℕ
  | .jsonb, _ => none
  | .integerArray, channels => some channels.length

/-- What `update` may be given; `none` is undefined. -/
structure MaintenanceUpdate where
  name : Option String
  scopeType : Option MaintenanceScope
  scopeId : Option (Option ℕ)
  scheduleType : Option ScheduleType
  startsAt : Option ℤ
  endsAt : Option ℤ
  recurrenceRule : Option MaintenanceRecurrenceRule
  timezone : Option String
  notificationChannels : Option (List ℕ)
  deriving DecidableEq, Repr

def update (window : MaintenanceWindow) (data : MaintenanceUpdate) : MaintenanceWindow :=
  { window with
    name := data.name.getD window.name
    scopeType := data.scopeType.getD window.scopeType
    scopeId := data.scopeId.getD window.scopeId
    scheduleType := data.scheduleType.getD window.scheduleType
    startsAt := data.startsAt.getD window.startsAt
    endsAt := data.endsAt.getD window.endsAt
    recurrenceRule := data.recurrenceRule.getD window.recurrenceRule
    timezone := data.timezone.getD window.timezone
    notificationChannels := data.notificationChannels.getD window.notificationChannels }

/-- The time zones of the host, and `toISOString`. -/
structure Clock where
  host : Host
  iso : ℤ → String

variable (clock : Clock)

def startKey (window : MaintenanceWindow) : String := "start:" ++ clock.iso window.startsAt

def endKey (window : MaintenanceWindow) : String := "end:" ++ clock.iso window.startsAt

/-- The body of the loop: the notification sent, and the row after it. -/
def checkTransition (window : MaintenanceWindow) (now : ℤ) : Option MaintenanceEvent × MaintenanceWindow :=
  let active := isWindowActive clock.host window now
  if active ∧ window.lastDedupKey ≠ some (startKey clock window) then
    (some .start, { window with lastDedupKey := some (startKey clock window) })
  else if ¬ active ∧ window.lastDedupKey = some (startKey clock window) then
    (some .end, { window with lastDedupKey := some (endKey clock window) })
  else (none, window)

structure TransitionState where
  now : ℤ
  window : MaintenanceWindow
  sent : List MaintenanceEvent
  /-- whether the window was active, when the last action was a tick -/
  ticked : Option Bool
  deriving DecidableEq, Repr

inductive TransitionAction where
  /-- `checkMaintenanceTransitions`, `ms` later -/
  | tick (ms : ℕ)
  | edit (data : MaintenanceUpdate)
  deriving DecidableEq, Repr

variable (column : ChannelColumn)

/-- A tick at the instant `now`. -/
def tickAt (s : TransitionState) (now : ℤ) : TransitionState :=
  let ticked := some (isWindowActive clock.host s.window now)
  if (arrayLength column s.window.notificationChannels).any (0 < ·) then
    let r := checkTransition clock s.window now
    { now := now, window := r.2, sent := s.sent ++ r.1.toList, ticked := ticked }
  else { s with now := now, ticked := ticked }

/-- An edit leaves the window at least one channel. -/
def stepTransition (s : TransitionState) : TransitionAction → Option TransitionState
  | .tick ms => some (tickAt clock column s (s.now + ms))
  | .edit data =>
      if (update s.window data).notificationChannels = [] then none
      else some { s with window := update s.window data, ticked := none }

/-- A window with a channel, and no key. -/
def Unannounced (s : TransitionState) : Prop :=
  s.window.notificationChannels ≠ [] ∧ s.window.lastDedupKey = none ∧ s.sent = [] ∧ s.ticked = none

def transitionMachine : Machine TransitionState TransitionAction := ⟨Unannounced, stepTransition clock column⟩

/-- The notifications begin with a start and alternate. -/
def Alternates (sent : List MaintenanceEvent) : Prop :=
  (∀ e ∈ sent.head?, e = .start) ∧ sent.IsChain (· ≠ ·)

instance (sent : List MaintenanceEvent) : Decidable (Alternates sent) := inferInstanceAs (Decidable (_ ∧ _))

/-- They alternate, and after a tick the last one says whether the window is active. -/
def Announced (s : TransitionState) : Prop :=
  Alternates s.sent ∧ ∀ active ∈ s.ticked, (s.sent.getLast? = some .start ↔ active = true)

def isStartKey (key : Option String) : Bool := key.any fun k => "start:".toList.isPrefixOf k.toList

/-- A tick that finds a start key finds the start key of the window as it is now; and where the query
throws, the window is not active. -/
def TicksInStep (s : TransitionState) : TransitionAction → Prop
  | .tick ms =>
      if (arrayLength column s.window.notificationChannels).isSome
      then isStartKey s.window.lastDedupKey = true → s.window.lastDedupKey = some (startKey clock s.window)
      else isWindowActive clock.host s.window (s.now + ms) = false
  | .edit _ => True

instance (s : TransitionState) : (a : TransitionAction) → Decidable (TicksInStep clock column s a)
  | .tick _ => by unfold TicksInStep; infer_instance
  | .edit _ => inferInstanceAs (Decidable True)

/-! ## Keys -/

@[simp] theorem isStartKey_startKey (window : MaintenanceWindow) :
    isStartKey (some (startKey clock window)) = true := by
  simp [isStartKey, startKey, String.toList_append]

@[simp] theorem isStartKey_endKey (window : MaintenanceWindow) :
    isStartKey (some (endKey clock window)) = false := by
  simp [isStartKey, endKey, String.toList_append, List.isPrefixOf]

/-! ## Sequences of notifications -/

theorem alternates_concat {sent : List MaintenanceEvent} {e : MaintenanceEvent} :
    Alternates (sent ++ [e]) ↔ Alternates sent ∧ sent.getLast? ≠ some e ∧ (sent = [] → e = .start) := by
  cases sent with
  | nil => simp [Alternates]
  | cons d sent =>
      unfold Alternates
      rw [List.isChain_append, List.cons_append, List.head?_cons, List.head?_cons]
      constructor
      · rintro ⟨hd, hc, -, hl⟩
        exact ⟨⟨hd, hc⟩, fun h => hl e h e rfl rfl, by simp⟩
      · rintro ⟨⟨hd, hc⟩, hl, -⟩
        refine ⟨hd, hc, List.isChain_singleton e, fun x hx y hy hxy => hl ?_⟩
        rw [Option.mem_some_iff.mp hy]
        rwa [hxy] at hx

/-! ## A tick -/

/-- What a tick does: a start, an end, or nothing. -/
theorem checkTransition_cases (window : MaintenanceWindow) (now : ℤ) :
    (isWindowActive clock.host window now = true ∧ window.lastDedupKey ≠ some (startKey clock window) ∧
      checkTransition clock window now =
        (some .start, { window with lastDedupKey := some (startKey clock window) })) ∨
    (isWindowActive clock.host window now = false ∧ window.lastDedupKey = some (startKey clock window) ∧
      checkTransition clock window now =
        (some .end, { window with lastDedupKey := some (endKey clock window) })) ∨
    ((isWindowActive clock.host window now = true ↔ window.lastDedupKey = some (startKey clock window)) ∧
      checkTransition clock window now = (none, window)) := by
  unfold checkTransition
  by_cases hkey : window.lastDedupKey = some (startKey clock window)
  · cases hactive : isWindowActive clock.host window now
    · exact .inr (.inl ⟨rfl, hkey, by simp [hkey]⟩)
    · exact .inr (.inr ⟨by simp [hkey], by simp [hkey]⟩)
  · cases hactive : isWindowActive clock.host window now
    · exact .inr (.inr ⟨by simp [hkey], by simp [hkey]⟩)
    · exact .inl ⟨rfl, hkey, by simp [hkey]⟩

/-- What is kept between the window and what was sent for it. -/
structure Kept (s : TransitionState) : Prop where
  channels : s.window.notificationChannels ≠ []
  alternates : Alternates s.sent
  keyed : s.sent.getLast? = some .start ↔ isStartKey s.window.lastDedupKey = true
  silent : column = .jsonb → s.sent = []
  ticked : ∀ active ∈ s.ticked, (s.sent.getLast? = some .start ↔ active = true)

variable {clock column}

theorem kept_of_unannounced {s : TransitionState} (h : Unannounced s) : Kept column s := by
  obtain ⟨hchannels, hkey, hsent, hticked⟩ := h
  refine ⟨hchannels, ?_, ?_, fun _ => hsent, ?_⟩
  · simp [hsent, Alternates]
  · simp [hsent, hkey, isStartKey]
  · simp [hticked]

/-- Where the query works, the window has a channel and the tick looks at it. -/
theorem tickAt_integerArray {s : TransitionState} (now : ℤ) (hchannels : s.window.notificationChannels ≠ []) :
    tickAt clock .integerArray s now =
      { now := now, window := (checkTransition clock s.window now).2,
        sent := s.sent ++ (checkTransition clock s.window now).1.toList,
        ticked := some (isWindowActive clock.host s.window now) } := by
  have hpos : 0 < s.window.notificationChannels.length := List.length_pos_iff.mpr hchannels
  simp [tickAt, arrayLength, hpos]

theorem tickAt_jsonb (s : TransitionState) (now : ℤ) :
    tickAt clock .jsonb s now = { s with now := now, ticked := some (isWindowActive clock.host s.window now) } := by
  simp [tickAt, arrayLength]

theorem kept_of_tick {s : TransitionState} {ms : ℕ} (hs : Kept column s)
    (ht : TicksInStep clock column s (.tick ms)) : Kept column (tickAt clock column s (s.now + ms)) := by
  cases column with
  | jsonb =>
      have hinactive : isWindowActive clock.host s.window (s.now + ms) = false := by
        simpa [TicksInStep, arrayLength] using ht
      have hsent := hs.silent rfl
      rw [tickAt_jsonb, hinactive]
      exact ⟨hs.channels, hs.alternates, hs.keyed, hs.silent, by simp [hsent]⟩
  | integerArray =>
      have hkey : isStartKey s.window.lastDedupKey = true → s.window.lastDedupKey = some (startKey clock s.window) := by
        simpa [TicksInStep, arrayLength] using ht
      rw [tickAt_integerArray _ hs.channels]
      obtain ⟨hactive, hne, h⟩ | ⟨hactive, heq, h⟩ | ⟨hiff, h⟩ := checkTransition_cases clock s.window (s.now + ms)
      · -- a start: the last notification was not one, since its key would be the start key
        rw [h, hactive]
        have hlast : s.sent.getLast? ≠ some .start := fun hl => hne (hkey (hs.keyed.mp hl))
        exact ⟨hs.channels, alternates_concat.mpr ⟨hs.alternates, hlast, fun _ => rfl⟩, by simp, by simp, by simp⟩
      · -- an end: the start key says that the last notification was a start
        rw [h, hactive]
        have hlast : s.sent.getLast? = some .start := hs.keyed.mpr (by rw [heq, isStartKey_startKey])
        refine ⟨hs.channels, alternates_concat.mpr ⟨hs.alternates, by simp [hlast], fun hnil => ?_⟩, by simp,
          by simp, by simp⟩
        simp [hnil] at hlast
      · rw [h]
        have hlast : s.sent.getLast? = some .start ↔ s.window.lastDedupKey = some (startKey clock s.window) := by
          rw [hs.keyed]
          exact ⟨hkey, fun heq => by rw [heq, isStartKey_startKey]⟩
        have hsent : s.sent ++ (none : Option MaintenanceEvent).toList = s.sent := by simp
        refine ⟨hs.channels, by rw [hsent]; exact hs.alternates, by rw [hsent]; exact hs.keyed, by simp, ?_⟩
        intro active hactive
        rw [Option.mem_some_iff] at hactive
        rw [hsent, hlast, ← hactive, hiff]

theorem kept_of_step {s t : TransitionState} {a : TransitionAction} (hs : Kept column s)
    (ha : TicksInStep clock column s a) (h : stepTransition clock column s a = some t) : Kept column t := by
  cases a with
  | tick ms =>
      rw [stepTransition, Option.some.injEq] at h
      exact h ▸ kept_of_tick hs ha
  | edit data =>
      rw [stepTransition] at h
      split at h
      · exact nomatch h
      · rename_i hchannels
        rw [Option.some.injEq] at h
        rw [← h]
        exact ⟨hchannels, hs.alternates, hs.keyed, hs.silent, by simp⟩

/-! ## The notifications alternate -/

variable (clock column)

/-- In a run whose ticks are in step, starts and ends alternate, and say whether the window is active. -/
theorem notifications_alternate {s : TransitionState}
    (hs : Reach (transitionMachine clock column) (TicksInStep clock column) s) : Announced s := by
  have hkept : Kept column s :=
    hs.invariant (fun _ => kept_of_unannounced) fun _ _ _ hs ha h => kept_of_step hs ha h
  exact ⟨hkept.alternates, hkept.ticked⟩

/-- The first hour of the epoch, in whole minutes, in UTC. -/
def firstHour : Clock :=
  { host := ⟨fun _ ms => some ⟨some "00", some (padStart2 (toString (ms / 60000))), some "Thu"⟩, Js.exactDoubles⟩
    iso := fun ms => "1970-01-01T00:" ++ padStart2 (toString (ms / 60000)) ++ ":00.000Z" }

/-- A one-time window from 00:00 to 00:10, with one channel. -/
def tenMinutes : TransitionState :=
  { now := 0
    window :=
      { id := 1, tenantId := 1, name := "patching", scopeType := .global, scopeId := none,
        scheduleType := .oneTime, startsAt := 0, endsAt := 600000, recurrenceRule := ⟨none, none, none, none⟩,
        timezone := "UTC", notificationChannels := [7], lastDedupKey := none, createdBy := none,
        createdAt := 0, updatedAt := 0 }
    sent := []
    ticked := none }

def noUpdate : MaintenanceUpdate := ⟨none, none, none, none, none, none, none, none, none⟩

/-- The window is put off to 00:20 after its end was announced, and starts again. -/
theorem notifications_alternate_twice :
    ∃ s, s.sent = [.start, .end, .start] ∧ Announced s := by
  let run : List TransitionAction :=
    [.tick 60000, .tick 600000, .edit { noUpdate with startsAt := some 1200000, endsAt := some 1800000 },
      .tick 900000]
  have hstart : Reach (transitionMachine firstHour .integerArray) (TicksInStep firstHour .integerArray) tenMinutes :=
    .start ⟨by decide, rfl, rfl, rfl⟩
  have hadmits : (transitionMachine firstHour .integerArray).Admits (TicksInStep firstHour .integerArray)
      tenMinutes run := by decide
  obtain ⟨s, hs⟩ : ∃ s, (transitionMachine firstHour .integerArray).exec tenMinutes run = some s := ⟨_, rfl⟩
  refine ⟨s, ?_, notifications_alternate firstHour .integerArray (hstart.of_exec run hadmits hs)⟩
  have : ((transitionMachine firstHour .integerArray).exec tenMinutes run).map (·.sent) =
      some [.start, .end, .start] := by
    decide
  simpa [hs] using this

/-- An edit of the start while the window is active announces it twice; and with the column of the migration
an active window is not announced at all. -/
theorem announced_twice_or_never :
    (¬ ∀ clock s, Reach (transitionMachine clock .integerArray) anyStep s → Announced s) ∧
      ¬ ∀ clock s, Reach (transitionMachine clock .jsonb) anyStep s → Announced s := by
  constructor
  · intro h
    let run : List TransitionAction := [.tick 60000, .edit { noUpdate with startsAt := some 60000 }, .tick 60000]
    have hexec : (transitionMachine firstHour .integerArray).exec tenMinutes run =
        some
          { now := 120000
            window :=
              { tenMinutes.window with
                startsAt := 60000, lastDedupKey := some "start:1970-01-01T00:01:00.000Z" }
            sent := [.start, .start]
            ticked := some true } := by
      decide
    have := (h firstHour _ (reach_of_exec ⟨by decide, rfl, rfl, rfl⟩ run hexec)).1
    exact absurd this (by decide)
  · intro h
    have hexec : (transitionMachine firstHour .jsonb).exec tenMinutes [.tick 60000] =
        some { tenMinutes with now := 60000, ticked := some true } := by
      decide
    have := (h firstHour _ (reach_of_exec ⟨by decide, rfl, rfl, rfl⟩ _ hexec)).2 true rfl
    exact absurd this (by decide)

/-- A tick after such a run keeps that exactly when it is in step. -/
theorem announced_tick_iff {s : TransitionState}
    (hs : Reach (transitionMachine clock column) (TicksInStep clock column) s) (ms : ℕ) :
    Announced (tickAt clock column s (s.now + ms)) ↔ TicksInStep clock column s (.tick ms) := by
  have hkept : Kept column s :=
    hs.invariant (fun _ => kept_of_unannounced) fun _ _ _ hs ha h => kept_of_step hs ha h
  constructor
  · rintro ⟨halt, hticked⟩
    cases column with
    | jsonb =>
        rw [tickAt_jsonb] at hticked
        have hiff := hticked _ rfl
        rw [hkept.silent rfl, List.getLast?_nil] at hiff
        simpa [TicksInStep, arrayLength] using hiff
    | integerArray =>
        rw [tickAt_integerArray _ hkept.channels] at halt hticked
        suffices isStartKey s.window.lastDedupKey = true → s.window.lastDedupKey = some (startKey clock s.window) by
          simpa [TicksInStep, arrayLength] using this
        intro hstart
        have hlast := hkept.keyed.mpr hstart
        by_contra hne
        obtain ⟨hactive, -, h⟩ | ⟨-, heq, -⟩ | ⟨hiff, h⟩ := checkTransition_cases clock s.window (s.now + ms)
        · rw [h] at halt
          exact (alternates_concat.mp halt).2.1 hlast
        · exact hne heq
        · rw [h] at hticked
          have hactive := (hticked _ rfl).mp (by simpa using hlast)
          exact hne (hiff.mp hactive)
  · intro h
    have := kept_of_tick hkept h
    exact ⟨this.alternates, this.ticked⟩

end Obliance.Maintenance
