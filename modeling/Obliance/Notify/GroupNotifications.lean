import Mathlib.Data.List.Chain
import Mathlib.Logic.Function.Basic
import Obliance.Lib.GuardedRun
import Obliance.Lib.JsSet
import Obliance.Lib.KeyedTable

/-!
# Grouped notifications (`services/groupNotification.service.ts`)

A group whose notifications are grouped announces that it is down when its first monitor goes down, and
that it has recovered when none is left.

* `handleMonitorDown`, `handleMonitorUp`, `removeMonitor`, `removeGroup` : the operations;
* `groupMachine` : the operations in any order, with the announcements of each group;
* `Paired` : a group announces exactly when its set of down monitors starts and ends;
* `paired_of_reach` : every run that removes no monitor that is the only one down of its group;
* `not_paired_of_removal` : such a removal always breaks the pairing.
-/

namespace Obliance.Notify
open GuardedRun KeyedTable

structure GroupNotifState where
  groupId : ℕ
  downMonitorIds : List ℕ
  /-- The display names, by monitor. -/
  downMonitorNames : List (ℕ × String)
  /-- The "group is down" notification has been sent. -/
  notifiedDown : Bool
  deriving DecidableEq, Repr

abbrev GroupStates := List GroupNotifState

inductive DownResult where
  | firstDown
  | alreadyDown
  deriving DecidableEq, Repr

inductive UpResult where
  | allRecovered
  | stillDown
  deriving DecidableEq, Repr

/-- `groupStates.get(groupId)` -/
def stateOf (states : GroupStates) (groupId : ℕ) : Option GroupNotifState :=
  get GroupNotifState.groupId states groupId

/-- What `getOrCreateState` creates. -/
def newState (groupId : ℕ) : GroupNotifState := ⟨groupId, [], [], false⟩

/-- The monitor is recorded as down and the group as notified. -/
def recordDown (monitorId : ℕ) (monitorName : String) (state : GroupNotifState) : GroupNotifState :=
  { state with
    downMonitorIds := JsSet.add state.downMonitorIds monitorId
    downMonitorNames := upsert Prod.fst state.downMonitorNames (monitorId, monitorName) fun e => (e.1, monitorName)
    notifiedDown := true }

/-- `delete` on the set and on the map. -/
def forget (monitorId : ℕ) (state : GroupNotifState) : GroupNotifState :=
  { state with
    downMonitorIds := JsSet.delete state.downMonitorIds monitorId
    downMonitorNames := remove Prod.fst state.downMonitorNames monitorId }

def handleMonitorDown (states : GroupStates) (monitorId : ℕ) (monitorName : String) (groupNotifGroupId : ℕ) :
    DownResult × GroupStates :=
  let state := (stateOf states groupNotifGroupId).getD (newState groupNotifGroupId)
  (if state.notifiedDown then .alreadyDown else .firstDown,
    upsert GroupNotifState.groupId states (recordDown monitorId monitorName (newState groupNotifGroupId))
      (recordDown monitorId monitorName))

/-- The event empties the set of a group that was notified. -/
def recovers (monitorId : ℕ) (state : GroupNotifState) : Bool :=
  decide ((forget monitorId state).downMonitorIds = []) && state.notifiedDown

def recordUp (monitorId : ℕ) (state : GroupNotifState) : GroupNotifState :=
  if recovers monitorId state then { forget monitorId state with notifiedDown := false }
  else forget monitorId state

def handleMonitorUp (states : GroupStates) (monitorId : ℕ) (groupNotifGroupId : ℕ) : UpResult × GroupStates :=
  match stateOf states groupNotifGroupId with
  | none => (.stillDown, states)
  | some state =>
      (if recovers monitorId state then .allRecovered else .stillDown,
        modify GroupNotifState.groupId states groupNotifGroupId (recordUp monitorId))

def removeMonitor (states : GroupStates) (monitorId : ℕ) : GroupStates := states.map (forget monitorId)

def removeGroup (states : GroupStates) (groupId : ℕ) : GroupStates :=
  remove GroupNotifState.groupId states groupId

/-! ## The machine -/

inductive GroupEvent where
  | down (monitorId : ℕ) (monitorName : String) (groupId : ℕ)
  | up (monitorId : ℕ) (groupId : ℕ)
  | removeMonitor (monitorId : ℕ)
  | removeGroup (groupId : ℕ)
  deriving DecidableEq, Repr

inductive Announcement where
  | firstDown
  | allRecovered
  deriving DecidableEq, Repr

structure Ledger where
  states : GroupStates
  /-- What each group has announced since its state was created. -/
  lives : ℕ → List Announcement

def Ledger.announce (l : Ledger) (states : GroupStates) (groupId : ℕ) (a : Announcement) : Ledger :=
  ⟨states, Function.update l.lives groupId (l.lives groupId ++ [a])⟩

def groupStep (l : Ledger) : GroupEvent → Ledger
  | .down monitorId monitorName groupId =>
      let r := handleMonitorDown l.states monitorId monitorName groupId
      if r.1 = .firstDown then l.announce r.2 groupId .firstDown else { l with states := r.2 }
  | .up monitorId groupId =>
      let r := handleMonitorUp l.states monitorId groupId
      if r.1 = .allRecovered then l.announce r.2 groupId .allRecovered else { l with states := r.2 }
  | .removeMonitor monitorId => { l with states := removeMonitor l.states monitorId }
  | .removeGroup groupId => ⟨removeGroup l.states groupId, Function.update l.lives groupId []⟩

def groupMachine : Machine Ledger GroupEvent where
  init l := l.states = [] ∧ ∀ g, l.lives g = []
  step l e := some (groupStep l e)

/-- The monitors of a group that are down. -/
def downIds (states : GroupStates) (groupId : ℕ) : List ℕ :=
  ((stateOf states groupId).map GroupNotifState.downMonitorIds).getD []

def notified (states : GroupStates) (groupId : ℕ) : Bool :=
  ((stateOf states groupId).map GroupNotifState.notifiedDown).getD false

/-- Down and recovered in turns, down first. -/
def Alternates (life : List Announcement) : Prop :=
  life.IsChain (· ≠ ·) ∧ life.head? ≠ some .allRecovered

/-- The announcements of every group pair up. -/
structure Paired (l : Ledger) : Prop where
  /-- A down event announces exactly when no monitor of the group is down. -/
  first : ∀ m name g, (handleMonitorDown l.states m name g).1 = .firstDown ↔ downIds l.states g = []
  /-- An up event announces exactly when it makes the set empty. -/
  recovered : ∀ m g, (handleMonitorUp l.states m g).1 = .allRecovered ↔
    downIds l.states g ≠ [] ∧ downIds (handleMonitorUp l.states m g).2 g = []
  alternates : ∀ g, Alternates (l.lives g)

/-- The removal of a monitor leaves no group without a down monitor that had one. -/
def keepsOneDown (l : Ledger) : GroupEvent → Prop
  | .removeMonitor monitorId => ∀ state ∈ l.states, state.downMonitorIds ≠ [monitorId]
  | _ => True

/-! ## What each operation does to a group -/

section Operations
variable {states : GroupStates} {m g g' : ℕ} {name : String}

theorem stateOf_down (states : GroupStates) (m : ℕ) (name : String) (g g' : ℕ) :
    stateOf (handleMonitorDown states m name g).2 g' =
    if g' = g then some (recordDown m name ((stateOf states g).getD (newState g))) else stateOf states g' := by
  have hf : ∀ state, (recordDown m name state).groupId = state.groupId := fun _ => rfl
  refine (get_upsert hf).trans ?_
  change (if g' = g then _ else _) = _
  split_ifs with h
  · rw [h, stateOf]
    cases get GroupNotifState.groupId states g <;> rfl
  · rfl

theorem down_result : (handleMonitorDown states m name g).1 = .firstDown ↔ notified states g = false := by
  unfold handleMonitorDown notified
  cases stateOf states g with
  | none => simp [newState]
  | some state => cases h : state.notifiedDown <;> simp [h]

theorem groupId_recordUp (m : ℕ) (state : GroupNotifState) : (recordUp m state).groupId = state.groupId := by
  unfold recordUp
  split_ifs <;> rfl

theorem stateOf_up (states : GroupStates) (m g g' : ℕ) : stateOf (handleMonitorUp states m g).2 g' =
    if g' = g then (stateOf states g).map (recordUp m) else stateOf states g' := by
  unfold handleMonitorUp
  cases hg : stateOf states g with
  | none =>
      split_ifs with h
      · rw [h, hg, Option.map_none]
      · rfl
  | some state =>
      split_ifs with h
      · rw [h]
        exact (get_modify_self (groupId_recordUp m)).trans (by rw [← stateOf, hg])
      · exact get_modify_ne (groupId_recordUp m) h

theorem up_result : (handleMonitorUp states m g).1 = .allRecovered ↔
    ∃ state, stateOf states g = some state ∧ recovers m state = true := by
  unfold handleMonitorUp
  cases stateOf states g with
  | none => simp
  | some state => cases h : recovers m state <;> simp [h]

theorem stateOf_removeMonitor : stateOf (removeMonitor states m) g = (stateOf states g).map (forget m) :=
  get_map fun _ => rfl

theorem stateOf_removeGroup :
    stateOf (removeGroup states g) g' = if g' = g then none else stateOf states g' := by
  split_ifs with h
  · rw [h]
    exact get_remove_self
  · exact get_remove_ne h

end Operations

/-! ## The flag follows the set -/

/-- A state is notified exactly while a monitor of its group is down, and has the name of each. -/
structure Follows (state : GroupNotifState) : Prop where
  nodup : state.downMonitorIds.Nodup
  names : state.downMonitorNames.map Prod.fst = state.downMonitorIds
  flag : state.notifiedDown = true ↔ state.downMonitorIds ≠ []

section Follows
variable {state : GroupNotifState} {m : ℕ} {name : String}

theorem follows_newState (g : ℕ) : Follows (newState g) :=
  ⟨List.nodup_nil, rfl, by simp [newState]⟩

theorem map_fst_upsert (names : List (ℕ × String)) (m : ℕ) (name : String) :
    (upsert Prod.fst names (m, name) fun e => (e.1, name)).map Prod.fst = JsSet.add (names.map Prod.fst) m := by
  have hin : (get Prod.fst names m).isSome ↔ m ∈ names.map Prod.fst := get_isSome_iff.trans List.mem_map.symm
  unfold upsert JsSet.add
  split_ifs with h h' h'
  · exact map_key_map (key_ite fun _ => rfl)
  · exact absurd (hin.1 h) h'
  · exact absurd (hin.2 h') h
  · rw [List.map_append, List.map_singleton]

theorem Follows.recordDown (h : Follows state) : Follows (recordDown m name state) := by
  have hmem : m ∈ JsSet.add state.downMonitorIds m := JsSet.mem_add.2 (.inr rfl)
  refine ⟨JsSet.nodup_add h.nodup, ?_, ?_⟩
  · exact (map_fst_upsert state.downMonitorNames m name).trans (by rw [h.names]; rfl)
  · exact ⟨fun _ => List.ne_nil_of_mem hmem, fun _ => rfl⟩

theorem names_forget (h : Follows state) :
    (forget m state).downMonitorNames.map Prod.fst = (forget m state).downMonitorIds := by
  change (state.downMonitorNames.filter _).map Prod.fst = JsSet.delete state.downMonitorIds m
  rw [JsSet.delete, ← h.names, List.filter_map]
  rfl

theorem Follows.recordUp (h : Follows state) : Follows (recordUp m state) := by
  have hnodup : (forget m state).downMonitorIds.Nodup := h.nodup.filter _
  unfold Notify.recordUp recovers
  split_ifs with hr
  · simp only [Bool.and_eq_true, decide_eq_true_eq] at hr
    exact ⟨hnodup, names_forget h, by simp [hr.1]⟩
  · refine ⟨hnodup, names_forget h, ?_⟩
    constructor
    · intro hflag hempty
      exact hr (by simp [hempty, show state.notifiedDown = true from hflag])
    · intro hne
      obtain ⟨x, hx⟩ := List.exists_mem_of_ne_nil _ hne
      exact h.flag.2 (List.ne_nil_of_mem (JsSet.mem_delete.1 hx).1)

/-- Forgetting a monitor keeps the flag right unless it is the only one down. -/
theorem Follows.forget (h : Follows state) (hmore : state.downMonitorIds ≠ [m]) : Follows (forget m state) := by
  refine ⟨h.nodup.filter _, names_forget h, h.flag.trans ?_⟩
  constructor
  · intro hne hempty
    -- every down monitor is `m`, and the set has no duplicates
    have hall : ∀ x ∈ state.downMonitorIds, x = m := by
      intro x hx
      by_contra hxm
      exact List.ne_nil_of_mem (JsSet.mem_delete.2 ⟨hx, hxm⟩) hempty
    cases hids : state.downMonitorIds with
    | nil => exact hne hids
    | cons a rest =>
        have hnodup := h.nodup
        rw [hids] at hall hnodup hmore
        obtain rfl := hall a List.mem_cons_self
        cases rest with
        | nil => exact hmore rfl
        | cons b rest =>
            obtain rfl := hall b (List.mem_cons_of_mem _ List.mem_cons_self)
            exact (List.nodup_cons.1 hnodup).1 List.mem_cons_self
  · intro hne hids
    exact hne (by simp [Notify.forget, hids, JsSet.delete])

end Follows

/-! ## Runs -/

/-- The invariant: the flags follow the sets, and the last announcement of a group is the flag. -/
structure InStep (l : Ledger) : Prop where
  follows : ∀ g state, stateOf l.states g = some state → Follows state
  alternates : ∀ g, Alternates (l.lives g)
  last : ∀ g, notified l.states g = true ↔ (l.lives g).getLast? = some .firstDown

theorem alternates_append {life : List Announcement} {a : Announcement} (h : Alternates life)
    (hlast : life.getLast? ≠ some a) (hstart : life = [] → a = .firstDown) : Alternates (life ++ [a]) := by
  refine ⟨List.isChain_append.2 ⟨h.1, List.isChain_singleton a, ?_⟩, ?_⟩
  · intro x hx b hb
    obtain rfl : a = b := by simpa using hb
    rintro rfl
    exact hlast hx
  · cases life with
    | nil => simp [hstart rfl]
    | cons b life => exact h.2

theorem notified_iff {l : Ledger} (h : InStep l) (g : ℕ) :
    notified l.states g = true ↔ downIds l.states g ≠ [] := by
  unfold notified downIds
  cases hg : stateOf l.states g with
  | none => simp
  | some state => exact (h.follows g state hg).flag

/-- An event that leaves the other groups alone and writes the state `next` of the group `g`. -/
theorem InStep.of_write {l : Ledger} (h : InStep l) {states : GroupStates} {g : ℕ} {next : Option GroupNotifState}
    {life : List Announcement} (hwrite : ∀ g', stateOf states g' = if g' = g then next else stateOf l.states g')
    (hnext : ∀ state, next = some state → Follows state) (halt : Alternates life)
    (hlast : (next.map GroupNotifState.notifiedDown).getD false = true ↔ life.getLast? = some .firstDown) :
    InStep ⟨states, Function.update l.lives g life⟩ := by
  constructor
  · intro g' state hstate
    rw [hwrite] at hstate
    split_ifs at hstate with hg
    · exact hnext state hstate
    · exact h.follows g' state hstate
  · intro g'
    by_cases hg : g' = g
    · simpa [hg] using halt
    · simpa [hg] using h.alternates g'
  · intro g'
    by_cases hg : g' = g
    · simpa [notified, hwrite, hg] using hlast
    · simpa [notified, hwrite, hg] using h.last g'

theorem inStep_down {l : Ledger} (h : InStep l) (m : ℕ) (name : String) (g : ℕ) :
    InStep (groupStep l (.down m name g)) := by
  have hnext : ∀ state, some (recordDown m name ((stateOf l.states g).getD (newState g))) = some state →
      Follows state := by
    rintro _ ⟨⟩
    refine Follows.recordDown ?_
    cases hg : stateOf l.states g with
    | none => exact follows_newState g
    | some state => exact h.follows g state hg
  by_cases hfirst : (handleMonitorDown l.states m name g).1 = .firstDown
  · have hnot := down_result.1 hfirst
    have hlast : (l.lives g).getLast? ≠ some .firstDown := by
      rw [Ne, ← h.last, hnot]
      exact Bool.false_ne_true
    simp only [groupStep, if_pos hfirst]
    exact h.of_write (stateOf_down l.states m name g) hnext (alternates_append (h.alternates g) hlast fun _ => rfl)
      (by simp [recordDown])
  · have hyes : notified l.states g = true := by
      rw [down_result] at hfirst
      simpa using hfirst
    simp only [groupStep, if_neg hfirst]
    have hwrite := h.of_write (stateOf_down l.states m name g) hnext (h.alternates g)
      (by simpa [recordDown] using (h.last g).1 hyes)
    rwa [Function.update_eq_self] at hwrite

theorem inStep_up {l : Ledger} (h : InStep l) (m g : ℕ) : InStep (groupStep l (.up m g)) := by
  have hnext : ∀ state, (stateOf l.states g).map (recordUp m) = some state → Follows state := by
    intro state hstate
    obtain ⟨old, hold, rfl⟩ := Option.map_eq_some_iff.1 hstate
    exact (h.follows g old hold).recordUp
  by_cases hrec : (handleMonitorUp l.states m g).1 = .allRecovered
  · obtain ⟨state, hstate, hr⟩ := up_result.1 hrec
    have hflag : state.notifiedDown = true := by
      simp only [recovers, Bool.and_eq_true] at hr
      exact hr.2
    have hlast : (l.lives g).getLast? = some .firstDown := by
      rw [← h.last, notified, hstate]
      exact hflag
    simp only [groupStep, if_pos hrec]
    refine h.of_write (stateOf_up l.states m g) hnext (alternates_append (h.alternates g) ?_ ?_) ?_
    · rw [hlast]
      decide
    · intro hnil
      rw [hnil] at hlast
      cases hlast
    · simp [hstate, recordUp, hr]
  · simp only [groupStep, if_neg hrec]
    have hwrite := h.of_write (stateOf_up l.states m g) hnext (h.alternates g) ?_
    · rwa [Function.update_eq_self] at hwrite
    · rw [← h.last, notified]
      cases hg : stateOf l.states g with
      | none => rfl
      | some state =>
          have hr : ¬ recovers m state = true := fun hr => hrec (up_result.2 ⟨state, hg, hr⟩)
          simp [recordUp, hr, forget]

theorem inStep_removeMonitor {l : Ledger} (h : InStep l) {m : ℕ} (hok : keepsOneDown l (.removeMonitor m)) :
    InStep (groupStep l (.removeMonitor m)) := by
  constructor
  · intro g state hstate
    obtain ⟨old, hold, rfl⟩ := Option.map_eq_some_iff.1 (stateOf_removeMonitor.symm.trans hstate)
    exact (h.follows g old hold).forget (hok old (mem_of_get hold))
  · exact h.alternates
  · intro g
    refine Iff.trans ?_ (h.last g)
    simp only [groupStep, notified, stateOf_removeMonitor, Option.map_map]
    rfl

theorem inStep_removeGroup {l : Ledger} (h : InStep l) (g : ℕ) : InStep (groupStep l (.removeGroup g)) :=
  h.of_write (fun _ => stateOf_removeGroup) (by simp) ⟨List.isChain_nil, by simp⟩ (by simp)

theorem inStep_of_reach {l : Ledger} (h : Reach groupMachine keepsOneDown l) : InStep l := by
  refine h.invariant (I := InStep) ?_ ?_
  · rintro l ⟨hstates, hlives⟩
    constructor
    · intro g state hstate
      rw [hstates] at hstate
      cases hstate
    · intro g
      rw [hlives]
      exact ⟨List.isChain_nil, by simp⟩
    · intro g
      simp [hlives, notified, hstates, stateOf, KeyedTable.get]
  · rintro l e _ h hok ⟨⟩
    cases e with
    | down m name g => exact inStep_down h m name g
    | up m g => exact inStep_up h m g
    | removeMonitor m => exact inStep_removeMonitor h hok
    | removeGroup g => exact inStep_removeGroup h g

/-- **Group notifications pair up** in every run that never removes the only down monitor of a group. -/
theorem paired_of_reach {l : Ledger} (h : Reach groupMachine keepsOneDown l) : Paired l := by
  have hi := inStep_of_reach h
  constructor
  · intro m name g
    rw [down_result, ← Bool.not_eq_true, notified_iff hi, not_not]
  · intro m g
    rw [up_result, downIds, downIds, stateOf_up, if_pos rfl]
    cases hg : stateOf l.states g with
    | none => simp
    | some state =>
        have hids : (recordUp m state).downMonitorIds = (forget m state).downMonitorIds := by
          unfold recordUp
          split_ifs <;> rfl
        simp [recovers, hids, and_comm, (hi.follows g state hg).flag]
  · exact hi.alternates

/-- The removal of the only down monitor of a group always breaks the pairing. -/
theorem not_paired_of_removal {l : Ledger} (h : InStep l) {m g : ℕ} {state : GroupNotifState}
    (hg : stateOf l.states g = some state) (hids : state.downMonitorIds = [m]) :
    ¬ Paired (groupStep l (.removeMonitor m)) := by
  intro hp
  have hflag : state.notifiedDown = true := (h.follows g state hg).flag.2 (by simp [hids])
  have hempty : downIds (removeMonitor l.states m) g = [] := by
    simp [downIds, stateOf_removeMonitor, hg, forget, hids, JsSet.delete]
  have hnot := down_result.1 ((hp.first m "" g).2 hempty)
  simp [groupStep, notified, stateOf_removeMonitor, hg, forget, hflag] at hnot

/-! ## Failing run -/

/-- The only down monitor of group 5 is deleted: the group's next first down is not announced. -/
theorem deleted_monitor_silences_group : ¬ ∀ l, Reach groupMachine anyStep l → Paired l := by
  refine not_forall_reach (s := ⟨[], fun _ => []⟩) ⟨rfl, fun _ => rfl⟩
    [.down 1 "srv-1" 5, .removeMonitor 1] ⟨_, rfl, fun h => ?_⟩
  have hfirst := h.first 2 "srv-2" 5
  revert hfirst
  decide

/-- Two monitors go down, one is removed, the other recovers. -/
theorem paired_after_removal : ∃ l, Paired l ∧ l.lives 5 = [.firstDown, .allRecovered] := by
  have h0 : Reach groupMachine keepsOneDown ⟨[], fun _ => []⟩ := .start ⟨rfl, fun _ => rfl⟩
  have h1 := h0.next (.down 1 "srv-1" 5) (by trivial) rfl
  have h2 := h1.next (.down 2 "srv-2" 5) (by trivial) rfl
  have h3 := h2.next (.removeMonitor 1) (by unfold keepsOneDown; decide) rfl
  have h4 := h3.next (.up 2 5) (by trivial) rfl
  exact ⟨_, paired_of_reach h4, by decide⟩

end Obliance.Notify
