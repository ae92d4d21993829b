import Mathlib.Algebra.Group.Int.Defs
import Mathlib.Order.Lattice
import Obliance.Lib.Observed

/-!
# The caches of the threshold layers (`services/threshold.service.ts`)

Reads of the tables, writes to them and invalidations in any order. A query and the answer to it are a step each,
and so is what a caller does when its promise is settled.

* `indexMachine` : `loadGroupIndex`, whose callers share one query, and whose generation `invalidate` raises;
* `groupIndex_fresh` : a call after an invalidation never gets what the table had before it;
* `layerMachine` : `loadGlobal` and `loadTenant`, one entry for each key;
* `layer_fresh_iff` : when that holds of them.
-/

namespace Obliance.Metrics.Thresholds
open GuardedRun

def CACHE_TTL_MS : ℤ := 60000

/-! ## `loadGroupIndex` -/

section Index
variable {ρ β : Type}

/-- A query of all groups and the map that is built from its rows. -/
inductive Load (ρ β : Type) where
  | querying (gen : ℕ)
  | answered (gen : ℕ) (rows : ρ)
  | resolved (value : β)
  | rejected
  deriving DecidableEq, Repr

/-- A call waits for a load, its own or that of an earlier call. -/
inductive IndexCall (β : Type) where
  | waiting (load : ℕ) (own : Bool)
  | returned (value : β)
  | failed
  deriving DecidableEq, Repr

structure IndexState (ρ β : Type) where
  now : ℤ
  /-- What is committed to `device_groups`. -/
  rows : ρ
  groupIndexCache : Option (β × ℤ)
  groupIndexLoading : Option ℕ
  groupIndexGen : ℕ
  loads : List (Load ρ β)
  calls : List (IndexCall β)
  deriving DecidableEq, Repr

inductive IndexOp (ρ : Type) where
  | write (rows : ρ)
  | invalidate
  | call
  | query (load : ℕ)
  | answer (load : ℕ)
  | refuse (load : ℕ)
  | resume (call : ℕ)
  | tick (ms : ℤ)
  deriving DecidableEq, Repr

variable (index : ρ → β) (s : IndexState ρ β)

def invalidateGroupThresholdCache : IndexState ρ β :=
  { s with groupIndexGen := s.groupIndexGen + 1, groupIndexCache := none, groupIndexLoading := none }

/-- `loadGroupIndex` up to its first `await`. -/
def loadGroupIndex : IndexState ρ β :=
  match s.groupIndexCache.filter fun cached => s.now - cached.2 < CACHE_TTL_MS with
  | some cached => { s with calls := s.calls ++ [.returned cached.1] }
  | none =>
      match s.groupIndexLoading with
      | some load => { s with calls := s.calls ++ [.waiting load false] }
      | none =>
          { s with
            loads := s.loads ++ [.querying s.groupIndexGen]
            groupIndexLoading := some s.loads.length
            calls := s.calls ++ [.waiting s.loads.length true] }

/-- The database takes its snapshot. -/
def queryIndex (load : ℕ) : Option (IndexState ρ β) :=
  match s.loads[load]? with
  | some (.querying gen) => some { s with loads := s.loads.set load (.answered gen s.rows) }
  | _ => none

/-- The rows arrive; they are not cached when an invalidation raced with them. -/
def answerIndex (load : ℕ) : Option (IndexState ρ β) :=
  match s.loads[load]? with
  | some (.answered gen rows) =>
      some { s with
        loads := s.loads.set load (.resolved (index rows))
        groupIndexCache := if gen = s.groupIndexGen then some (index rows, s.now) else s.groupIndexCache }
  | _ => none

def refuseIndex (load : ℕ) : Option (IndexState ρ β) :=
  match s.loads[load]? with
  | some (.querying _) | some (.answered _ _) => some { s with loads := s.loads.set load .rejected }
  | _ => none

/-- What the call does once its load is settled; the one that began the load runs its `finally`. -/
def resumeIndex (call : ℕ) : Option (IndexState ρ β) :=
  match s.calls[call]? with
  | some (.waiting load own) =>
      let loading := if own && decide (s.groupIndexLoading = some load) then none else s.groupIndexLoading
      match s.loads[load]? with
      | some (.resolved value) =>
          some { s with groupIndexLoading := loading, calls := s.calls.set call (.returned value) }
      | some .rejected => some { s with groupIndexLoading := loading, calls := s.calls.set call .failed }
      | _ => none
  | _ => none

def indexStep : IndexOp ρ → Option (IndexState ρ β)
  | .write rows => some { s with rows := rows }
  | .invalidate => some (invalidateGroupThresholdCache s)
  | .call => some (loadGroupIndex s)
  | .query load => queryIndex s load
  | .answer load => answerIndex index s load
  | .refuse load => refuseIndex s load
  | .resume call => resumeIndex s call
  | .tick ms => some { s with now := s.now + ms }

def indexMachine : Machine (IndexState ρ β) (IndexOp ρ) where
  init s := s.groupIndexCache = none ∧ s.groupIndexLoading = none ∧ s.loads = [] ∧ s.calls = []
  step := indexStep index

end Index

/-! ## What a step of `loadGroupIndex` can do -/

section Steps
variable {ρ β : Type} {index : ρ → β} {s t : IndexState ρ β}

/-- The effects of a step, one constructor each. -/
inductive IndexMoves (index : ρ → β) (s : IndexState ρ β) : IndexOp ρ → IndexState ρ β → Prop
  | wrote (rows : ρ) : IndexMoves index s (.write rows) { s with rows := rows }
  | invalidated : IndexMoves index s .invalidate (invalidateGroupThresholdCache s)
  | hit {cached : β × ℤ} (h : s.groupIndexCache = some cached) :
      IndexMoves index s .call { s with calls := s.calls ++ [.returned cached.1] }
  | joined {load : ℕ} (h : s.groupIndexLoading = some load) :
      IndexMoves index s .call { s with calls := s.calls ++ [.waiting load false] }
  | began : IndexMoves index s .call
      { s with
        loads := s.loads ++ [.querying s.groupIndexGen]
        groupIndexLoading := some s.loads.length
        calls := s.calls ++ [.waiting s.loads.length true] }
  | queried {load gen : ℕ} (h : s.loads[load]? = some (.querying gen)) :
      IndexMoves index s (.query load) { s with loads := s.loads.set load (.answered gen s.rows) }
  | answered {load gen : ℕ} {rows : ρ} (h : s.loads[load]? = some (.answered gen rows)) :
      IndexMoves index s (.answer load)
        { s with
          loads := s.loads.set load (.resolved (index rows))
          groupIndexCache := if gen = s.groupIndexGen then some (index rows, s.now) else s.groupIndexCache }
  | refused {load : ℕ} : IndexMoves index s (.refuse load) { s with loads := s.loads.set load .rejected }
  | returned {call load : ℕ} {own : Bool} {value : β} {loading : Option ℕ}
      (hcall : s.calls[call]? = some (.waiting load own)) (hload : s.loads[load]? = some (.resolved value))
      (hloading : loading = none ∨ loading = s.groupIndexLoading) :
      IndexMoves index s (.resume call)
        { s with groupIndexLoading := loading, calls := s.calls.set call (.returned value) }
  | failed {call : ℕ} {loading : Option ℕ} (hloading : loading = none ∨ loading = s.groupIndexLoading) :
      IndexMoves index s (.resume call)
        { s with groupIndexLoading := loading, calls := s.calls.set call .failed }
  | ticked (ms : ℤ) : IndexMoves index s (.tick ms) { s with now := s.now + ms }

theorem loadGroupIndex_moves : IndexMoves index s .call (loadGroupIndex s) := by
  unfold loadGroupIndex
  split
  case h_1 cached hhit => exact .hit (Option.filter_eq_some_iff.1 hhit).1
  case h_2 =>
    split
    case h_1 load hloading => exact .joined hloading
    case h_2 => exact .began

theorem resumeIndex_moves {call : ℕ} (h : resumeIndex s call = some t) : IndexMoves index s (.resume call) t := by
  unfold resumeIndex at h
  split at h
  case h_2 => cases h
  case h_1 load own hcall =>
    have hloading : (if own && decide (s.groupIndexLoading = some load) then none else s.groupIndexLoading) = none ∨
        (if own && decide (s.groupIndexLoading = some load) then none else s.groupIndexLoading) =
          s.groupIndexLoading := by
      split_ifs
      · exact .inl rfl
      · exact .inr rfl
    dsimp only at h
    split at h
    case h_1 value hload =>
      obtain rfl := Option.some.inj h
      exact .returned hcall hload hloading
    case h_2 hload =>
      obtain rfl := Option.some.inj h
      exact .failed hloading
    case h_3 => cases h

theorem indexStep_moves {op : IndexOp ρ} (h : indexStep index s op = some t) : IndexMoves index s op t := by
  cases op with
  | write rows =>
      obtain rfl := Option.some.inj h
      exact .wrote rows
  | invalidate =>
      obtain rfl := Option.some.inj h
      exact .invalidated
  | call =>
      obtain rfl := Option.some.inj h
      exact loadGroupIndex_moves
  | query load =>
      simp only [indexStep, queryIndex] at h
      split at h
      case h_1 gen hload =>
        obtain rfl := Option.some.inj h
        exact .queried hload
      case h_2 => cases h
  | answer load =>
      simp only [indexStep, answerIndex] at h
      split at h
      case h_1 gen rows hload =>
        obtain rfl := Option.some.inj h
        exact .answered hload
      case h_2 => cases h
  | refuse load =>
      simp only [indexStep, refuseIndex] at h
      split at h
      case h_3 => cases h
      all_goals
        obtain rfl := Option.some.inj h
        exact .refused
  | resume call => exact resumeIndex_moves h
  | tick ms =>
      obtain rfl := Option.some.inj h
      exact .ticked ms

/-! ## After an invalidation -/

def Load.gen? : Load ρ β → Option ℕ
  | .querying gen | .answered gen _ => some gen
  | .resolved _ | .rejected => none

/-- Every load was begun under a generation that was current. -/
def GenBound (s : IndexState ρ β) : Prop := ∀ load ∈ s.loads, ∀ gen ∈ load.gen?, gen ≤ s.groupIndexGen

theorem genBound_set {loads : List (Load ρ β)} {bound l : ℕ} {load : Load ρ β}
    (h : ∀ load ∈ loads, ∀ gen ∈ load.gen?, gen ≤ bound) (hload : ∀ gen ∈ load.gen?, gen ≤ bound) :
    ∀ load' ∈ loads.set l load, ∀ gen ∈ load'.gen?, gen ≤ bound := by
  intro load' hmem gen hgen
  rcases List.mem_or_eq_of_mem_set hmem with hold | rfl
  · exact h load' hold gen hgen
  · exact hload gen hgen

theorem GenBound.step {op : IndexOp ρ} (h : GenBound s) (hm : IndexMoves index s op t) : GenBound t := by
  cases hm with
  | wrote _ | ticked _ | hit _ | joined _ | returned _ _ _ | failed _ => exact h
  | invalidated => exact fun load hload gen hgen => (h load hload gen hgen).trans (Nat.le_succ _)
  | began =>
      intro load hload gen hgen
      rcases List.mem_append.1 hload with hold | hnew
      · exact h load hold gen hgen
      · rw [List.mem_singleton.1 hnew, Load.gen?, Option.mem_some] at hgen
        exact hgen.ge
  | queried hload =>
      refine genBound_set h fun gen hgen => ?_
      exact h _ (List.mem_of_getElem? hload) gen hgen
  | answered _ | refused => exact genBound_set h fun gen hgen => by cases hgen

theorem genBound_of_reach (h : Reach (indexMachine index) anyStep s) : GenBound s := by
  refine h.invariant (fun s hs => ?_) fun s op t hs _ hstep => hs.step (indexStep_moves hstep)
  obtain ⟨-, -, hloads, -⟩ := hs
  intro load hload
  rw [hloads] at hload
  cases hload

/-- The value was built from rows that `P` holds of. -/
def BuiltFrom (index : ρ → β) (P : ρ → Prop) (value : β) : Prop := ∃ rows, P rows ∧ value = index rows

/-- Since generation `gen` began with `loads` loads and `calls` calls: what is cached, shared or returned by the
calls that came later was built from rows that `P` holds of. -/
structure Fresh (index : ρ → β) (gen loads calls : ℕ) (P : ρ → Prop) (s : IndexState ρ β) : Prop where
  gen_le : gen ≤ s.groupIndexGen
  loads_le : loads ≤ s.loads.length
  calls_le : calls ≤ s.calls.length
  old : ∀ l < loads, ∀ load, s.loads[l]? = some load → ∀ g ∈ load.gen?, g < gen
  cached : ∀ cached ∈ s.groupIndexCache, BuiltFrom index P cached.1
  loading : ∀ l ∈ s.groupIndexLoading, loads ≤ l
  answered : ∀ l g rows, loads ≤ l → s.loads[l]? = some (.answered g rows) → P rows
  resolved : ∀ l value, loads ≤ l → s.loads[l]? = some (.resolved value) → BuiltFrom index P value
  waiting : ∀ c l own, calls ≤ c → s.calls[c]? = some (.waiting l own) → loads ≤ l
  returned : ∀ c value, calls ≤ c → s.calls[c]? = some (.returned value) → BuiltFrom index P value

variable {gen loads calls : ℕ} {P Q : ρ → Prop}

theorem BuiltFrom.mono (hPQ : ∀ rows, P rows → Q rows) {value : β} :
    BuiltFrom index P value → BuiltFrom index Q value :=
  fun ⟨rows, hrows, hvalue⟩ => ⟨rows, hPQ rows hrows, hvalue⟩

theorem Fresh.mono (h : Fresh index gen loads calls P s) (hPQ : ∀ rows, P rows → Q rows) :
    Fresh index gen loads calls Q s where
  gen_le := h.gen_le
  loads_le := h.loads_le
  calls_le := h.calls_le
  old := h.old
  cached cached hcached := (h.cached cached hcached).mono hPQ
  loading := h.loading
  answered l g rows hl hload := hPQ rows (h.answered l g rows hl hload)
  resolved l value hl hload := (h.resolved l value hl hload).mono hPQ
  waiting := h.waiting
  returned c value hc hcall := (h.returned c value hc hcall).mono hPQ

/-- A call that is added. -/
theorem Fresh.addCall (h : Fresh index gen loads calls P s) {call : IndexCall β}
    (hwaiting : ∀ l own, call = .waiting l own → loads ≤ l)
    (hreturned : ∀ value, call = .returned value → BuiltFrom index P value) :
    Fresh index gen loads calls P { s with calls := s.calls ++ [call] } := by
  refine ⟨h.gen_le, h.loads_le, h.calls_le.trans (by simp), h.old, h.cached, h.loading, h.answered, h.resolved,
    fun c l own hc hcall => ?_, fun c value hc hcall => ?_⟩ <;>
  · dsimp only at hcall
    rcases Nat.lt_trichotomy c s.calls.length with hlt | rfl | hgt
    · rw [List.getElem?_append_left hlt] at hcall
      first | exact h.waiting c l own hc hcall | exact h.returned c value hc hcall
    · rw [List.getElem?_concat_length, Option.some.injEq] at hcall
      first | exact hwaiting l own hcall | exact hreturned value hcall
    · rw [List.getElem?_eq_none (by rw [List.length_append, List.length_singleton]; exact hgt)] at hcall
      cases hcall

/-- A call that ends, with its `finally`. -/
theorem Fresh.setCall (h : Fresh index gen loads calls P s) {call : IndexCall β} {c : ℕ} {loading : Option ℕ}
    (hwaiting : ∀ l own, call ≠ .waiting l own)
    (hreturned : calls ≤ c → ∀ value, call = .returned value → BuiltFrom index P value)
    (hloading : loading = none ∨ loading = s.groupIndexLoading) :
    Fresh index gen loads calls P { s with groupIndexLoading := loading, calls := s.calls.set c call } := by
  refine ⟨h.gen_le, h.loads_le, h.calls_le.trans (List.length_set).ge, h.old, h.cached, fun l hl => ?_, h.answered,
    h.resolved, fun c' l own hc' hcall => ?_, fun c' value hc' hcall => ?_⟩
  · rcases hloading with rfl | rfl
    · cases hl
    · exact h.loading l hl
  all_goals
    dsimp only at hcall
    rw [List.getElem?_set] at hcall
    split_ifs at hcall with heq hlt
  · exact absurd (Option.some.inj hcall) (hwaiting l own)
  · exact h.waiting c' l own hc' hcall
  · exact hreturned (heq ▸ hc') value (Option.some.inj hcall)
  · exact h.returned c' value hc' hcall

/-- A load that goes on. -/
theorem Fresh.setLoad (h : Fresh index gen loads calls P s) {load : Load ρ β} {l : ℕ} {cache : Option (β × ℤ)}
    (hold : l < loads → ∀ g ∈ load.gen?, g < gen) (hcached : ∀ cached ∈ cache, BuiltFrom index P cached.1)
    (hanswered : loads ≤ l → ∀ g rows, load = .answered g rows → P rows)
    (hresolved : loads ≤ l → ∀ value, load = .resolved value → BuiltFrom index P value) :
    Fresh index gen loads calls P { s with loads := s.loads.set l load, groupIndexCache := cache } := by
  refine ⟨h.gen_le, h.loads_le.trans (List.length_set).ge, h.calls_le, fun l' hl' load' hload' => ?_, hcached,
    h.loading, fun l' g rows hl' hload' => ?_, fun l' value hl' hload' => ?_, h.waiting, h.returned⟩
  all_goals
    dsimp only at hload'
    rw [List.getElem?_set] at hload'
    split_ifs at hload' with heq hlt
  · obtain rfl := Option.some.inj hload'
    exact hold (heq ▸ hl')
  · exact h.old l' hl' load' hload'
  · exact hanswered (heq ▸ hl') g rows (Option.some.inj hload')
  · exact h.answered l' g rows hl' hload'
  · exact hresolved (heq ▸ hl') value (Option.some.inj hload')
  · exact h.resolved l' value hl' hload'

/-- A load that is begun. -/
theorem Fresh.addLoad (h : Fresh index gen loads calls P s) {g : ℕ} : Fresh index gen loads calls P
    { s with loads := s.loads ++ [.querying g], groupIndexLoading := some s.loads.length } := by
  have hnew : ∀ (l : ℕ) (load : Load ρ β), (s.loads ++ [Load.querying g])[l]? = some load →
      s.loads[l]? = some load ∨ load = Load.querying g := by
    intro l load hload
    rcases Nat.lt_trichotomy l s.loads.length with hlt | rfl | hgt
    · rw [List.getElem?_append_left hlt] at hload
      exact .inl hload
    · rw [List.getElem?_concat_length, Option.some.injEq] at hload
      exact .inr hload.symm
    · rw [List.getElem?_eq_none (by rw [List.length_append, List.length_singleton]; exact hgt)] at hload
      cases hload
  refine ⟨h.gen_le, h.loads_le.trans (by simp), h.calls_le, fun l hl load hload => ?_, h.cached, fun l hl => ?_,
    fun l g' rows hl hload => ?_, fun l value hl hload => ?_, h.waiting, h.returned⟩
  · refine h.old l hl load ?_
    dsimp only at hload
    rwa [List.getElem?_append_left (hl.trans_le h.loads_le)] at hload
  · rw [← Option.mem_some.1 hl]
    exact h.loads_le
  · exact h.answered l g' rows hl ((hnew l _ hload).resolve_right (by simp))
  · exact h.resolved l value hl ((hnew l _ hload).resolve_right (by simp))

theorem Fresh.step {op : IndexOp ρ} (h : Fresh index gen loads calls P s) (hnow : P s.rows)
    (hm : IndexMoves index s op t) : Fresh index gen loads calls P t := by
  cases hm with
  | wrote _ | ticked _ =>
      exact ⟨h.gen_le, h.loads_le, h.calls_le, h.old, h.cached, h.loading, h.answered, h.resolved, h.waiting,
        h.returned⟩
  | invalidated =>
      exact ⟨h.gen_le.trans (Nat.le_succ _), h.loads_le, h.calls_le, h.old, (by rintro _ ⟨⟩), (by rintro _ ⟨⟩),
        h.answered, h.resolved, h.waiting, h.returned⟩
  | @hit cached hcached =>
      refine h.addCall (by rintro _ _ ⟨⟩) fun value hvalue => ?_
      rw [← IndexCall.returned.inj hvalue]
      exact h.cached cached hcached
  | joined hloading =>
      refine h.addCall (fun l own hl => ?_) (by rintro _ ⟨⟩)
      rw [← (IndexCall.waiting.inj hl).1]
      exact h.loading _ hloading
  | began =>
      refine h.addLoad.addCall (fun l own hl => ?_) (by rintro _ ⟨⟩)
      rw [← (IndexCall.waiting.inj hl).1]
      exact h.loads_le
  | @queried load g hload =>
      refine h.setLoad (fun hl => ?_) h.cached (fun _ g' rows hrows => ?_) (by rintro _ _ ⟨⟩)
      · exact h.old load hl (.querying g) hload
      · rw [← (Load.answered.inj hrows).2]
        exact hnow
  | @answered load g rows hload =>
      refine h.setLoad (by rintro _ _ ⟨⟩) (fun cached hcached => ?_) (by rintro _ _ _ ⟨⟩) fun hl value hvalue => ?_
      · split_ifs at hcached with hgen
        · rw [← Option.mem_some.1 hcached]
          -- a load of the current generation was begun after the invalidation
          refine ⟨rows, h.answered load g rows ?_ hload, rfl⟩
          refine Nat.le_of_not_lt fun hl => ?_
          exact absurd (h.old load hl _ hload g rfl) (hgen ▸ h.gen_le.not_gt)
        · exact h.cached cached hcached
      · rw [← Load.resolved.inj hvalue]
        exact ⟨rows, h.answered load g rows hl hload, rfl⟩
  | refused => exact h.setLoad (by rintro _ _ ⟨⟩) h.cached (by rintro _ _ _ ⟨⟩) (by rintro _ _ ⟨⟩)
  | @returned call load own value loading hcall hload hloading =>
      refine h.setCall (by rintro _ _ ⟨⟩) (fun hc value' hvalue => ?_) hloading
      rw [← IndexCall.returned.inj hvalue]
      exact h.resolved load value (h.waiting call load own hc hcall) hload
  | failed hloading => exact h.setCall (by rintro _ _ ⟨⟩) (by rintro _ _ ⟨⟩) hloading

theorem fresh_invalidated (h : GenBound s) : Fresh index (s.groupIndexGen + 1) s.loads.length s.calls.length
    (· = (invalidateGroupThresholdCache s).rows) (invalidateGroupThresholdCache s) := by
  refine ⟨le_rfl, le_rfl, le_rfl, fun l _ load hload g hg => ?_, by rintro _ ⟨⟩, by rintro _ ⟨⟩,
    fun l g rows hl hload => ?_, fun l value hl hload => ?_, fun c l own hc hcall => ?_, fun c value hc hcall => ?_⟩
  · exact Nat.lt_succ_of_le (h load (List.mem_of_getElem? hload) g hg)
  all_goals
    first
    | rw [show (invalidateGroupThresholdCache s).loads[l]? = none from List.getElem?_eq_none hl] at hload
      cases hload
    | rw [show (invalidateGroupThresholdCache s).calls[c]? = none from List.getElem?_eq_none hc] at hcall
      cases hcall

end Steps

/-- **No stale group tree**: what a call gets that came after an invalidation was built from rows the table had at
some moment since then, whatever loads were on their way. -/
theorem groupIndex_fresh {ρ β : Type} (index : ρ → β) {s t : IndexState ρ β}
    (hs : Reach (indexMachine index) anyStep s) (ops : List (IndexOp ρ))
    (ht : (indexMachine index).exec (invalidateGroupThresholdCache s) ops = some t) {c : ℕ} (hc : s.calls.length ≤ c)
    {value : β} (hcall : t.calls[c]? = some (.returned value)) :
    ∃ rows, (indexMachine index).Seen IndexState.rows (invalidateGroupThresholdCache s) ops rows ∧
      value = index rows := by
  have hfresh := Machine.exec_observed
    (I := fun P t => Fresh index (s.groupIndexGen + 1) s.loads.length s.calls.length P t)
    (fresh_invalidated (genBound_of_reach hs))
    (fun P u op t hnow h hstep => (h.step hnow (indexStep_moves hstep)).mono fun _ => .inl) ops ht
  exact hfresh.returned c value hc hcall

/-- The rows of a load arrive after the table was written. -/
def racedIndex : IndexState ℕ ℕ := ⟨0, 2, none, some 0, 0, [.answered 0 1], [.waiting 0 true]⟩

theorem racedIndex_reach : Reach (indexMachine id) anyStep racedIndex :=
  reach_of_exec (s := ⟨0, 1, none, none, 0, [], []⟩) ⟨rfl, rfl, rfl, rfl⟩ [.call, .query 0, .write 2] rfl

/-- The next call loads again and gets the new row, although the old load ends first. -/
theorem groupIndex_fresh_raced : ∃ rows, (indexMachine id).Seen IndexState.rows
    (invalidateGroupThresholdCache racedIndex) [.call, .answer 0, .query 1, .answer 1, .resume 1] rows ∧ 2 = id rows :=
  groupIndex_fresh id racedIndex_reach _ (t := ⟨0, 2, some (2, 0), none, 1, [.resolved 1, .resolved 2],
    [.waiting 0 true, .returned 2]⟩) rfl (c := 1) (by decide) rfl

/-! ## `loadGlobal` and `loadTenant` -/

section Layer
variable {κ ρ β : Type} [DecidableEq κ]

/-- A call, with the time it began at. -/
inductive LayerCall (κ ρ β : Type) where
  | querying (key : κ) (at' : ℤ)
  | answered (key : κ) (at' : ℤ) (row : ρ)
  | returned (key : κ) (value : β)
  | failed
  deriving DecidableEq, Repr

structure LayerState (κ ρ β : Type) where
  now : ℤ
  /-- What is committed to `app_config`, or to `tenants`. -/
  row : κ → ρ
  cache : κ → Option (β × ℤ)
  calls : List (LayerCall κ ρ β)

inductive LayerOp (κ ρ : Type) where
  | write (key : κ) (row : ρ)
  | invalidate (key : κ)
  | call (key : κ)
  | query (call : ℕ)
  | answer (call : ℕ)
  | refuse (call : ℕ)
  | tick (ms : ℕ)
  deriving DecidableEq, Repr

variable (parse : ρ → β) (s : LayerState κ ρ β)

/-- `invalidateGlobalThresholdCache` and `invalidateTenantThresholdCache`. -/
def invalidateLayer (key : κ) : LayerState κ ρ β := { s with cache := Function.update s.cache key none }

/-- The common part of the two; what is cached carries the time the call began at. -/
def loadLayer (key : κ) : LayerState κ ρ β :=
  match (s.cache key).filter fun cached => s.now - cached.2 < CACHE_TTL_MS with
  | some cached => { s with calls := s.calls ++ [.returned key cached.1] }
  | none => { s with calls := s.calls ++ [.querying key s.now] }

def queryLayer (call : ℕ) : Option (LayerState κ ρ β) :=
  match s.calls[call]? with
  | some (.querying key at') => some { s with calls := s.calls.set call (.answered key at' (s.row key)) }
  | _ => none

def answerLayer (call : ℕ) : Option (LayerState κ ρ β) :=
  match s.calls[call]? with
  | some (.answered key at' row) =>
      some { s with
        cache := Function.update s.cache key (some (parse row, at'))
        calls := s.calls.set call (.returned key (parse row)) }
  | _ => none

def refuseLayer (call : ℕ) : Option (LayerState κ ρ β) :=
  match s.calls[call]? with
  | some (.querying _ _) | some (.answered _ _ _) => some { s with calls := s.calls.set call .failed }
  | _ => none

def layerStep : LayerOp κ ρ → Option (LayerState κ ρ β)
  | .write key row => some { s with row := Function.update s.row key row }
  | .invalidate key => some (invalidateLayer s key)
  | .call key => some (loadLayer s key)
  | .query call => queryLayer s call
  | .answer call => answerLayer parse s call
  | .refuse call => refuseLayer s call
  | .tick ms => some { s with now := s.now + ms }

def layerMachine : Machine (LayerState κ ρ β) (LayerOp κ ρ) where
  init s := (∀ key, s.cache key = none) ∧ s.calls = []
  step := layerStep parse

/-- `loadGlobal`: one row of `app_config`. -/
def globalMachine {ρ β : Type} (parse : ρ → β) : Machine (LayerState Unit ρ β) (LayerOp Unit ρ) := layerMachine parse

/-- `loadTenant`: a row of `tenants` for each id. -/
def tenantMachine {ρ β : Type} (parse : ρ → β) : Machine (LayerState ℕ ρ β) (LayerOp ℕ ρ) := layerMachine parse

end Layer

section LayerSteps
variable {κ ρ β : Type} [DecidableEq κ] {parse : ρ → β} {s t : LayerState κ ρ β} {key : κ}

/-- The effects of a step, one constructor each. -/
inductive LayerMoves (parse : ρ → β) (s : LayerState κ ρ β) : LayerOp κ ρ → LayerState κ ρ β → Prop
  | wrote (key : κ) (row : ρ) : LayerMoves parse s (.write key row) { s with row := Function.update s.row key row }
  | invalidated (key : κ) :
      LayerMoves parse s (.invalidate key) (invalidateLayer s key)
  | hit {key : κ} {cached : β × ℤ} (h : s.cache key = some cached) (hnew : s.now - cached.2 < CACHE_TTL_MS) :
      LayerMoves parse s (.call key) { s with calls := s.calls ++ [.returned key cached.1] }
  | began {key : κ} : LayerMoves parse s (.call key) { s with calls := s.calls ++ [.querying key s.now] }
  | queried {call : ℕ} {key : κ} {at' : ℤ} (h : s.calls[call]? = some (.querying key at')) :
      LayerMoves parse s (.query call) { s with calls := s.calls.set call (.answered key at' (s.row key)) }
  | answered {call : ℕ} {key : κ} {at' : ℤ} {row : ρ} (h : s.calls[call]? = some (.answered key at' row)) :
      LayerMoves parse s (.answer call)
        { s with
          cache := Function.update s.cache key (some (parse row, at'))
          calls := s.calls.set call (.returned key (parse row)) }
  | refused {call : ℕ} : LayerMoves parse s (.refuse call) { s with calls := s.calls.set call .failed }
  | ticked (ms : ℕ) : LayerMoves parse s (.tick ms) { s with now := s.now + ms }

theorem layerStep_moves {op : LayerOp κ ρ} (h : layerStep parse s op = some t) : LayerMoves parse s op t := by
  cases op with
  | write key row =>
      obtain rfl := Option.some.inj h
      exact .wrote key row
  | invalidate key =>
      obtain rfl := Option.some.inj h
      exact .invalidated key
  | call key =>
      obtain rfl := Option.some.inj h
      unfold loadLayer
      split
      case h_1 cached hhit =>
        obtain ⟨hcached, hnew⟩ := Option.filter_eq_some_iff.1 hhit
        exact .hit hcached (of_decide_eq_true hnew)
      case h_2 => exact .began
  | query call =>
      simp only [layerStep, queryLayer] at h
      split at h
      case h_1 key at' hcall =>
        obtain rfl := Option.some.inj h
        exact .queried hcall
      case h_2 => cases h
  | answer call =>
      simp only [layerStep, answerLayer] at h
      split at h
      case h_1 key at' row hcall =>
        obtain rfl := Option.some.inj h
        exact .answered hcall
      case h_2 => cases h
  | refuse call =>
      simp only [layerStep, refuseLayer] at h
      split at h
      case h_3 => cases h
      all_goals
        obtain rfl := Option.some.inj h
        exact .refused
  | tick ms =>
      obtain rfl := Option.some.inj h
      exact .ticked ms

/-- The value comes from a row that `P` holds of, or is too old to be used. -/
def FreshOrOld (parse : ρ → β) (P : ρ → Prop) (now : ℤ) (value : β) (at' : ℤ) : Prop :=
  BuiltFrom parse P value ∨ CACHE_TTL_MS ≤ now - at'

/-- Since there were `calls` calls: what is cached under the key, what calls bring for it, and what the later of
them returned. -/
structure LayerFresh (parse : ρ → β) (key : κ) (calls : ℕ) (P : ρ → Prop) (s : LayerState κ ρ β) : Prop where
  calls_le : calls ≤ s.calls.length
  cached : ∀ value at', s.cache key = some (value, at') → FreshOrOld parse P s.now value at'
  answered : ∀ (c : ℕ) at' row, s.calls[c]? = some (.answered key at' row) → FreshOrOld parse P s.now (parse row) at'
  later : ∀ c at' row, calls ≤ c → s.calls[c]? = some (.answered key at' row) → P row
  returned : ∀ c value, calls ≤ c → s.calls[c]? = some (.returned key value) → BuiltFrom parse P value

variable {calls : ℕ} {P Q : ρ → Prop}

theorem FreshOrOld.mono (hPQ : ∀ row, P row → Q row) {now now' : ℤ} (hnow : now ≤ now') {value : β} {at' : ℤ}
    (h : FreshOrOld parse P now value at') : FreshOrOld parse Q now' value at' :=
  h.imp (BuiltFrom.mono hPQ) fun hold => by omega

omit [DecidableEq κ] in
theorem LayerFresh.mono (h : LayerFresh parse key calls P s) (hPQ : ∀ row, P row → Q row) :
    LayerFresh parse key calls Q s where
  calls_le := h.calls_le
  cached value at' hcached := (h.cached value at' hcached).mono hPQ le_rfl
  answered c at' row hcall := (h.answered c at' row hcall).mono hPQ le_rfl
  later c at' row hc hcall := hPQ row (h.later c at' row hc hcall)
  returned c value hc hcall := (h.returned c value hc hcall).mono hPQ

omit [DecidableEq κ] in
theorem LayerFresh.addCall (h : LayerFresh parse key calls P s) {call : LayerCall κ ρ β}
    (hanswered : ∀ (at' : ℤ) (row : ρ), call ≠ .answered key at' row)
    (hreturned : ∀ value, call = .returned key value → BuiltFrom parse P value) :
    LayerFresh parse key calls P { s with calls := s.calls ++ [call] } := by
  have hnew : ∀ (c : ℕ) call', (s.calls ++ [call])[c]? = some call' → s.calls[c]? = some call' ∨ call = call' := by
    intro c call' hcall
    rcases Nat.lt_trichotomy c s.calls.length with hlt | rfl | hgt
    · rw [List.getElem?_append_left hlt] at hcall
      exact .inl hcall
    · rw [List.getElem?_concat_length, Option.some.injEq] at hcall
      exact .inr hcall
    · rw [List.getElem?_eq_none (by rw [List.length_append, List.length_singleton]; exact hgt)] at hcall
      cases hcall
  refine ⟨h.calls_le.trans (by simp), h.cached, fun c at' row hcall => ?_, fun c at' row hc hcall => ?_,
    fun c value hc hcall => ?_⟩
  · exact h.answered c at' row ((hnew c _ hcall).resolve_right (hanswered at' row))
  · exact h.later c at' row hc ((hnew c _ hcall).resolve_right (hanswered at' row))
  · exact (hnew c _ hcall).elim (h.returned c value hc) (hreturned value)

omit [DecidableEq κ] in
theorem LayerFresh.setCall (h : LayerFresh parse key calls P s) {call : LayerCall κ ρ β} {c : ℕ}
    {cache : κ → Option (β × ℤ)}
    (hcached : ∀ value at', cache key = some (value, at') → FreshOrOld parse P s.now value at')
    (hanswered : ∀ at' row, call = .answered key at' row → P row)
    (hreturned : calls ≤ c → ∀ value, call = .returned key value → BuiltFrom parse P value) :
    LayerFresh parse key calls P { s with cache := cache, calls := s.calls.set c call } := by
  refine ⟨h.calls_le.trans (List.length_set).ge, hcached, fun c' at' row hcall => ?_, fun c' at' row hc' hcall => ?_,
    fun c' value hc' hcall => ?_⟩
  all_goals
    dsimp only at hcall
    rw [List.getElem?_set] at hcall
    split_ifs at hcall with heq hlt
  · exact .inl ⟨row, hanswered at' row (Option.some.inj hcall), rfl⟩
  · exact h.answered c' at' row hcall
  · exact hanswered at' row (Option.some.inj hcall)
  · exact h.later c' at' row hc' hcall
  · exact hreturned (heq ▸ hc') value (Option.some.inj hcall)
  · exact h.returned c' value hc' hcall

theorem LayerFresh.step {op : LayerOp κ ρ} (h : LayerFresh parse key calls P s) (hnow : P (s.row key))
    (hm : LayerMoves parse s op t) : LayerFresh parse key calls P t := by
  cases hm with
  | wrote _ _ => exact ⟨h.calls_le, h.cached, h.answered, h.later, h.returned⟩
  | invalidated key' =>
      refine ⟨h.calls_le, fun value at' hcached => ?_, h.answered, h.later, h.returned⟩
      dsimp only [invalidateLayer] at hcached
      rw [Function.update_apply] at hcached
      split_ifs at hcached
      exact h.cached value at' hcached
  | @hit key' cached hcached hnew =>
      refine h.addCall (by rintro _ _ ⟨⟩) fun value hvalue => ?_
      obtain ⟨rfl, rfl⟩ := LayerCall.returned.inj hvalue
      exact (h.cached cached.1 cached.2 hcached).resolve_right (by omega)
  | began => exact h.addCall (by rintro _ _ ⟨⟩) (by rintro _ ⟨⟩)
  | @queried call key' at' hcall =>
      refine h.setCall h.cached (fun at'' row hrow => ?_) (by rintro _ _ ⟨⟩)
      obtain ⟨rfl, -, rfl⟩ := LayerCall.answered.inj hrow
      exact hnow
  | @answered call key' at' row hcall =>
      refine h.setCall (fun value at'' hcached => ?_) (by rintro _ _ ⟨⟩) fun hc value hvalue => ?_
      · rw [Function.update_apply] at hcached
        split_ifs at hcached with hkey
        · obtain ⟨rfl, rfl⟩ := Prod.mk.inj (Option.some.inj hcached)
          exact h.answered call at' row (hkey ▸ hcall)
        · exact h.cached value at'' hcached
      · obtain ⟨rfl, rfl⟩ := LayerCall.returned.inj hvalue
        exact ⟨row, h.later call at' row hc hcall, rfl⟩
  | refused => exact h.setCall h.cached (by rintro _ _ ⟨⟩) (by rintro _ _ ⟨⟩)
  | ticked ms =>
      have hle : s.now ≤ s.now + ms := Int.le_add_of_nonneg_right (Int.natCast_nonneg ms)
      exact ⟨h.calls_le, fun value at' hcached => (h.cached value at' hcached).mono (fun _ => id) hle,
        fun c at' row hcall => (h.answered c at' row hcall).mono (fun _ => id) hle, h.later, h.returned⟩

/-- The row that an open call brings is what the next call gets. -/
theorem late_answer (parse : ρ → β) {c : ℕ} {at' : ℤ} {row : ρ} (hcall : s.calls[c]? = some (.answered key at' row))
    (hnew : s.now - at' < CACHE_TTL_MS) : ∃ u, layerStep parse s (.answer c) = some u ∧ u.row = s.row ∧
      (loadLayer u key).row = s.row ∧
      (loadLayer u key).calls[s.calls.length]? = some (.returned key (parse row)) := by
  refine ⟨{ s with
    cache := Function.update s.cache key (some (parse row, at'))
    calls := s.calls.set c (.returned key (parse row)) }, ?_, rfl, ?_, ?_⟩
  · simp only [layerStep, answerLayer, hcall]
  all_goals simp only [loadLayer, Function.update_self, Option.filter_some, hnew, decide_true, if_true]
  rw [List.getElem?_append_right (List.length_set).le, List.length_set, Nat.sub_self]
  rfl

end LayerSteps

/-- **When the global and tenant layers are fresh**: calls after an invalidation get what the row was at some moment
since then exactly when no answer that is still on its way brings something else, unless it is already too old. -/
theorem layer_fresh_iff {κ ρ β : Type} [DecidableEq κ] (parse : ρ → β) (s : LayerState κ ρ β) (key : κ) :
    (∀ ops t c value, (layerMachine parse).exec (invalidateLayer s key) ops = some t →
        s.calls.length ≤ c → t.calls[c]? = some (.returned key value) →
        ∃ row, (layerMachine parse).Seen (fun s => s.row key)
          (invalidateLayer s key) ops row ∧ value = parse row) ↔
      ∀ (c : ℕ) at' row, s.calls[c]? = some (.answered key at' row) → s.now - at' < CACHE_TTL_MS →
        parse row = parse (s.row key) := by
  constructor
  · intro hfresh c at' row hcall hnew
    obtain ⟨u, hanswer, hu, ht, hlast⟩ :=
      late_answer (s := invalidateLayer s key) parse hcall hnew
    have hone : (layerMachine parse).exec (invalidateLayer s key) [.answer c] = some u := by
      rw [Machine.exec_cons, show (layerMachine parse).step (invalidateLayer s key) (.answer c) = some u from hanswer]
      rfl
    have htwo : (layerMachine parse).exec (invalidateLayer s key)
        ([.answer c] ++ [.call key]) = some (loadLayer u key) := by
      rw [Machine.exec_append, hone]
      rfl
    obtain ⟨row', hseen, hvalue⟩ := hfresh _ _ s.calls.length (parse row) htwo le_rfl hlast
    -- the row is the same in the three states of the run
    rw [Machine.seen_append hone rfl, ht, ← List.nil_append [LayerOp.answer c], Machine.seen_append rfl hanswer,
      Machine.seen_nil, hu] at hseen
    rw [hvalue]
    rcases hseen with (rfl | rfl) | rfl <;> rfl
  · intro hanswers ops t c value ht hc hcall
    have hstart : LayerFresh parse key s.calls.length (· = s.row key)
        (invalidateLayer s key) := by
      refine ⟨le_rfl, fun value at' hcached => ?_, fun c at' row hcall => ?_, fun c at' row hc hcall => ?_,
        fun c value hc hcall => ?_⟩
      · rw [show (invalidateLayer s key).cache key = none from Function.update_self ..] at hcached
        cases hcached
      · by_cases hnew : s.now - at' < CACHE_TTL_MS
        · exact .inl ⟨s.row key, rfl, hanswers c at' row hcall hnew⟩
        · exact .inr (Int.not_lt.1 hnew)
      all_goals
        rw [show (invalidateLayer s key).calls[c]? = none from List.getElem?_eq_none hc] at hcall
        cases hcall
    have hfresh := Machine.exec_observed (I := fun P t => LayerFresh parse key s.calls.length P t) hstart
      (fun P u op v hnow h hstep => (h.step hnow (layerStep_moves hstep)).mono fun _ => .inl) ops ht
    exact hfresh.returned c value hc hcall

/-- A row of a tenant that was read before it was written, and arrives after the invalidation. -/
example : ∃ s : LayerState ℕ ℕ ℕ, Reach (tenantMachine id) anyStep s ∧ s.calls[0]? = some (.answered 7 0 1) ∧
    s.now - 0 < CACHE_TTL_MS ∧ s.row 7 = 2 :=
  ⟨_, reach_of_exec (s := ⟨0, fun _ => 1, fun _ => none, []⟩) ⟨fun _ => rfl, rfl⟩ [.call 7, .query 0, .write 7 2] rfl,
    rfl, by decide, rfl⟩

end Obliance.Metrics.Thresholds
