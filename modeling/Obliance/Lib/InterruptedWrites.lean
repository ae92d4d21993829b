import Mathlib.Logic.Function.Basic
import Mathlib.Data.List.Induction
import Mathlib.Data.Option.Basic

/-!
# Writes that stop at the first refused one

* `attempt` : the items of a list are applied in order, up to the first that is refused;
* `attempt_eq` : it applies the accepted beginning, and reports whether that is all;
* `run`, `last` : the map after a list of writes, and the last value written to a key;
* `run_apply`, `run_eq_self_iff` : what a list of writes leaves in the map, and when that is what was there.
-/

namespace InterruptedWrites

universe u v

section Attempt
variable {σ : Type u} {α : Type v} {ok : α → Bool} {step : σ → α → σ}

/-- The state that is left, and whether every item was applied. -/
def attempt (ok : α → Bool) (step : σ → α → σ) : σ → List α → σ × Bool
  | s, [] => (s, true)
  | s, a :: as => if ok a then attempt ok step (step s a) as else (s, false)

theorem attempt_eq (as : List α) :
    ∀ s : σ, attempt ok step s as = ((as.takeWhile ok).foldl step s, as.all ok) := by
  induction as with
  | nil => exact fun _ => rfl
  | cons a as ih =>
      intro s
      cases ha : ok a with
      | true => simp only [attempt, ha, if_true, ih, List.takeWhile_cons, List.foldl_cons, List.all_cons, Bool.true_and]
      | false => simp [attempt, ha]

end Attempt

section Map
variable {κ : Type u} {ν : Type v} [DecidableEq κ] {m : κ → Option ν} {ws : List (κ × ν)} {k : κ}

def run (m : κ → Option ν) (ws : List (κ × ν)) : κ → Option ν :=
  ws.foldl (fun m w => Function.update m w.1 (some w.2)) m

def last (ws : List (κ × ν)) (k : κ) : Option ν := (ws.reverse.find? fun w => w.1 = k).map Prod.snd

theorem run_append (m : κ → Option ν) (ws : List (κ × ν)) (w : κ × ν) :
    run m (ws ++ [w]) = Function.update (run m ws) w.1 (some w.2) := by
  rw [run, List.foldl_append]
  rfl

theorem run_apply : run m ws k = (last ws k).or (m k) := by
  induction ws using List.reverseRecOn with
  | nil => rfl
  | append_singleton ws w ih =>
      rw [run_append, last, List.reverse_append, List.reverse_singleton, List.singleton_append, List.find?_cons]
      by_cases hk : w.1 = k
      · rw [← hk, Function.update_self]
        simp
      · rw [Function.update_of_ne (Ne.symm hk), ih, last]
        simp [hk]

/-- The writes leave the map as it was when each key had its last value already. -/
theorem run_eq_self_iff : run m ws = m ↔ ∀ k v, last ws k = some v → m k = some v := by
  rw [funext_iff]
  refine forall_congr' fun k => ?_
  rw [run_apply]
  cases last ws k with
  | none => simp
  | some v => simp [eq_comm]

end Map

end InterruptedWrites
