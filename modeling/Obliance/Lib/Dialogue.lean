import Mathlib.Data.Nat.Basic
import Mathlib.Tactic.Common

/-!
# Systems that ask and go on with the answer

* `Dialogue Q A R` : what is asked next and, for each answer, how it goes on, up to a result;
* `Dialogue.run`, `Dialogue.Asks` : the questions under given answers, and all that may be asked;
* `Asker σ Q A R` : a system that works on its own until it asks a question or ends;
* `Follows M s d` : from `s` the system asks the questions of `d`, whatever is answered;
* `Follows.ends_iff` : then every run from `s` ends, with the questions and the result of `d`.
-/

namespace Dialogues

universe u v w x
variable {σ : Type u} {Q : Type v} {A : Type w} {R : Type x}

inductive Dialogue (Q : Type v) (A : Type w) (R : Type x) where
  | stop (r : R)
  | ask (q : Q) (k : A → Dialogue Q A R)

/-- The questions asked and the result; an answer may depend on the questions before it. -/
def Dialogue.run (answer : List Q → Q → A) : Dialogue Q A R → List Q → List Q × R
  | .stop r, asked => (asked, r)
  | .ask q k, asked => (k (answer asked q)).run answer (asked ++ [q])

/-- Every question that may be asked has the property. -/
def Dialogue.Asks (P : Q → Prop) : Dialogue Q A R → Prop
  | .stop _ => True
  | .ask q k => P q ∧ ∀ a, (k a).Asks P

/-- A system that steps while it can, then asks a question, or has ended. -/
structure Asker (σ : Type u) (Q : Type v) (A : Type w) (R : Type x) where
  step : σ → Option σ
  question : σ → Option (Q × (A → σ))
  result : σ → R

namespace Asker

def run (M : Asker σ Q A R) (answer : List Q → Q → A) : ℕ → σ → List Q → Option (List Q × R)
  | 0, _, _ => none
  | n + 1, s, asked =>
      match M.step s with
      | some t => M.run answer n t asked
      | none =>
          match M.question s with
          | some (q, k) => M.run answer n (k (answer asked q)) (asked ++ [q])
          | none => some (asked, M.result s)

/-- Enough fuel gives the questions and the result. -/
def Ends (M : Asker σ Q A R) (answer : List Q → Q → A) (s : σ) (out : List Q × R) : Prop :=
  ∃ n, M.run answer n s [] = some out

variable {M : Asker σ Q A R} {answer : List Q → Q → A} {s : σ} {asked : List Q} {out out' : List Q × R}

theorem run_succ (h : M.run answer n s asked = some out) : M.run answer (n + 1) s asked = some out := by
  induction n generalizing s asked with
  | zero => cases h
  | succ n ih =>
      unfold run at h ⊢
      split at h
      · exact ih h
      · split at h
        · exact ih h
        · exact h

theorem run_le {n m : ℕ} (h : M.run answer n s asked = some out) (hle : n ≤ m) :
    M.run answer m s asked = some out := by
  induction hle with
  | refl => exact h
  | step _ ih => exact run_succ ih

theorem Ends.unique (h : M.Ends answer s out) (h' : M.Ends answer s out') : out = out' := by
  obtain ⟨n, hn⟩ := h
  obtain ⟨m, hm⟩ := h'
  have hmax := run_le hn (le_max_left n m)
  rw [run_le hm (le_max_right n m)] at hmax
  exact (Option.some.inj hmax).symm

end Asker

/-- From `s` the system asks the questions of the dialogue, and ends with its result. -/
inductive Follows (M : Asker σ Q A R) : σ → Dialogue Q A R → Prop where
  | step {s t : σ} {d : Dialogue Q A R} : M.step s = some t → Follows M t d → Follows M s d
  | ask {s : σ} {q : Q} {next : A → σ} {k : A → Dialogue Q A R} : M.step s = none →
      M.question s = some (q, next) → (∀ a, Follows M (next a) (k a)) → Follows M s (.ask q k)
  | stop {s : σ} : M.step s = none → M.question s = none → Follows M s (.stop (M.result s))

variable {M : Asker σ Q A R} {s : σ} {d : Dialogue Q A R}

theorem Follows.run_eq (h : Follows M s d) (answer : List Q → Q → A) (asked : List Q) :
    ∃ n, M.run answer n s asked = some (d.run answer asked) := by
  induction h generalizing asked with
  | step hs _ ih =>
      obtain ⟨n, hn⟩ := ih asked
      exact ⟨n + 1, by rw [Asker.run, hs]; exact hn⟩
  | @ask s q next k hs hq _ ih =>
      obtain ⟨n, hn⟩ := ih (answer asked q) (asked ++ [q])
      exact ⟨n + 1, by rw [Asker.run, hs, hq]; exact hn⟩
  | stop hs hq => exact ⟨1, by rw [Asker.run, hs, hq]; rfl⟩

/-- **A system that follows a dialogue ends**, and with nothing but what the dialogue says. -/
theorem Follows.ends_iff (h : Follows M s d) {answer : List Q → Q → A} {out : List Q × R} :
    M.Ends answer s out ↔ out = d.run answer [] := by
  constructor
  · exact fun hout => hout.unique (h.run_eq answer [])
  · rintro rfl
    exact h.run_eq answer []

/-- Two systems that follow dialogues end alike exactly when the dialogues do. -/
theorem ends_alike_iff {τ : Type u} {N : Asker τ Q A R} {t : τ} {e : Dialogue Q A R} (h : Follows M s d)
    (h' : Follows N t e) {answer : List Q → Q → A} :
    (∃ out, M.Ends answer s out ∧ N.Ends answer t out) ↔ d.run answer [] = e.run answer [] := by
  constructor
  · rintro ⟨out, hs, ht⟩
    rw [← h.ends_iff.1 hs, ← h'.ends_iff.1 ht]
  · exact fun he => ⟨_, h.ends_iff.2 rfl, h'.ends_iff.2 he⟩

/-- The questions asked so far stay asked. -/
theorem Dialogue.asked_isPrefix_run (d : Dialogue Q A R) (answer : List Q → Q → A) (asked : List Q) :
    asked <+: (d.run answer asked).1 := by
  induction d generalizing asked with
  | stop r => exact List.prefix_refl asked
  | ask q k ih => exact (List.prefix_append asked [q]).trans (ih _ (asked ++ [q]))

theorem Dialogue.lt_length_run_ask (q : Q) (k : A → Dialogue Q A R) (answer : List Q → Q → A)
    (asked : List Q) : asked.length < ((Dialogue.ask q k).run answer asked).1.length := by
  have hle := ((k (answer asked q)).asked_isPrefix_run answer (asked ++ [q])).length_le
  rw [List.length_append, List.length_singleton] at hle
  exact hle

end Dialogues
