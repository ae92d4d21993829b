import Mathlib.Logic.Function.Basic
import Mathlib.Order.Lattice

/-!
# Leases and a book that answers for them

Leases are issued on keys, each until an expiry or for good. A book has one expiry a key. It answers for a lease
as long as its entry is live, and covers it when the entry ends no earlier.

* `Expiry`, `Live` : a time or never, and what has not ended;
* `Answers`, `Covers` : at one time, and for good;
* `covers_iff` : a book covers its leases exactly if it answers for them at every later time;
* `covers_issue_iff` : an issue that overwrites the entry keeps the cover exactly if it shortens nothing;
* `covers_release` : the leases of a key are given up;
* `overlay`, `covers_overlay_iff` : a book made of rows that were read and of noted entries.
-/

namespace Leases

universe u v

inductive Expiry (τ : Type v) where
  | ends (t : τ)
  | never
  deriving DecidableEq, Repr

variable {κ : Type u} {τ : Type v} [LinearOrder τ]

/-- Not ended at `now`. -/
def Expiry.Live (now : τ) : Expiry τ → Prop
  | .ends t => now < t
  | .never => True

instance (now : τ) : (e : Expiry τ) → Decidable (e.Live now)
  | .ends t => inferInstanceAs (Decidable (now < t))
  | .never => .isTrue trivial

/-- The first ends no later. -/
def Expiry.Le : Expiry τ → Expiry τ → Prop
  | _, .never => True
  | .never, .ends _ => False
  | .ends s, .ends t => s ≤ t

instance : LE (Expiry τ) := ⟨Expiry.Le⟩

instance : (d e : Expiry τ) → Decidable (d ≤ e)
  | _, .never => .isTrue trivial
  | .never, .ends _ => .isFalse id
  | .ends s, .ends t => inferInstanceAs (Decidable (s ≤ t))

section
variable {now t : τ} {d e : Expiry τ}

theorem Expiry.le_refl (e : Expiry τ) : e ≤ e := by
  cases e with
  | ends t => exact le_rfl (a := t)
  | never => exact trivial

theorem Expiry.Live.mono (h : d.Live now) (hle : d ≤ e) : e.Live now := by
  cases e with
  | never => exact trivial
  | ends t =>
      cases d with
      | never => exact hle.elim
      | ends s => exact lt_of_lt_of_le h hle

theorem Expiry.Live.earlier (h : e.Live t) (ht : now ≤ t) : e.Live now := by
  cases e with
  | never => exact trivial
  | ends s => exact lt_of_le_of_lt ht h

/-- What ends before something else ends at a time at which the other is live. -/
theorem Expiry.ends_of_not_le (h : ¬ e ≤ d) : ∃ t, d = .ends t ∧ e.Live t := by
  cases d with
  | never => exact absurd trivial h
  | ends t =>
      cases e with
      | never => exact ⟨t, rfl, trivial⟩
      | ends s => exact ⟨t, rfl, lt_of_not_ge h⟩

end

abbrev Book (κ : Type u) (τ : Type v) := κ → Option (Expiry τ)

/-- At `now` every live lease is on a key with a live entry. -/
def Answers (now : τ) (book : Book κ τ) (leases : List (κ × Expiry τ)) : Prop :=
  ∀ l ∈ leases, l.2.Live now → ∃ b, book l.1 = some b ∧ b.Live now

/-- Every live lease is on a key whose entry ends no earlier. -/
def Covers (now : τ) (book : Book κ τ) (leases : List (κ × Expiry τ)) : Prop :=
  ∀ l ∈ leases, l.2.Live now → ∃ b, book l.1 = some b ∧ l.2 ≤ b

variable {now t : τ} {book rows noted : Book κ τ} {leases : List (κ × Expiry τ)} {k : κ} {e : Expiry τ}

theorem Covers.later (h : Covers now book leases) (ht : now ≤ t) : Covers t book leases :=
  fun l hl hlive => h l hl (hlive.earlier ht)

theorem Covers.answers (h : Covers now book leases) : Answers now book leases := by
  intro l hl hlive
  obtain ⟨b, hb, hle⟩ := h l hl hlive
  exact ⟨b, hb, hlive.mono hle⟩

/-- An entry that ends too early fails at the time it ends. -/
theorem covers_iff : Covers now book leases ↔ ∀ t, now ≤ t → Answers t book leases := by
  refine ⟨fun h t ht => (h.later ht).answers, fun h l hl hlive => ?_⟩
  obtain ⟨b, hb, hnow⟩ := h now le_rfl l hl hlive
  refine ⟨b, hb, ?_⟩
  by_contra hshort
  obtain ⟨t, rfl, ht⟩ := Expiry.ends_of_not_le hshort
  obtain ⟨b', hb', hends⟩ := h t (le_of_lt hnow) l hl ht
  rw [hb, Option.some.injEq] at hb'
  subst hb'
  exact absurd hends (lt_irrefl t)

variable [DecidableEq κ]

theorem covers_issue_iff (h : Covers now book leases) :
    Covers now (Function.update book k (some e)) (leases ++ [(k, e)]) ↔
      ∀ l ∈ leases, l.1 = k → l.2.Live now → l.2 ≤ e := by
  constructor
  · rintro hnew l hl rfl hlive
    obtain ⟨b, hb, hle⟩ := hnew l (List.mem_append_left _ hl) hlive
    rw [Function.update_self, Option.some.injEq] at hb
    exact hb ▸ hle
  · intro hle l hl hlive
    by_cases hk : l.1 = k
    · refine ⟨e, by rw [hk, Function.update_self], ?_⟩
      rcases List.mem_append.1 hl with hl | hl
      · exact hle l hl hk hlive
      · rw [List.mem_singleton.1 hl]
        exact e.le_refl
    · rw [Function.update_of_ne hk]
      rcases List.mem_append.1 hl with hl | hl
      · exact h l hl hlive
      · rw [List.mem_singleton.1 hl] at hk
        exact absurd rfl hk

theorem covers_release (h : Covers now book leases) :
    Covers now (Function.update book k none) (leases.filter (·.1 ≠ k)) := by
  intro l hl hlive
  obtain ⟨hl, hk⟩ := List.mem_filter.1 hl
  rw [Function.update_of_ne (of_decide_eq_true hk)]
  exact h l hl hlive

/-- The rows, and the live noted entries in their place. -/
def overlay (now : τ) (rows noted : Book κ τ) : Book κ τ := fun k =>
  match noted k with
  | some e => if e.Live now then some e else rows k
  | none => rows k

/-- The lease is noted, or nothing live is noted on its key and the rows have it. -/
def Has (now : τ) (rows noted : Book κ τ) (l : κ × Expiry τ) : Prop :=
  (∃ e ∈ noted l.1, l.2 ≤ e) ∨ (∀ e ∈ noted l.1, ¬ e.Live now) ∧ ∃ e ∈ rows l.1, l.2 ≤ e

instance (now : τ) (rows noted : Book κ τ) (l : κ × Expiry τ) : Decidable (Has now rows noted l) :=
  inferInstanceAs (Decidable (_ ∨ _ ∧ _))

omit [DecidableEq κ] in
theorem covers_overlay_iff :
    Covers now (overlay now rows noted) leases ↔ ∀ l ∈ leases, l.2.Live now → Has now rows noted l := by
  refine forall₃_congr fun l _ hlive => ?_
  unfold overlay Has
  cases hnoted : noted l.1 with
  | none => simp
  | some e =>
      by_cases he : e.Live now
      · simp [he]
      · have hlt : ¬ l.2 ≤ e := fun hle => he (hlive.mono hle)
        simp [he, hlt]

end Leases
