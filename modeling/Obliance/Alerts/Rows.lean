import Mathlib.Data.List.Sort
import Obliance.Alerts.Keys
import Obliance.Lib.KeyedTable

/-!
# The rows of `live_alerts` and the statements on them

* `resolveWhere`, `readWhere`, `deleteWhere`, `trimTenant`, `insertAlert` : the statements;
* `Shrinks t t'` : every row of `t'` is a row of `t`, with its key, and active only if it was;
  every statement but the insertion shrinks the table;
* `AtMostOne` : each incident has at most one active row; `AtMostOne.shrinks`, `AtMostOne.insert`.
-/

namespace Obliance.Alerts
open KeyedTable

inductive Severity where
  | info
  | warning
  | critical
  deriving DecidableEq, Repr

/-- A row of `live_alerts`, instants in milliseconds. -/
structure LiveAlert where
  id : ℕ
  tenantId : ℕ
  severity : Severity
  title : String
  message : String
  navigateTo : Option String
  stableKey : Option String
  readAt : Option ℤ
  createdAt : ℤ
  resolvedAt : Option ℤ
  deriving DecidableEq, Repr

/-- The arguments of `add`. -/
structure AddOpts where
  severity : Severity
  title : String
  message : String
  navigateTo : Option String
  stableKey : Option String
  deriving DecidableEq, Repr

/-- `resolved_at IS NULL` -/
def LiveAlert.active (a : LiveAlert) : Bool := a.resolvedAt.isNone

/-- `stable_key IN (…)`, for the keys of the incident. -/
def LiveAlert.ofIncident (inc : IncidentRef) (a : LiveAlert) : Bool :=
  match a.stableKey with
  | some key => decide (key ∈ incidentStableKeys inc)
  | none => false

def LiveAlert.activeOf (inc : IncidentRef) (a : LiveAlert) : Bool := a.ofIncident inc && a.active

def insertAlert (alerts : List LiveAlert) (id tenantId : ℕ) (opts : AddOpts) (now : ℤ) : List LiveAlert :=
  alerts ++ [⟨id, tenantId, opts.severity, opts.title, opts.message, opts.navigateTo, opts.stableKey,
    none, now, none⟩]

/-- `UPDATE … SET resolved_at = now WHERE … AND resolved_at IS NULL` -/
def resolveWhere (alerts : List LiveAlert) (p : LiveAlert → Bool) (now : ℤ) : List LiveAlert :=
  alerts.map fun a => if p a && a.active then { a with resolvedAt := some now } else a

/-- `UPDATE … SET read_at = now WHERE …` -/
def readWhere (alerts : List LiveAlert) (p : LiveAlert → Bool) (now : ℤ) : List LiveAlert :=
  alerts.map fun a => if p a then { a with readAt := some now } else a

def deleteWhere (alerts : List LiveAlert) (p : LiveAlert → Bool) : List LiveAlert :=
  alerts.filter fun a => !p a

/-- `ORDER BY (resolved_at IS NULL) DESC, id DESC` -/
def keptFirst (a b : LiveAlert) : Prop :=
  (a.active = true ∧ b.active = false) ∨ (a.active = b.active ∧ b.id ≤ a.id)

instance : DecidableRel keptFirst := fun a b =>
  inferInstanceAs (Decidable ((a.active = true ∧ b.active = false) ∨ (a.active = b.active ∧ b.id ≤ a.id)))

/-- The newest 200 rows of the tenant, active ones first. -/
def keptIds (alerts : List LiveAlert) (tenantId : ℕ) : List ℕ :=
  (((alerts.filter fun a => a.tenantId = tenantId).insertionSort keptFirst).take 200).map LiveAlert.id

def trimTenant (alerts : List LiveAlert) (tenantId : ℕ) : List LiveAlert :=
  deleteWhere alerts fun a =>
    decide (a.tenantId = tenantId) && !decide (a.id ∈ keptIds alerts tenantId)

/-! ## Statements that only shrink the table -/

/-- Every row left was there, under the same key, and it is active only if it was. -/
structure Shrinks (t t' : List LiveAlert) : Prop where
  ids : (t'.map LiveAlert.id).Sublist (t.map LiveAlert.id)
  rows : ∀ a' ∈ t', ∃ a ∈ t, a'.id = a.id ∧ a'.stableKey = a.stableKey ∧
    (a'.active = true → a.active = true)

theorem shrinks_map {t : List LiveAlert} {f : LiveAlert → LiveAlert}
    (hf : ∀ a, (f a).id = a.id ∧ (f a).stableKey = a.stableKey ∧
      ((f a).active = true → a.active = true)) : Shrinks t (t.map f) := by
  constructor
  · rw [map_key_map fun a => (hf a).1]
  · intro a' ha'
    obtain ⟨a, ha, rfl⟩ := List.mem_map.1 ha'
    exact ⟨a, ha, hf a⟩

theorem shrinks_resolveWhere (t : List LiveAlert) (p : LiveAlert → Bool) (now : ℤ) :
    Shrinks t (resolveWhere t p now) := by
  refine shrinks_map fun a => ?_
  split
  · exact ⟨rfl, rfl, fun h => by cases h⟩
  · exact ⟨rfl, rfl, id⟩

theorem shrinks_readWhere (t : List LiveAlert) (p : LiveAlert → Bool) (now : ℤ) :
    Shrinks t (readWhere t p now) := by
  refine shrinks_map fun a => ?_
  split <;> exact ⟨rfl, rfl, id⟩

theorem shrinks_deleteWhere (t : List LiveAlert) (p : LiveAlert → Bool) :
    Shrinks t (deleteWhere t p) :=
  ⟨List.filter_sublist.map _, fun a ha => ⟨a, List.mem_of_mem_filter ha, rfl, rfl, id⟩⟩

theorem mem_resolveWhere_active {t : List LiveAlert} {p : LiveAlert → Bool} {now : ℤ} {a : LiveAlert}
    (ha : a ∈ resolveWhere t p now) (hact : a.active = true) : a ∈ t ∧ p a = false := by
  obtain ⟨b, hb, he⟩ := List.mem_map.1 ha
  split at he
  · rw [← he] at hact
    cases hact
  · rename_i hn
    subst he
    refine ⟨hb, ?_⟩
    rw [hact, Bool.and_true] at hn
    simpa using hn

/-! ## At most one active row for each incident -/

/-- Ids are unique and used up, and two active rows of one incident are one row. -/
structure AtMostOne (alerts : List LiveAlert) (nextId : ℕ) : Prop where
  ids : Keyed LiveAlert.id alerts
  used : ∀ a ∈ alerts, a.id < nextId
  unique : ∀ inc, ∀ a ∈ alerts, ∀ b ∈ alerts, a.activeOf inc = true → b.activeOf inc = true →
    a.id = b.id

variable {t t' : List LiveAlert} {nextId : ℕ}

theorem activeOf_of_shrinks (h : Shrinks t t') {inc : IncidentRef} {a' : LiveAlert} (ha' : a' ∈ t')
    (hact : a'.activeOf inc = true) : ∃ a ∈ t, a'.id = a.id ∧ a.activeOf inc = true := by
  obtain ⟨a, ha, hid, hkey, hactive⟩ := h.rows a' ha'
  rw [LiveAlert.activeOf, Bool.and_eq_true, LiveAlert.ofIncident, hkey] at hact
  refine ⟨a, ha, hid, ?_⟩
  rw [LiveAlert.activeOf, Bool.and_eq_true, LiveAlert.ofIncident]
  exact ⟨hact.1, hactive hact.2⟩

theorem AtMostOne.shrinks (h : AtMostOne t nextId) (hs : Shrinks t t') : AtMostOne t' nextId := by
  refine ⟨h.ids.sublist hs.ids, fun a' ha' => ?_, fun inc a' ha' b' hb' hact hbct => ?_⟩
  · obtain ⟨a, ha, hid, -⟩ := hs.rows a' ha'
    exact hid ▸ h.used a ha
  · obtain ⟨a, ha, haid, haact⟩ := activeOf_of_shrinks hs ha' hact
    obtain ⟨b, hb, hbid, hbact⟩ := activeOf_of_shrinks hs hb' hbct
    rw [haid, hbid]
    exact h.unique inc a ha b hb haact hbact

/-- A row may be inserted when the incident of its key has no active row. -/
theorem AtMostOne.insert (h : AtMostOne t nextId) (tenantId : ℕ) (opts : AddOpts) (now : ℤ)
    (hfree : ∀ inc, parseIncidentStableKey opts.stableKey = some inc →
      ∀ a ∈ t, a.activeOf inc = false) :
    AtMostOne (insertAlert t nextId tenantId opts now) (nextId + 1) := by
  have hfresh : get LiveAlert.id t nextId = none := get_eq_none_iff.2 fun a ha => (h.used a ha).ne
  -- an active row of the incident of the new row is the new row
  have hnew : ∀ inc (a b : LiveAlert), a ∈ t → a.activeOf inc = true →
      b.stableKey = opts.stableKey → b.activeOf inc = true → False := by
    intro inc a b ha hact hkey hbct
    rw [LiveAlert.activeOf, Bool.and_eq_true, LiveAlert.ofIncident, hkey] at hbct
    cases hk : opts.stableKey with
    | none => rw [hk] at hbct; simp at hbct
    | some key =>
        rw [hk] at hbct
        have hpar := parse_of_mem_keys (of_decide_eq_true hbct.1)
        rw [hfree inc (hk ▸ hpar) a ha] at hact
        cases hact
  refine ⟨nodup_append h.ids hfresh, fun a ha => ?_, fun inc a ha b hb hact hbct => ?_⟩
  · rcases List.mem_append.1 ha with ha | ha
    · exact (h.used a ha).trans (Nat.lt_succ_self _)
    · rw [List.mem_singleton.1 ha]
      exact Nat.lt_succ_self _
  · rcases List.mem_append.1 ha with ha | ha <;> rcases List.mem_append.1 hb with hb | hb
    · exact h.unique inc a ha b hb hact hbct
    · rw [List.mem_singleton.1 hb] at hbct
      exact (hnew inc a _ ha hact rfl hbct).elim
    · rw [List.mem_singleton.1 ha] at hact
      exact (hnew inc b _ hb hbct rfl hact).elim
    · rw [List.mem_singleton.1 ha, List.mem_singleton.1 hb]

/-- The count the invariant stands for. -/
theorem AtMostOne.count_le_one (h : AtMostOne t nextId) (inc : IncidentRef) :
    (t.filter (LiveAlert.activeOf inc)).length ≤ 1 := by
  have hnodup : (t.filter (LiveAlert.activeOf inc)).Nodup := h.ids.of_map.filter _
  match hl : t.filter (LiveAlert.activeOf inc) with
  | [] => exact Nat.zero_le _
  | [_] => exact le_rfl
  | a :: b :: rest =>
      have hmem : ∀ x ∈ [a, b], x ∈ t ∧ x.activeOf inc = true := by
        intro x hx
        have : x ∈ t.filter (LiveAlert.activeOf inc) := by
          rw [hl]
          simp only [List.mem_cons, List.not_mem_nil, or_false] at hx ⊢
          tauto
        exact List.mem_filter.1 this
      obtain ⟨ha, hact⟩ := hmem a (by simp)
      obtain ⟨hb, hbct⟩ := hmem b (by simp)
      have heq : a = b := h.ids.eq_of_key ha hb (h.unique inc a ha b hb hact hbct)
      rw [hl, heq] at hnodup
      simp at hnodup

end Obliance.Alerts
