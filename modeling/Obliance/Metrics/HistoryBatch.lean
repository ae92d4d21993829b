import Mathlib.Algebra.Order.Ring.Rat
import Mathlib.Data.Rat.Defs
import Mathlib.Logic.Function.Basic
import Mathlib.Tactic.Common
import Obliance.Lib.GuardedRun
import Obliance.Lib.Numerals
import Obliance.Lib.WriteBehind

/-!
# The batched metric history (`services/device.service.ts`)

`accumulateCr` and `accumulateDk` fold samples into buckets in memory. Every 30 seconds a flush goes over the
six tables: it takes the buckets of a table, clears them and waits for the upsert of what it took. Nothing
keeps a flush from starting while another still waits. Sums are exact numbers here; the code adds doubles into real
columns, which rounds.

* `CrStats`, `DkStats`, `crKind`, `dkKind` : the aggregates of CPU and memory, and of a volume;
* `HistoryTable` : the six tables, with the types of their keys, samples and aggregates;
* `HistoryState`, `historyMachine` : buckets, stored rows and the flushes that wait;
* `naive`, `Exact` : the samples of a key one by one, and the batched history against them;
* `landed_isSome`, `stored_once` : what holds in every run, failures included;
* `InOrder`, `batch_exact` : the order of the upserts under which the two agree;
* `sequential_exact` : flushes that do not overlap keep that order.
-/

namespace Obliance.Metrics.History
open GuardedRun WriteBehind

/-! ## Aggregates -/

structure CrSample where
  cpu : ℚ
  ram : ℚ
  deriving DecidableEq, Repr

structure CrStats where
  cpuSum : ℚ
  ramSum : ℚ
  samples : ℕ
  cpuMax : ℚ
  cpuMin : ℚ
  ramMax : ℚ
  ramMin : ℚ
  deriving DecidableEq, Repr

/-- `if (x > m) m = x` -/
def raise (m x : ℚ) : ℚ := if x > m then x else m

/-- `if (x < m) m = x` -/
def lower (m x : ℚ) : ℚ := if x < m then x else m

/-- `accumulateCr` on a bucket that is there and on one that is not, and the merge of the upsert. -/
def crKind : Kind CrSample CrStats where
  first x := ⟨x.cpu, x.ram, 1, x.cpu, x.cpu, x.ram, x.ram⟩
  add e x := ⟨e.cpuSum + x.cpu, e.ramSum + x.ram, e.samples + 1, raise e.cpuMax x.cpu, lower e.cpuMin x.cpu,
    raise e.ramMax x.ram, lower e.ramMin x.ram⟩
  merge stored excluded := ⟨stored.cpuSum + excluded.cpuSum, stored.ramSum + excluded.ramSum,
    stored.samples + excluded.samples, max stored.cpuMax excluded.cpuMax, min stored.cpuMin excluded.cpuMin,
    max stored.ramMax excluded.ramMax, min stored.ramMin excluded.ramMin⟩

structure DkSample where
  pct : ℚ
  usedGb : ℚ
  totalGb : ℚ
  deriving DecidableEq, Repr

structure DkStats where
  pctSum : ℚ
  samples : ℕ
  pctMax : ℚ
  pctMin : ℚ
  usedGb : ℚ
  totalGb : ℚ
  deriving DecidableEq, Repr

/-- `accumulateDk`, and the merge of its upsert: the last volume sizes are those of the newer part. -/
def dkKind : Kind DkSample DkStats where
  first x := ⟨x.pct, 1, x.pct, x.pct, x.usedGb, x.totalGb⟩
  add e x := ⟨e.pctSum + x.pct, e.samples + 1, raise e.pctMax x.pct, lower e.pctMin x.pct, x.usedGb, x.totalGb⟩
  merge stored excluded := ⟨stored.pctSum + excluded.pctSum, stored.samples + excluded.samples,
    max stored.pctMax excluded.pctMax, min stored.pctMin excluded.pctMin, excluded.usedGb, excluded.totalGb⟩

theorem raise_eq_max (m x : ℚ) : raise m x = max m x := by
  unfold raise
  split_ifs with h
  · exact (max_eq_right h.le).symm
  · exact (max_eq_left (not_lt.1 h)).symm

theorem lower_eq_min (m x : ℚ) : lower m x = min m x := by
  unfold lower
  split_ifs with h
  · exact (min_eq_right h.le).symm
  · exact (min_eq_left (not_lt.1 h)).symm

theorem crKind_lawful : crKind.Lawful where
  add_eq s x := by simp [crKind, raise_eq_max, lower_eq_min]
  merge_assoc a b c := by simp [crKind, add_assoc, max_assoc, min_assoc]

theorem dkKind_lawful : dkKind.Lawful where
  add_eq s x := by simp [dkKind, raise_eq_max, lower_eq_min]
  merge_assoc a b c := by simp [dkKind, add_assoc, max_assoc, min_assoc]

/-- No column of the CPU and memory tables depends on the order of the upserts. -/
theorem crKind_commutes : crKind.Commutes := by
  intro a b
  simp [crKind, add_comm, max_comm, min_comm]

/-! ## The tables -/

inductive CrTable where
  | deviceMetric5min
  | deviceMetricHourly
  | deviceMetricDaily
  deriving DecidableEq, Repr

inductive DkTable where
  | deviceDisk5min
  | deviceDiskHourly
  | deviceDiskDaily
  deriving DecidableEq, Repr

inductive HistoryTable where
  | cr (table : CrTable)
  | dk (table : DkTable)
  deriving DecidableEq, Repr

/-- Buckets by their `getTime()`. -/
structure CrKey where
  deviceId : ℕ
  bucket : ℕ
  deriving DecidableEq, Repr

structure DkKey where
  deviceId : ℕ
  mount : String
  bucket : ℕ
  deriving DecidableEq, Repr

def CrKey.text (k : CrKey) : String := toString k.deviceId ++ "|" ++ toString k.bucket

def DkKey.text (k : DkKey) : String := toString k.deviceId ++ "|" ++ k.mount ++ "|" ++ toString k.bucket

/-- The digits of the device end at the first bar. -/
theorem CrKey.text_injective : Function.Injective CrKey.text := by
  rintro ⟨d, b⟩ ⟨d', b'⟩ h
  have hlist : (toString d).toList ++ '|' :: (toString b).toList =
      (toString d').toList ++ '|' :: (toString b').toList := by
    simpa [CrKey.text, String.toList_append] using congrArg String.toList h
  obtain ⟨hd, hb⟩ := Numerals.append_sep_inj (Numerals.notMem_decimal rfl d) (Numerals.notMem_decimal rfl d') hlist
  rw [Numerals.decimal_inj hd, Numerals.decimal_inj hb]

/-- A mount may hold a bar: the digits of the bucket begin after the last one. -/
theorem DkKey.text_injective : Function.Injective DkKey.text := by
  rintro ⟨d, m, b⟩ ⟨d', m', b'⟩ h
  have hlist : (toString d).toList ++ '|' :: (m.toList ++ '|' :: (toString b).toList) =
      (toString d').toList ++ '|' :: (m'.toList ++ '|' :: (toString b').toList) := by
    simpa [DkKey.text, String.toList_append] using congrArg String.toList h
  obtain ⟨hd, htail⟩ :=
    Numerals.append_sep_inj (Numerals.notMem_decimal rfl d) (Numerals.notMem_decimal rfl d') hlist
  have hreverse : (toString b).toList.reverse ++ '|' :: m.toList.reverse =
      (toString b').toList.reverse ++ '|' :: m'.toList.reverse := by
    simpa using congrArg List.reverse htail
  have hnotMem (n : ℕ) : '|' ∉ (toString n).toList.reverse := by
    rw [List.mem_reverse]
    exact Numerals.notMem_decimal rfl n
  obtain ⟨hb, hm⟩ := Numerals.append_sep_inj (hnotMem b) (hnotMem b') hreverse
  rw [Numerals.decimal_inj hd, Numerals.decimal_inj (List.reverse_inj.1 hb),
    String.toList_inj.1 (List.reverse_inj.1 hm)]

namespace HistoryTable

abbrev Key : HistoryTable → Type
  | cr _ => CrKey
  | dk _ => DkKey

abbrev Sample : HistoryTable → Type
  | cr _ => CrSample
  | dk _ => DkSample

abbrev Stats : HistoryTable → Type
  | cr _ => CrStats
  | dk _ => DkStats

instance decidableEqKey : ∀ t : HistoryTable, DecidableEq t.Key
  | cr _ => inferInstanceAs (DecidableEq CrKey)
  | dk _ => inferInstanceAs (DecidableEq DkKey)

def kind : (t : HistoryTable) → Kind t.Sample t.Stats
  | cr _ => crKind
  | dk _ => dkKind

def text : (t : HistoryTable) → t.Key → String
  | cr _ => CrKey.text
  | dk _ => DkKey.text

/-- A bucket in memory and a stored row have the same columns; the label is the tenant. -/
abbrev Accum (t : HistoryTable) : Type := Row t.Key ℕ t.Stats

theorem text_injective : ∀ t : HistoryTable, Function.Injective t.text
  | cr _ => CrKey.text_injective
  | dk _ => DkKey.text_injective

theorem kind_lawful : ∀ t : HistoryTable, t.kind.Lawful
  | cr _ => crKind_lawful
  | dk _ => dkKind_lawful

end HistoryTable

/-- The order in which a flush goes over the tables. -/
def flushOrder : List HistoryTable :=
  [.cr .deviceMetric5min, .cr .deviceMetricHourly, .cr .deviceMetricDaily,
    .dk .deviceDisk5min, .dk .deviceDiskHourly, .dk .deviceDiskDaily]

/-! ## The machine -/

/-- A flush that waits for the upsert of `rows` into `table`, with the tables it has not come to. -/
structure Flush where
  table : HistoryTable
  rows : List table.Accum
  todo : List HistoryTable
  anyFailure : Bool

/-- `flushes` has the flushes that wait by the age of what they took, the oldest first. -/
structure HistoryState where
  buckets : (t : HistoryTable) → List (String × t.Accum)
  stored : (t : HistoryTable) → List t.Accum
  flushes : List Flush
  historyFailures : ℕ
  historyDisabledUntil : ℕ

def HistoryState.boot : HistoryState := ⟨fun _ => [], fun _ => [], [], 0, 0⟩

inductive HistoryAction where
  | accumulateCr (table : CrTable) (deviceId tenantId bucket : ℕ) (cpu ram : ℚ)
  | accumulateDk (table : DkTable) (deviceId tenantId : ℕ) (mount : String) (bucket : ℕ) (pct usedGb totalGb : ℚ)
  /-- the timer -/
  | flush (now : ℕ)
  /-- the upsert of a waiting flush succeeds -/
  | landed (i : ℕ) (now : ℕ)
  /-- the upsert of a waiting flush fails -/
  | failed (i : ℕ) (now : ℕ)
  deriving DecidableEq, Repr

namespace HistoryState

def accumulate (s : HistoryState) (t : HistoryTable) (k : t.Key) (tenantId : ℕ) (x : t.Sample) : HistoryState :=
  { s with buckets := Function.update s.buckets t (WriteBehind.accumulate t.kind t.text k tenantId x (s.buckets t)) }

def accumulateCr (s : HistoryState) (table : CrTable) (deviceId tenantId bucket : ℕ) (cpu ram : ℚ) :
    HistoryState :=
  s.accumulate (.cr table) ⟨deviceId, bucket⟩ tenantId ⟨cpu, ram⟩

def accumulateDk (s : HistoryState) (table : DkTable) (deviceId tenantId : ℕ) (mount : String) (bucket : ℕ)
    (pct usedGb totalGb : ℚ) : HistoryState :=
  s.accumulate (.dk table) ⟨deviceId, mount, bucket⟩ tenantId ⟨pct, usedGb, totalGb⟩

/-- The circuit breaker at the end of a flush. -/
def finishFlush (s : HistoryState) (now : ℕ) (anyFailure : Bool) : HistoryState :=
  if anyFailure then
    if s.historyFailures + 1 ≥ 3 then { s with historyFailures := 0, historyDisabledUntil := now + 600000 }
    else { s with historyFailures := s.historyFailures + 1 }
  else { s with historyFailures := 0 }

/-- The rows of a table are taken and its buckets cleared; the flush waits. -/
def take (s : HistoryState) (t : HistoryTable) (todo : List HistoryTable) (anyFailure : Bool) : HistoryState :=
  { s with
    buckets := Function.update s.buckets t []
    flushes := s.flushes ++ [⟨t, (s.buckets t).map Prod.snd, todo, anyFailure⟩] }

/-- The loop over the tables up to the next upsert; a table without buckets is passed over. -/
def flushTables (s : HistoryState) (now : ℕ) (anyFailure : Bool) : List HistoryTable → HistoryState
  | [] => s.finishFlush now anyFailure
  | t :: todo =>
      if (s.buckets t).isEmpty then s.flushTables now anyFailure todo
      else s.take t todo anyFailure

/-- The multi-row upsert of what a flush took. -/
def land (s : HistoryState) (f : Flush) : HistoryState :=
  { s with stored := Function.update s.stored f.table (upsertRows f.table.kind (s.stored f.table) f.rows) }

def step (s : HistoryState) : HistoryAction → Option HistoryState
  | .accumulateCr table deviceId tenantId bucket cpu ram =>
      some (s.accumulateCr table deviceId tenantId bucket cpu ram)
  | .accumulateDk table deviceId tenantId mount bucket pct usedGb totalGb =>
      some (s.accumulateDk table deviceId tenantId mount bucket pct usedGb totalGb)
  | .flush now =>
      if now < s.historyDisabledUntil then some s else some (s.flushTables now false flushOrder)
  | .landed i now =>
      match s.flushes[i]? with
      | none => none
      | some f =>
          -- the database refuses a statement that would update a row twice
          if KeyedTable.Keyed Row.key f.rows then
            some ((({ s with flushes := s.flushes.eraseIdx i }).land f).flushTables now f.anyFailure f.todo)
          else none
  | .failed i now =>
      match s.flushes[i]? with
      | none => none
      | some f => some (({ s with flushes := s.flushes.eraseIdx i }).flushTables now true f.todo)

end HistoryState

def historyMachine : Machine HistoryState HistoryAction where
  init s := s = .boot
  step := HistoryState.step

/-! ## The two histories -/

/-- What a flush that waits has taken of a table. -/
def Flush.rowsOf (f : Flush) (t : HistoryTable) : Option (List t.Accum) :=
  if h : f.table = t then some (h ▸ f.rows) else none

theorem Flush.rowsOf_table (f : Flush) : f.rowsOf f.table = some f.rows := by
  rw [Flush.rowsOf, dif_pos rfl]

theorem Flush.rowsOf_ne {f : Flush} {t : HistoryTable} (h : f.table ≠ t) : f.rowsOf t = none := by
  rw [Flush.rowsOf, dif_neg h]

theorem filterMap_rowsOf_self (f : Flush) (l : List Flush) :
    (f :: l).filterMap (·.rowsOf f.table) = f.rows :: l.filterMap (·.rowsOf f.table) :=
  List.filterMap_cons_some f.rowsOf_table

theorem filterMap_rowsOf_ne {f : Flush} {t : HistoryTable} (h : f.table ≠ t) (l : List Flush) :
    (f :: l).filterMap (·.rowsOf t) = l.filterMap (·.rowsOf t) :=
  List.filterMap_cons_none (Flush.rowsOf_ne h)

def HistoryState.inFlight (s : HistoryState) (t : HistoryTable) : List (List t.Accum) :=
  s.flushes.filterMap (·.rowsOf t)

/-- What a key has in the stored rows, in the upserts on their way and in the buckets. -/
def HistoryState.total (s : HistoryState) (t : HistoryTable) (k : t.Key) : Option t.Stats :=
  WriteBehind.total t.kind (s.stored t) (s.inFlight t) ((s.buckets t).map Prod.snd) k

/-- The sample an action adds to a key of a table. -/
def sampleAt : (t : HistoryTable) → t.Key → HistoryAction → Option t.Sample
  | .cr t, k, .accumulateCr table deviceId _ bucket cpu ram =>
      if table = t ∧ k = ⟨deviceId, bucket⟩ then some ⟨cpu, ram⟩ else none
  | .dk t, k, .accumulateDk table deviceId _ mount bucket pct usedGb totalGb =>
      if table = t ∧ k = ⟨deviceId, mount, bucket⟩ then some ⟨pct, usedGb, totalGb⟩ else none
  | _, _, _ => none

/-- The samples of a key, one by one. -/
def naive (t : HistoryTable) (k : t.Key) (actions : List HistoryAction) : Option t.Stats :=
  t.kind.fold (actions.filterMap (sampleAt t k))

/-- The batched history is the naive one. -/
def Exact (s : HistoryState) (actions : List HistoryAction) : Prop :=
  ∀ (t : HistoryTable) (k : t.Key), s.total t k = naive t k actions

def HistoryAction.succeeds : HistoryAction → Bool
  | .failed _ _ => false
  | .accumulateCr .. | .accumulateDk .. | .flush _ | .landed _ _ => true

def HistoryTable.isDisk : HistoryTable → Bool
  | .cr _ => false
  | .dk _ => true

theorem HistoryTable.commutes_of_not_isDisk {t : HistoryTable} (h : t.isDisk = false) : t.kind.Commutes := by
  cases t with
  | cr table => exact crKind_commutes
  | dk table => cases h

/-- The other flush waits with a row of the same key. -/
def Flush.SharesRow (f g : Flush) : Prop :=
  ∃ rows ∈ g.rowsOf f.table, ∃ r ∈ f.rows, r.key ∈ rows.map Row.key

instance (f g : Flush) : Decidable (f.SharesRow g) :=
  inferInstanceAs (Decidable (∃ rows ∈ g.rowsOf f.table, ∃ r ∈ f.rows, r.key ∈ rows.map Row.key))

/-- No disk upsert overtakes an older one with a row of the same key. -/
def InOrder (s : HistoryState) : HistoryAction → Prop
  | .landed i _ => ∀ f ∈ s.flushes[i]?, f.table.isDisk = true → ∀ g ∈ s.flushes.take i, ¬ f.SharesRow g
  | .accumulateCr .. | .accumulateDk .. | .flush _ | .failed _ _ => True

instance decidableInOrder (s : HistoryState) : ∀ a, Decidable (InOrder s a)
  | .landed i _ =>
      inferInstanceAs
        (Decidable (∀ f ∈ s.flushes[i]?, f.table.isDisk = true → ∀ g ∈ s.flushes.take i, ¬ f.SharesRow g))
  | .accumulateCr .. | .accumulateDk .. | .flush _ | .failed _ _ => .isTrue trivial

/-! ## One step -/

/-- Buckets under their texts, no key twice in a batch or a table. -/
structure WellKept (s : HistoryState) : Prop where
  named : ∀ t, Named t.text (s.buckets t)
  batches : ∀ f ∈ s.flushes, KeyedTable.Keyed Row.key f.rows
  stored : ∀ t, KeyedTable.Keyed Row.key (s.stored t)

section Step
variable {s s' : HistoryState} {t t' : HistoryTable} {k : t.Key} {k' : t'.Key} {tenantId now i : ℕ}
variable {x : t.Sample} {anyFailure : Bool} {todo : List HistoryTable} {f : Flush} {pre post : List Flush}

namespace HistoryState

theorem total_accumulate_self (hs : WellKept s) {k' : t.Key} :
    (s.accumulate t k tenantId x).total t k' = if k' = k then t.kind.push (s.total t k) x else s.total t k' := by
  unfold total accumulate inFlight
  dsimp only
  rw [Function.update_self]
  exact WriteBehind.total_accumulate t.kind_lawful (hs.named t) t.text_injective

theorem total_accumulate_ne (h : t' ≠ t) : (s.accumulate t k tenantId x).total t' k' = s.total t' k' := by
  unfold total accumulate inFlight
  dsimp only
  rw [Function.update_of_ne h]

theorem wellKept_accumulate (hs : WellKept s) : WellKept (s.accumulate t k tenantId x) where
  named := (Function.forall_update_iff s.buckets fun t l => Named t.text l).2
    ⟨(hs.named t).accumulate, fun t' _ => hs.named t'⟩
  batches := hs.batches
  stored := hs.stored

theorem total_take : (s.take t todo anyFailure).total t' k' = s.total t' k' := by
  unfold total take inFlight
  dsimp only
  rw [List.filterMap_append]
  by_cases h : t' = t
  · subst h
    rw [Function.update_self, filterMap_rowsOf_self ⟨t', _, todo, anyFailure⟩, List.filterMap_nil]
    exact WriteBehind.total_take
  · rw [Function.update_of_ne h, filterMap_rowsOf_ne (Ne.symm h), List.filterMap_nil, List.append_nil]

theorem wellKept_take (hs : WellKept s) : WellKept (s.take t todo anyFailure) where
  named := (Function.forall_update_iff s.buckets fun t l => Named t.text l).2
    ⟨Named.nil, fun t' _ => hs.named t'⟩
  batches f hf := by
    rcases List.mem_append.1 hf with hf | hf
    · exact hs.batches f hf
    · obtain rfl := List.mem_singleton.1 hf
      exact (hs.named t).rows_keyed
  stored := hs.stored

theorem total_finishFlush : (s.finishFlush now anyFailure).total t' k' = s.total t' k' := by
  unfold finishFlush
  split_ifs <;> rfl

theorem wellKept_finishFlush (hs : WellKept s) : WellKept (s.finishFlush now anyFailure) := by
  unfold finishFlush
  split_ifs <;> exact ⟨hs.named, hs.batches, hs.stored⟩

theorem total_flushTables : (s.flushTables now anyFailure todo).total t' k' = s.total t' k' := by
  induction todo with
  | nil => exact total_finishFlush
  | cons t todo ih =>
      rw [flushTables]
      split_ifs
      · exact ih
      · exact total_take

theorem wellKept_flushTables (hs : WellKept s) : WellKept (s.flushTables now anyFailure todo) := by
  induction todo with
  | nil => exact wellKept_finishFlush hs
  | cons t todo ih =>
      rw [flushTables]
      split_ifs
      · exact ih
      · exact wellKept_take hs

/-- What the upsert of a waiting flush adds to the stored rows is what leaves the way. -/
theorem total_land (hflushes : s.flushes = pre ++ f :: post) (hf : KeyedTable.Keyed Row.key f.rows)
    (horder : f.table.isDisk = true → ∀ g ∈ pre, ¬ f.SharesRow g) :
    (({ s with flushes := pre ++ post }).land f).total t' k' = s.total t' k' := by
  unfold total land inFlight
  dsimp only
  rw [hflushes, List.filterMap_append, List.filterMap_append]
  by_cases h : t' = f.table
  · subst h
    rw [Function.update_self, filterMap_rowsOf_self]
    refine WriteBehind.total_land f.table.kind_lawful hf ?_
    cases hdisk : f.table.isDisk with
    | false => exact .inl (HistoryTable.commutes_of_not_isDisk hdisk)
    | true =>
        refine .inr fun earlier hearlier r hr hmem => ?_
        obtain ⟨g, hg, hrows⟩ := List.mem_filterMap.1 hearlier
        exact horder hdisk g hg ⟨earlier, hrows, r, hr, hmem⟩
  · rw [Function.update_of_ne h, filterMap_rowsOf_ne (Ne.symm h)]

theorem wellKept_eraseIdx (hs : WellKept s) : WellKept { s with flushes := s.flushes.eraseIdx i } where
  named := hs.named
  batches f hf := hs.batches f (List.mem_of_mem_eraseIdx hf)
  stored := hs.stored

theorem wellKept_land (hs : WellKept s) : WellKept (s.land f) where
  named := hs.named
  batches := hs.batches
  stored := (Function.forall_update_iff s.stored fun _ l => KeyedTable.Keyed Row.key l).2
    ⟨keyed_upsertRows (hs.stored f.table), fun t' _ => hs.stored t'⟩

end HistoryState

/-- The flush at a place among those that wait. -/
theorem split_flushes (h : s.flushes[i]? = some f) :
    s.flushes = s.flushes.take i ++ f :: s.flushes.drop (i + 1) ∧
      s.flushes.eraseIdx i = s.flushes.take i ++ s.flushes.drop (i + 1) := by
  obtain ⟨hlt, rfl⟩ := List.getElem?_eq_some_iff.1 h
  exact ⟨by rw [List.getElem_cons_drop, List.take_append_drop], List.eraseIdx_eq_take_drop_succ _ _⟩

theorem step_landed (h : s.step (.landed i now) = some s') :
    ∃ f, s.flushes[i]? = some f ∧ KeyedTable.Keyed Row.key f.rows ∧
      s' = (({ s with flushes := s.flushes.eraseIdx i }).land f).flushTables now f.anyFailure f.todo := by
  unfold HistoryState.step at h
  cases hf : s.flushes[i]? with
  | none => simp [hf] at h
  | some f =>
      simp only [hf] at h
      split_ifs at h with hkeyed
      exact ⟨f, rfl, hkeyed, (Option.some.inj h).symm⟩

variable {done : List HistoryAction} {a : HistoryAction}

theorem naive_append_none {k : t.Key} (h : sampleAt t k a = none) : naive t k (done ++ [a]) = naive t k done := by
  rw [naive, List.filterMap_append, List.filterMap_cons_none h, List.filterMap_nil, List.append_nil, naive]

theorem naive_append_some {k : t.Key} (h : sampleAt t k a = some x) :
    naive t k (done ++ [a]) = t.kind.push (naive t k done) x := by
  rw [naive, List.filterMap_append, List.filterMap_cons_some h, List.filterMap_nil, Kind.fold_append_singleton,
    naive]

theorem exact_accumulate (hs : WellKept s) (hexact : Exact s done)
    (hself : ∀ k', sampleAt t k' a = if k' = k then some x else none)
    (hne : ∀ t', t' ≠ t → ∀ k', sampleAt t' k' a = none) :
    Exact (s.accumulate t k tenantId x) (done ++ [a]) := by
  intro t' k'
  by_cases h : t' = t
  · subst h
    rw [HistoryState.total_accumulate_self hs]
    split_ifs with hk
    · subst hk
      rw [naive_append_some ((hself k').trans (if_pos rfl)), hexact]
    · rw [naive_append_none ((hself k').trans (if_neg hk)), hexact]
  · rw [HistoryState.total_accumulate_ne h, naive_append_none (hne t' h k'), hexact]

theorem exact_of_total_eq (hexact : Exact s done) (hnone : ∀ t' k', sampleAt t' k' a = none)
    (htotal : ∀ t' (k' : HistoryTable.Key t'), s'.total t' k' = s.total t' k') : Exact s' (done ++ [a]) := by
  intro t' k'
  rw [htotal, naive_append_none (hnone t' k'), hexact]

theorem step_exact (hs : WellKept s) (hexact : Exact s done) (hok : a.succeeds = true) (horder : InOrder s a)
    (h : s.step a = some s') : Exact s' (done ++ [a]) := by
  cases a with
  | accumulateCr table deviceId tenantId bucket cpu ram =>
      obtain rfl := Option.some.inj h
      refine exact_accumulate hs hexact (fun k' => ?_) fun t' ht' k' => ?_
      · simp [sampleAt]
      · cases t' with
        | cr table' => exact if_neg fun hkey => ht' (congrArg HistoryTable.cr hkey.1.symm)
        | dk table' => rfl
  | accumulateDk table deviceId tenantId mount bucket pct usedGb totalGb =>
      obtain rfl := Option.some.inj h
      refine exact_accumulate hs hexact (fun k' => ?_) fun t' ht' k' => ?_
      · simp [sampleAt]
      · cases t' with
        | cr table' => rfl
        | dk table' => exact if_neg fun hkey => ht' (congrArg HistoryTable.dk hkey.1.symm)
  | flush now =>
      refine exact_of_total_eq hexact (fun t' k' => by cases t' <;> rfl) fun t' k' => ?_
      simp only [HistoryState.step] at h
      split_ifs at h
      · rw [Option.some.inj h]
      · rw [← Option.some.inj h, HistoryState.total_flushTables]
  | landed i now =>
      obtain ⟨f, hf, hkeyed, rfl⟩ := step_landed h
      obtain ⟨hflushes, herase⟩ := split_flushes hf
      refine exact_of_total_eq hexact (fun t' k' => by cases t' <;> rfl) fun t' k' => ?_
      rw [HistoryState.total_flushTables, herase]
      exact HistoryState.total_land hflushes hkeyed (horder f hf)
  | failed i now => cases hok

theorem step_wellKept (hs : WellKept s) (h : s.step a = some s') : WellKept s' := by
  cases a with
  | accumulateCr table deviceId tenantId bucket cpu ram =>
      obtain rfl := Option.some.inj h
      exact HistoryState.wellKept_accumulate hs
  | accumulateDk table deviceId tenantId mount bucket pct usedGb totalGb =>
      obtain rfl := Option.some.inj h
      exact HistoryState.wellKept_accumulate hs
  | flush now =>
      simp only [HistoryState.step] at h
      split_ifs at h
      · rwa [← Option.some.inj h]
      · rw [← Option.some.inj h]
        exact HistoryState.wellKept_flushTables hs
  | landed i now =>
      obtain ⟨f, -, -, rfl⟩ := step_landed h
      exact HistoryState.wellKept_flushTables (HistoryState.wellKept_land (HistoryState.wellKept_eraseIdx hs))
  | failed i now =>
      simp only [HistoryState.step] at h
      split at h
      · cases h
      · rw [← Option.some.inj h]
        exact HistoryState.wellKept_flushTables (HistoryState.wellKept_eraseIdx hs)

end Step

/-! ## Runs -/

theorem boot_wellKept : WellKept .boot :=
  ⟨fun _ => Named.nil, fun _ hf => absurd hf List.not_mem_nil, fun _ => List.nodup_nil⟩

theorem wellKept_of_reach {s : HistoryState} (h : Reach historyMachine anyStep s) : WellKept s := by
  refine h.invariant (I := WellKept) (fun s hs => ?_) fun _ _ _ hs _ hstep => step_wellKept hs hstep
  rw [show s = .boot from hs]
  exact boot_wellKept

/-- No upsert is refused: none has two rows of a key. -/
theorem landed_isSome {s : HistoryState} (h : Reach historyMachine anyStep s) {i : ℕ} (hi : i < s.flushes.length)
    (now : ℕ) : (s.step (.landed i now)).isSome = true := by
  have hkeyed : KeyedTable.Keyed Row.key s.flushes[i].rows :=
    (wellKept_of_reach h).batches _ (List.getElem_mem hi)
  simp only [HistoryState.step, List.getElem?_eq_getElem hi, if_pos hkeyed]
  rfl

/-- A table stores one row of a key. -/
theorem stored_once {s : HistoryState} (h : Reach historyMachine anyStep s) (t : HistoryTable) :
    KeyedTable.Keyed Row.key (s.stored t) :=
  (wellKept_of_reach h).stored t

theorem boot_exact : Exact .boot [] := fun _ _ => rfl

theorem run_exact {done actions : List HistoryAction} {s s' : HistoryState} (hs : WellKept s)
    (hexact : Exact s done) (hok : ∀ a ∈ actions, a.succeeds = true)
    (horder : historyMachine.Admits InOrder s actions) (h : historyMachine.exec s actions = some s') :
    WellKept s' ∧ Exact s' (done ++ actions) := by
  induction actions generalizing s done with
  | nil =>
      obtain rfl := Option.some.inj h
      exact ⟨hs, by rwa [List.append_nil]⟩
  | cons a actions ih =>
      obtain ⟨t, hstep, hrest⟩ := Option.bind_eq_some_iff.1 h
      have ha : a.succeeds = true := hok a List.mem_cons_self
      have hnext := ih (step_wellKept hs hstep) (step_exact hs hexact ha horder.1 hstep)
        (fun b hb => hok b (List.mem_cons_of_mem _ hb)) (horder.2 t hstep) hrest
      rwa [List.append_assoc] at hnext

/-! ## What the naive history counts -/

def HistoryTable.samples : (t : HistoryTable) → t.Stats → ℕ
  | .cr _ => CrStats.samples
  | .dk _ => DkStats.samples

theorem naive_samples (t : HistoryTable) (k : t.Key) (actions : List HistoryAction) :
    (naive t k actions).elim 0 t.samples = (actions.filterMap (sampleAt t k)).length := by
  rw [naive, Kind.fold_elim (w := fun _ => 1)]
  · rw [List.map_const', List.sum_replicate]
    exact mul_one _
  · cases t <;> exact fun _ => rfl
  · cases t <;> exact fun _ _ => rfl

/-- The last sizes are those of the last sample. -/
theorem naive_last {table : DkTable} {k : DkKey} {x : DkSample} {a : HistoryAction} (done : List HistoryAction)
    (h : sampleAt (.dk table) k a = some x) :
    (naive (.dk table) k (done ++ [a])).map (fun s => (s.usedGb, s.totalGb)) = some (x.usedGb, x.totalGb) := by
  rw [naive_append_some h]
  cases naive (.dk table) k done <;> rfl

/-! ## Flushes that do not overlap -/

/-- No flush starts while another waits. -/
def Alone (s : HistoryState) : HistoryAction → Prop
  | .flush _ => s.flushes = []
  | .accumulateCr .. | .accumulateDk .. | .landed _ _ | .failed _ _ => True

instance (s : HistoryState) : DecidablePred (Alone s)
  | .flush _ => decidable_of_iff (s.flushes.isEmpty = true) List.isEmpty_iff
  | .accumulateCr .. | .accumulateDk .. | .landed _ _ | .failed _ _ => .isTrue trivial

section Sequential
variable {s s' : HistoryState} {a : HistoryAction}

theorem length_flushTables (s : HistoryState) (now : ℕ) (anyFailure : Bool) (todo : List HistoryTable) :
    (s.flushTables now anyFailure todo).flushes.length ≤ s.flushes.length + 1 := by
  induction todo with
  | nil =>
      rw [HistoryState.flushTables, HistoryState.finishFlush]
      split_ifs <;> exact Nat.le_succ _
  | cons t todo ih =>
      rw [HistoryState.flushTables]
      split_ifs
      · exact ih
      · rw [HistoryState.take, List.length_append, List.length_singleton]

theorem inOrder_of_short (h : s.flushes.length ≤ 1) : InOrder s a := by
  cases a with
  | landed i now =>
      intro f hf hdisk g hg
      obtain ⟨hi, -⟩ := List.getElem?_eq_some_iff.1 hf
      obtain rfl : i = 0 := by omega
      exact absurd hg List.not_mem_nil
  | accumulateCr | accumulateDk | flush | failed => trivial

theorem step_short (h : s.flushes.length ≤ 1) (hok : a.succeeds = true) (ha : Alone s a)
    (hstep : s.step a = some s') : s'.flushes.length ≤ 1 := by
  cases a with
  | accumulateCr | accumulateDk =>
      obtain rfl := Option.some.inj hstep
      exact h
  | flush now =>
      have hnone : s.flushes.length = 0 := congrArg List.length ha
      simp only [HistoryState.step] at hstep
      split_ifs at hstep
      · rwa [← Option.some.inj hstep]
      · rw [← Option.some.inj hstep]
        exact (length_flushTables s now false flushOrder).trans (by omega)
  | landed i now =>
      obtain ⟨f, hf, -, rfl⟩ := step_landed hstep
      obtain ⟨hi, -⟩ := List.getElem?_eq_some_iff.1 hf
      refine (length_flushTables _ now f.anyFailure f.todo).trans ?_
      have herase : (s.flushes.eraseIdx i).length = s.flushes.length - 1 := List.length_eraseIdx_of_lt hi
      simp only [HistoryState.land, herase]
      omega
  | failed i now => cases hok

theorem inOrder_of_alone {actions : List HistoryAction} (h : s.flushes.length ≤ 1)
    (hok : ∀ a ∈ actions, a.succeeds = true) (halone : historyMachine.Admits Alone s actions) :
    historyMachine.Admits InOrder s actions := by
  induction actions generalizing s with
  | nil => trivial
  | cons a actions ih =>
      refine ⟨inOrder_of_short h, fun t ht => ?_⟩
      exact ih (step_short h (hok a List.mem_cons_self) halone.1 ht)
        (fun b hb => hok b (List.mem_cons_of_mem _ hb)) (halone.2 t ht)

end Sequential

/-- Flushes that do not overlap keep the history exact, and no sample is lost or counted twice. -/
theorem sequential_exact (actions : List HistoryAction) {s : HistoryState}
    (hok : ∀ a ∈ actions, a.succeeds = true) (halone : historyMachine.Admits Alone .boot actions)
    (h : historyMachine.exec .boot actions = some s) (t : HistoryTable) (k : t.Key) :
    s.total t k = naive t k actions ∧
      (s.total t k).elim 0 t.samples = (actions.filterMap (sampleAt t k)).length := by
  have horder : historyMachine.Admits InOrder .boot actions := inOrder_of_alone (Nat.zero_le 1) hok halone
  have hexact : s.total t k = naive t k actions := (run_exact boot_wellKept boot_exact hok horder h).2 t k
  exact ⟨hexact, by rw [hexact, naive_samples]⟩

/-- Two samples of a volume, each flushed and landed before the next. -/
def flushedInTurn : List HistoryAction :=
  [.accumulateDk .deviceDiskDaily 7 1 "C:" 0 50 10 100, .flush 30000, .landed 0 30010,
    .accumulateDk .deviceDiskDaily 7 1 "C:" 0 60 20 100, .flush 60000, .landed 0 60010]

theorem sequential_exact_flushedInTurn : ∃ s, historyMachine.exec .boot flushedInTurn = some s ∧
    s.total (.dk .deviceDiskDaily) ⟨7, "C:", 0⟩ = naive (.dk .deviceDiskDaily) ⟨7, "C:", 0⟩ flushedInTurn ∧
      (s.total (.dk .deviceDiskDaily) ⟨7, "C:", 0⟩).elim 0 (HistoryTable.samples (.dk .deviceDiskDaily)) =
        (flushedInTurn.filterMap (sampleAt (.dk .deviceDiskDaily) ⟨7, "C:", 0⟩)).length := by
  have hruns : (historyMachine.exec .boot flushedInTurn).isSome = true := by decide +kernel
  obtain ⟨s, hs⟩ := Option.isSome_iff_exists.1 hruns
  exact ⟨s, hs, sequential_exact flushedInTurn (by decide) (by decide +kernel) hs (.dk .deviceDiskDaily) ⟨7, "C:", 0⟩⟩

/-! ## The result -/

/-- Whatever the samples and however flushes run among them: as long as no disk upsert overtakes an older one
with a row of the same key, every table has of every key exactly its samples. -/
theorem batch_exact (actions : List HistoryAction) {s : HistoryState}
    (hok : ∀ a ∈ actions, a.succeeds = true) (horder : historyMachine.Admits InOrder .boot actions)
    (h : historyMachine.exec .boot actions = some s) : Exact s actions :=
  (run_exact boot_wellKept boot_exact hok horder h).2

/-- Two volume samples, each in a flush of its own. -/
def twoFlushes : List HistoryAction :=
  [.accumulateDk .deviceDiskDaily 7 1 "C:" 0 50 10 100, .flush 30000,
    .accumulateDk .deviceDiskDaily 7 1 "C:" 0 60 20 100, .flush 60000]

/-- The upserts land in the order of the flushes, with a sample between them. -/
theorem twoFlushes_exact :
    ∃ s, historyMachine.exec .boot (twoFlushes ++ [.landed 0 60010, .landed 0 60020]) = some s ∧
      Exact s (twoFlushes ++ [.landed 0 60010, .landed 0 60020]) := by
  have hruns : (historyMachine.exec .boot (twoFlushes ++ [.landed 0 60010, .landed 0 60020])).isSome = true := by
    decide +kernel
  obtain ⟨s, hs⟩ := Option.isSome_iff_exists.1 hruns
  exact ⟨s, hs, batch_exact _ (by decide) (by decide +kernel) hs⟩

/-- The second upsert lands first: the sizes the first sample had stay in the row. -/
theorem older_sizes_stay :
    ¬ ∀ (actions : List HistoryAction) (s : HistoryState), (∀ a ∈ actions, a.succeeds = true) →
      historyMachine.exec .boot actions = some s → Exact s actions := by
  intro hall
  have hruns : (historyMachine.exec .boot (twoFlushes ++ [.landed 1 60010, .landed 0 60020])).map
      (fun s => s.total (.dk .deviceDiskDaily) ⟨7, "C:", 0⟩) = some (some ⟨110, 2, 60, 50, 10, 100⟩) := by
    decide +kernel
  obtain ⟨s, hs, htotal⟩ := Option.map_eq_some_iff.1 hruns
  have hnaive : naive (.dk .deviceDiskDaily) ⟨7, "C:", 0⟩ (twoFlushes ++ [.landed 1 60010, .landed 0 60020]) =
      some ⟨110, 2, 60, 50, 20, 100⟩ := by
    decide +kernel
  have hexact := hall _ s (by decide) hs (.dk .deviceDiskDaily) ⟨7, "C:", 0⟩
  rw [htotal, hnaive] at hexact
  exact absurd hexact (by decide)

end Obliance.Metrics.History
