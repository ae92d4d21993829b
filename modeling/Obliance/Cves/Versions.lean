import Mathlib.Data.Nat.Log
import Mathlib.Order.Interval.Set.Defs
import Obliance.Js.Number
import Obliance.Lib.PaddedOrder

/-!
# Versions of software (`services/cve.service.ts`)

* `parseVersionComponents`, `compareVersions` : version texts and their comparison;
* `AffectedRange`, `installedInRange`, `versionStillVulnerable` : the ranges of a vulnerability;
* `Version`, `versionOf`, `AffectedRange.versions` : the linear order of the versions, and a range as a set of them;
* `compareVersions_eq`, `installedInRange_iff`, `versionStillVulnerable_iff` : the code decides membership.
-/

namespace Obliance.Cves
open Js Numerals PaddedOrder

abbrev Text := List Char

/-! ## Version texts -/

/-- The double next to a natural number, the even one of two; `none` for infinity. -/
def toDouble (n : ℕ) : Option ℕ :=
  let unit := 2 ^ (Nat.log2 n - 52)
  let q := n / unit
  let r := n % unit
  let rounded := if unit < 2 * r ∨ unit = 2 * r ∧ q % 2 = 1 then q + 1 else q
  if rounded * unit < 2 ^ 1024 then some (rounded * unit) else none

/-- `/[.\-_]/` -/
def isSeparator (c : Char) : Bool := decide (c = '.' ∨ c = '-' ∨ c = '_')

/-- `/[\s+]/` -/
def endsVersion (c : Char) : Bool := isJsSpace c || decide (c = '+')

/-- `replace(/^v/i, '')` -/
def dropV : Text → Text
  | 'v' :: cs => cs
  | 'V' :: cs => cs
  | cs => cs

def parseVersionComponents : Option Text → Option (List ℕ)
  | none => none
  | some v =>
      let trimmed := (dropV (strip isJsSpace v)).takeWhile fun c => !endsVersion c
      if v = [] ∨ trimmed = [] then none
      else
        match (trimmed.splitOnP isSeparator).filterMap fun p => (leadingDigits 10 p).bind toDouble with
        | [] => none
        | parts => some parts

/-- -1, 0 and 1 are `lt`, `eq` and `gt`. -/
def compareVersions (a b : Option Text) : Option Ordering :=
  match parseVersionComponents a, parseVersionComponents b with
  | some av, some bv => some (compareFrom 0 av bv (max av.length bv.length) 0)
  | _, _ => none

/-! ## Ranges -/

structure AffectedRange where
  versionStartIncluding : Option Text
  versionStartExcluding : Option Text
  versionEndIncluding : Option Text
  versionEndExcluding : Option Text
  deriving DecidableEq, Repr

/-- A bound counts when it is neither null nor empty. -/
def given (bound : Option Text) : Option Text := bound.filter fun b => !b.isEmpty

/-- One of the four checks: a bound that cannot be compared is not met. -/
def meets (ok : Ordering → Bool) (installed : Text) (bound : Option Text) : Bool :=
  match given bound with
  | none => true
  | some b => (compareVersions (some installed) (some b)).any ok

def installedInRange (installed : Text) (range : AffectedRange) : Bool :=
  meets Ordering.isGE installed range.versionStartIncluding &&
    meets Ordering.isGT installed range.versionStartExcluding &&
    meets Ordering.isLE installed range.versionEndIncluding &&
    meets Ordering.isLT installed range.versionEndExcluding

def versionStillVulnerable (installedVersion : Option Text) (ranges : List AffectedRange) : Bool :=
  if ranges = [] then true
  else
    match given installedVersion with
    | none => true
    | some installed =>
        if parseVersionComponents (some installed) = none then true
        else ranges.any fun r => installedInRange installed r

/-! ## The order of versions -/

/-- A version is the sequence of its components, zeros behind them. -/
abbrev Version := Lex (ℕ → ℕ)

def versionOf (v : Text) : Option Version := (parseVersionComponents (some v)).map (padded 0)

/-- The versions on one side of a bound; none for a bound that is no version. -/
def side (I : Version → Set Version) (bound : Option Text) : Set Version :=
  match given bound with
  | none => Set.univ
  | some b => (versionOf b).elim ∅ I

def AffectedRange.versions (range : AffectedRange) : Set Version :=
  side Set.Ici range.versionStartIncluding ∩ side Set.Ioi range.versionStartExcluding ∩
    side Set.Iic range.versionEndIncluding ∩ side Set.Iio range.versionEndExcluding

section
variable {a b : Text} {installed : Text} {w : Version}

theorem versionOf_eq_none_iff : versionOf a = none ↔ parseVersionComponents (some a) = none := by
  rw [versionOf, Option.map_eq_none_iff]

/-- Versions are compared as the sequences they stand for. -/
theorem compareVersions_eq (ha : versionOf a = some w) :
    compareVersions (some a) (some b) = (versionOf b).map fun v => compare w v := by
  obtain ⟨av, hav, rfl⟩ := Option.map_eq_some_iff.1 ha
  rw [compareVersions, hav, versionOf]
  cases parseVersionComponents (some b) with
  | none => rfl
  | some bv => exact congrArg some compareFrom_eq

theorem meets_iff (hw : versionOf installed = some w) {ok : Ordering → Bool} {I : Version → Set Version}
    (hok : ∀ v, ok (compare w v) = true ↔ w ∈ I v) (bound : Option Text) :
    meets ok installed bound = true ↔ w ∈ side I bound := by
  unfold meets side
  cases given bound with
  | none => exact iff_of_true rfl (Set.mem_univ w)
  | some b =>
      dsimp only
      rw [compareVersions_eq hw]
      cases versionOf b with
      | none => exact iff_of_false Bool.false_ne_true (Set.notMem_empty w)
      | some v => exact hok v

/-- **A version that parses is in a range** exactly when it is one of the range's versions. -/
theorem installedInRange_iff (hw : versionOf installed = some w) (range : AffectedRange) :
    installedInRange installed range = true ↔ w ∈ range.versions := by
  rw [installedInRange, Bool.and_eq_true, Bool.and_eq_true, Bool.and_eq_true,
    meets_iff hw fun v => Ordering.isGE_iff_ne_lt.trans (compare_ge_iff_ge.trans Set.mem_Ici.symm),
    meets_iff hw fun v => Ordering.isGT_iff_eq_gt.trans (compare_gt_iff_gt.trans Set.mem_Ioi.symm),
    meets_iff hw fun v => Ordering.isLE_iff_ne_gt.trans (compare_le_iff_le.trans Set.mem_Iic.symm),
    meets_iff hw fun v => Ordering.isLT_iff_eq_lt.trans (compare_lt_iff_lt.trans Set.mem_Iio.symm)]
  rfl

theorem given_of_versionOf (hw : versionOf installed = some w) : given (some installed) = some installed := by
  cases installed with
  | nil =>
      rw [versionOf] at hw
      cases hw
  | cons c cs => rfl

theorem versionStillVulnerable_iff (hw : versionOf installed = some w) (ranges : List AffectedRange) :
    versionStillVulnerable (some installed) ranges = true ↔ ranges = [] ∨ ∃ r ∈ ranges, w ∈ r.versions := by
  have hparsed : parseVersionComponents (some installed) ≠ none := fun h => by
    rw [versionOf_eq_none_iff.2 h] at hw
    cases hw
  unfold versionStillVulnerable
  split_ifs with hranges
  · exact iff_of_true rfl (.inl hranges)
  · rw [given_of_versionOf hw]
    dsimp only
    rw [if_neg hparsed, List.any_eq_true, or_iff_right hranges]
    exact exists_congr fun r => and_congr_right fun _ => installedInRange_iff hw r

end

end Obliance.Cves
