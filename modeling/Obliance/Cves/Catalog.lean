import Mathlib.Data.List.Induction
import Obliance.Cves.Versions
import Obliance.Lib.KeyedTable

/-!
# The CVE catalog (`services/cve.service.ts`)

* `NvdItem`, `GhsaAdvisory`, `CveRow` : what the feeds send, and the rows of `cves`;
* `CatalogOp`, `run` : the upserts of both feeds, in any order;
* `affectedRanges` : the ranges `rescanDevice` reads from a row;
* `get_run` : what a row holds after any run, from its first, its last and all of its items;
* `gate_iff` : which versions the gate of a row keeps, read off the last item;
* `nvd_gate_exact_iff` : when that is what the item says of its own product.
-/

namespace Obliance.Cves
open Js KeyedTable

/-! ## The feeds -/

structure CpeMatch where
  criteria : Text
  vulnerable : Option Bool
  range : AffectedRange
  deriving DecidableEq, Repr

structure NvdItem where
  id : Text
  configurations : List (List (List CpeMatch))
  cisaExploitAdd : Option Text
  deriving DecidableEq, Repr

structure GhsaVuln where
  ecosystem : Option Text
  name : Option Text
  vulnerable_version_range : Option Text
  first_patched_version : Option Text
  deriving DecidableEq, Repr

structure GhsaAdvisory where
  ghsa_id : Text
  cve_id : Option Text
  vulnerabilities : List GhsaVuln
  deriving DecidableEq, Repr

inductive CveSourceKey where
  | nvd_kev
  | nvd_recent_critical
  | ghsa
  deriving DecidableEq, Repr

/-- An element of `affected_versions`, in the shape of its feed. -/
inductive AffectedVersion where
  | nvd (cpe : Text) (vendor product : Option Text) (range : AffectedRange)
  | ghsa (vendor product vulnerableRange firstPatchedVersion : Option Text)
  deriving DecidableEq, Repr

structure CveRow where
  id : ℕ
  cveId : Text
  source : CveSourceKey
  vendor : Option Text
  product : Option Text
  kevFlag : Bool
  cpeMatches : List Text
  affectedVersions : List AffectedVersion
  firstPatchedVersion : Option Text
  deriving DecidableEq, Repr

/-! ## From an item to its row -/

def cleanup (s : Text) : Option Text :=
  if s = [] ∨ s = ['*'] ∨ s = ['-'] then none else some (s.map fun c => if c = '_' then ' ' else c)

/-- The vendor and the product of a CPE. -/
def parseCpe (cpe : Text) : Option Text × Option Text :=
  match cpe.splitOn ':' with
  | a :: b :: _ :: vendor :: product :: _ =>
      if a = ['c', 'p', 'e'] ∧ b = ['2', '.', '3'] then (cleanup vendor, cleanup product) else (none, none)
  | _ => (none, none)

namespace NvdItem

/-- The matches of all nodes that are read. -/
def reads (item : NvdItem) : List CpeMatch :=
  item.configurations.flatten.flatten.filter fun m => decide (m.criteria ≠ [] ∧ m.vulnerable ≠ some false)

def allCpes (item : NvdItem) : List Text := item.reads.map CpeMatch.criteria

def affectedVersions (item : NvdItem) : List AffectedVersion :=
  item.reads.map fun m => .nvd m.criteria (parseCpe m.criteria).1 (parseCpe m.criteria).2 m.range

/-- `parsed` -/
def cpe (item : NvdItem) : Option Text × Option Text :=
  match item.allCpes with
  | [] => (none, none)
  | c :: _ => parseCpe c

/-- The first exclusive end, else the first inclusive one behind `> `. -/
def firstPatched (item : NvdItem) : Option Text :=
  match item.reads.findSome? fun m => given m.range.versionEndExcluding with
  | some v => some v
  | none => (item.reads.findSome? fun m => given m.range.versionEndIncluding).map fun v => '>' :: ' ' :: v

end NvdItem

namespace GhsaAdvisory

def affectedVersions (adv : GhsaAdvisory) : List AffectedVersion :=
  adv.vulnerabilities.map fun v => .ghsa v.ecosystem v.name v.vulnerable_version_range v.first_patched_version

def firstPatched (adv : GhsaAdvisory) : Option Text :=
  adv.vulnerabilities.findSome? fun v => given v.first_patched_version

end GhsaAdvisory

/-! ## Upserts -/

/-- The upsert of one item; `forceKev` is that of the source. -/
inductive CatalogOp where
  | nvd (source : CveSourceKey) (forceKev : Bool) (item : NvdItem)
  | ghsa (adv : GhsaAdvisory)
  deriving DecidableEq, Repr

namespace CatalogOp

/-- `cve_id`; an item without one is skipped. -/
def cveId : CatalogOp → Option Text
  | nvd _ _ item => given (some item.id)
  | ghsa adv => given (some ((given adv.cve_id).getD adv.ghsa_id))

def source : CatalogOp → CveSourceKey
  | nvd source _ _ => source
  | ghsa _ => .ghsa

def kevFlag : CatalogOp → Bool
  | nvd _ forceKev item => forceKev || (given item.cisaExploitAdd).isSome
  | ghsa _ => false

/-- `toLowerCase` is a parameter. -/
def vendor (toLowerCase : Text → Text) : CatalogOp → Option Text
  | nvd _ _ item => item.cpe.1
  | ghsa adv => adv.vulnerabilities.head?.bind fun v => v.ecosystem.map toLowerCase

def product : CatalogOp → Option Text
  | nvd _ _ item => item.cpe.2
  | ghsa adv => adv.vulnerabilities.head?.bind GhsaVuln.name

def affectedVersions : CatalogOp → List AffectedVersion
  | nvd _ _ item => item.affectedVersions
  | ghsa adv => adv.affectedVersions

def firstPatched : CatalogOp → Option Text
  | nvd _ _ item => item.firstPatched
  | ghsa adv => adv.firstPatched

def cpeMatches : CatalogOp → List Text
  | nvd _ _ item => item.allCpes
  | ghsa _ => []

def insert (toLowerCase : Text → Text) (op : CatalogOp) (id : ℕ) (cveId : Text) : CveRow :=
  ⟨id, cveId, op.source, op.vendor toLowerCase, op.product, op.kevFlag, op.cpeMatches, op.affectedVersions,
    op.firstPatched⟩

/-- The source stays the first, the flag is never taken back, and GHSA leaves the CPEs of a row. -/
def merge (toLowerCase : Text → Text) (op : CatalogOp) (row : CveRow) : CveRow :=
  { row with
    vendor := op.vendor toLowerCase
    product := op.product
    kevFlag := row.kevFlag || op.kevFlag
    cpeMatches := match op with
      | nvd _ _ item => item.allCpes
      | ghsa _ => row.cpeMatches
    affectedVersions := op.affectedVersions
    firstPatchedVersion := op.firstPatched }

end CatalogOp

structure Catalog where
  rows : List CveRow
  nextId : ℕ
  deriving DecidableEq, Repr

namespace Catalog

def upsert (toLowerCase : Text → Text) (s : Catalog) (op : CatalogOp) : Catalog :=
  match op.cveId with
  | none => s
  | some cveId =>
      let row := op.insert toLowerCase s.nextId cveId
      ⟨KeyedTable.upsert CveRow.cveId s.rows row (op.merge toLowerCase), s.nextId + 1⟩

/-- The upserts that succeed, in their order. -/
def run (toLowerCase : Text → Text) (ops : List CatalogOp) : Catalog := ops.foldl (upsert toLowerCase) ⟨[], 1⟩

end Catalog

/-! ## The ranges of a row -/

/-- An element of the other shape has no bounds. -/
def AffectedVersion.range : AffectedVersion → AffectedRange
  | nvd _ _ _ range => range
  | ghsa _ _ _ _ => ⟨none, none, none, none⟩

def AffectedRange.bounded (r : AffectedRange) : Bool :=
  (given r.versionStartIncluding).isSome || (given r.versionStartExcluding).isSome ||
    (given r.versionEndIncluding).isSome || (given r.versionEndExcluding).isSome

/-- The range below a first patched version; `> X` includes `X`. -/
def ceiling : Text → Option AffectedRange
  | '>' :: cs => (given (some (cs.dropWhile isJsSpace))).map fun fp => ⟨none, none, some fp, none⟩
  | raw => (given (some raw)).map fun fp => ⟨none, none, none, some fp⟩

def affectedRanges (cve : CveRow) : List AffectedRange :=
  let ranges := (cve.affectedVersions.map AffectedVersion.range).filter AffectedRange.bounded
  if ranges = [] then ((given cve.firstPatchedVersion).bind ceiling).toList else ranges

/-! ## What a run leaves -/

/-- The items of an identifier, in their order. -/
def written (ops : List CatalogOp) (cveId : Text) : List CatalogOp :=
  ops.filter fun op => decide (op.cveId = some cveId)

def CatalogOp.isNvd : CatalogOp → Bool
  | nvd _ _ _ => true
  | ghsa _ => false

/-- What a row keeps of the items that wrote it. -/
structure Holds (toLowerCase : Text → Text) (items : List CatalogOp) (row : CveRow) : Prop where
  source : items.head?.map CatalogOp.source = some row.source
  kevFlag : row.kevFlag = items.any CatalogOp.kevFlag
  cpeMatches : row.cpeMatches = (items.filter CatalogOp.isNvd).getLast?.elim [] CatalogOp.cpeMatches
  last : ∃ op, items.getLast? = some op ∧ row.vendor = op.vendor toLowerCase ∧ row.product = op.product ∧
    row.affectedVersions = op.affectedVersions ∧ row.firstPatchedVersion = op.firstPatched

section Runs
variable {toLowerCase : Text → Text} {ops items : List CatalogOp} {op : CatalogOp} {row : CveRow} {cveId : Text}

theorem run_append : Catalog.run toLowerCase (ops ++ [op]) = (Catalog.run toLowerCase ops).upsert toLowerCase op := by
  rw [Catalog.run, List.foldl_append]
  rfl

theorem written_append_self (h : op.cveId = some cveId) :
    written (ops ++ [op]) cveId = written ops cveId ++ [op] := by
  rw [written, List.filter_append, List.filter_cons_of_pos (by simpa using h)]
  rfl

theorem written_append_ne (h : op.cveId ≠ some cveId) : written (ops ++ [op]) cveId = written ops cveId := by
  rw [written, List.filter_append, List.filter_cons_of_neg (by simpa using h)]
  exact List.append_nil _

theorem holds_insert {id : ℕ} : Holds toLowerCase [op] (op.insert toLowerCase id cveId) := by
  refine ⟨rfl, ?_, ?_, ⟨op, rfl, rfl, rfl, rfl, rfl⟩⟩
  · exact (Bool.or_false _).symm
  · cases op <;> rfl

theorem Holds.merge (h : Holds toLowerCase items row) :
    Holds toLowerCase (items ++ [op]) (op.merge toLowerCase row) := by
  refine ⟨?_, ?_, ?_, ⟨op, List.getLast?_concat, rfl, rfl, rfl, rfl⟩⟩
  · have hhead : (items ++ [op]).head? = items.head? := by
      rw [List.head?_append_of_ne_nil]
      rintro rfl
      cases h.source
    rw [hhead]
    exact h.source
  · rw [List.any_append, ← h.kevFlag, List.any_cons, List.any_nil, Bool.or_false]
    rfl
  · rw [List.filter_append]
    cases op with
    | nvd source forceKev item =>
        rw [List.filter_cons_of_pos rfl, List.filter_nil, List.getLast?_concat]
        rfl
    | ghsa adv =>
        rw [List.filter_cons_of_neg Bool.false_ne_true, List.filter_nil, List.append_nil, ← h.cpeMatches]
        rfl

theorem keyed_run : Keyed CveRow.cveId (Catalog.run toLowerCase ops).rows := by
  induction ops using List.reverseRecOn with
  | nil => exact List.nodup_nil
  | append_singleton ops op ih =>
      rw [run_append, Catalog.upsert]
      split
      · exact ih
      · exact nodup_upsert (fun _ => rfl) ih

/-- A row exists for the identifiers that were written, and holds what their items say. -/
theorem get_run : (get CveRow.cveId (Catalog.run toLowerCase ops).rows cveId = none ∧ written ops cveId = []) ∨
    ∃ row, get CveRow.cveId (Catalog.run toLowerCase ops).rows cveId = some row ∧
      Holds toLowerCase (written ops cveId) row := by
  induction ops using List.reverseRecOn with
  | nil => exact .inl ⟨rfl, rfl⟩
  | append_singleton ops op ih =>
      rw [run_append, Catalog.upsert]
      split
      · next hnone =>
          have hne : op.cveId ≠ some cveId := hnone ▸ (Option.some_ne_none cveId).symm
          rw [written_append_ne hne]
          exact ih
      · next k hk =>
          have hkeys (row : CveRow) : (op.merge toLowerCase row).cveId = row.cveId := rfl
          dsimp only
          rw [get_upsert hkeys]
          split_ifs with hkey
          · rw [written_append_self (hk.trans (congrArg some hkey.symm))]
            rcases ih with ⟨hnone, hwritten⟩ | ⟨row, hsome, hholds⟩
            · rw [hnone, hwritten]
              exact .inr ⟨_, rfl, holds_insert⟩
            · rw [hsome]
              exact .inr ⟨_, rfl, hholds.merge⟩
          · rw [written_append_ne fun h => hkey (Option.some.inj (h.symm.trans hk))]
            exact ih

theorem holds_of_mem (h : row ∈ (Catalog.run toLowerCase ops).rows) :
    Holds toLowerCase (written ops row.cveId) row := by
  have hget : get CveRow.cveId (Catalog.run toLowerCase ops).rows row.cveId = some row :=
    (get_eq_some_iff keyed_run).2 ⟨h, rfl⟩
  rcases get_run with ⟨hnone, -⟩ | ⟨row', hsome, hholds⟩
  · rw [hnone] at hget
    cases hget
  · rw [hsome] at hget
    obtain rfl := Option.some.inj hget
    exact hholds

end Runs

/-- **The catalog after any upserts of both feeds**: one row for each identifier written, with the source that came
first, a flag that one item set, the CPEs of the last item of NVD, and all else from the last item. -/
theorem catalog_spec (toLowerCase : Text → Text) (ops : List CatalogOp) :
    Keyed CveRow.cveId (Catalog.run toLowerCase ops).rows ∧
      (∀ row ∈ (Catalog.run toLowerCase ops).rows, Holds toLowerCase (written ops row.cveId) row) ∧
      ∀ op ∈ ops, ∀ cveId, op.cveId = some cveId → ∃ row ∈ (Catalog.run toLowerCase ops).rows, row.cveId = cveId := by
  refine ⟨keyed_run, fun row hrow => holds_of_mem hrow, fun op hop cveId hid => ?_⟩
  rcases @get_run toLowerCase ops cveId with ⟨-, hnil⟩ | ⟨row, hsome, -⟩
  · have hmem : op ∈ written ops cveId := List.mem_filter.2 ⟨hop, decide_eq_true hid⟩
    rw [hnil] at hmem
    cases hmem
  · exact ⟨row, mem_of_get hsome, key_of_get hsome⟩

/-! ## The gate -/

/-- The versions an item of NVD keeps: all without any bound, else those of the ranges with one. -/
def NvdItem.Keeps (item : NvdItem) (w : Version) : Prop :=
  (∀ m ∈ item.reads, m.range.bounded = false) ∨ ∃ m ∈ item.reads, m.range.bounded = true ∧ w ∈ m.range.versions

/-- The versions an advisory keeps: those below the first patched version it names. -/
def GhsaAdvisory.Keeps (adv : GhsaAdvisory) (w : Version) : Prop :=
  ∀ raw ∈ adv.firstPatched, ∀ r ∈ ceiling raw, w ∈ r.versions

def CatalogOp.Keeps : CatalogOp → Version → Prop
  | nvd _ _ item, w => item.Keeps w
  | ghsa adv, w => adv.Keeps w

section Gate
variable {item : NvdItem} {adv : GhsaAdvisory} {w : Version} {cve : CveRow}

theorem ranges_nvd : item.affectedVersions.map AffectedVersion.range = item.reads.map CpeMatch.range := by
  rw [NvdItem.affectedVersions, List.map_map]
  rfl

theorem bounded_eq_false_iff {r : AffectedRange} : r.bounded = false ↔
    ((given r.versionStartIncluding = none ∧ given r.versionStartExcluding = none) ∧
      given r.versionEndIncluding = none) ∧ given r.versionEndExcluding = none := by
  simp only [AffectedRange.bounded, Bool.or_eq_false_iff, Option.isSome_eq_false_iff, Option.isNone_iff_eq_none]

/-- Without a bound there is no first patched version. -/
theorem firstPatched_of_unbounded (h : ∀ m ∈ item.reads, m.range.bounded = false) : item.firstPatched = none := by
  rw [NvdItem.firstPatched, List.findSome?_eq_none_iff.2 fun m hm => (bounded_eq_false_iff.1 (h m hm)).2,
    List.findSome?_eq_none_iff.2 fun m hm => (bounded_eq_false_iff.1 (h m hm)).1.2]
  rfl

theorem affectedRanges_nvd (hversions : cve.affectedVersions = item.affectedVersions)
    (hpatched : cve.firstPatchedVersion = item.firstPatched) :
    affectedRanges cve = (item.reads.map CpeMatch.range).filter AffectedRange.bounded := by
  rw [affectedRanges, hversions, hpatched, ranges_nvd]
  split_ifs with hnone
  · have hunbounded : ∀ m ∈ item.reads, m.range.bounded = false := fun m hm =>
      Bool.eq_false_iff.2 (List.filter_eq_nil_iff.1 hnone _ (List.mem_map_of_mem hm))
    rw [firstPatched_of_unbounded hunbounded, hnone]
    rfl
  · rfl

theorem keeps_nvd : (((item.reads.map CpeMatch.range).filter AffectedRange.bounded) = [] ∨
    ∃ r ∈ (item.reads.map CpeMatch.range).filter AffectedRange.bounded, w ∈ r.versions) ↔ item.Keeps w := by
  refine or_congr ?_ ⟨?_, ?_⟩
  · rw [List.filter_eq_nil_iff, List.forall_mem_map]
    exact forall₂_congr fun m _ => iff_of_eq (Bool.not_eq_true _)
  · rintro ⟨r, hr, hw⟩
    obtain ⟨hmem, hbounded⟩ := List.mem_filter.1 hr
    obtain ⟨m, hm, rfl⟩ := List.mem_map.1 hmem
    exact ⟨m, hm, hbounded, hw⟩
  · rintro ⟨m, hm, hbounded, hw⟩
    exact ⟨m.range, List.mem_filter.2 ⟨List.mem_map_of_mem hm, hbounded⟩, hw⟩

theorem given_firstPatched : given adv.firstPatched = adv.firstPatched := by
  rw [given, GhsaAdvisory.firstPatched]
  cases hfound : adv.vulnerabilities.findSome? fun v => given v.first_patched_version with
  | none => rfl
  | some raw =>
      obtain ⟨v, -, hv⟩ := List.exists_of_findSome?_eq_some hfound
      rw [Option.filter_some, if_pos (Option.filter_eq_some_iff.1 hv).2]

theorem affectedRanges_ghsa (hversions : cve.affectedVersions = adv.affectedVersions)
    (hpatched : cve.firstPatchedVersion = adv.firstPatched) :
    affectedRanges cve = (adv.firstPatched.bind ceiling).toList := by
  have hnone : (cve.affectedVersions.map AffectedVersion.range).filter AffectedRange.bounded = [] := by
    rw [hversions, GhsaAdvisory.affectedVersions, List.map_map, List.filter_eq_nil_iff, List.forall_mem_map]
    exact fun v _ => Bool.false_ne_true
  rw [affectedRanges, if_pos hnone, hpatched, given_firstPatched]

theorem keeps_ghsa : ((adv.firstPatched.bind ceiling).toList = [] ∨
    ∃ r ∈ (adv.firstPatched.bind ceiling).toList, w ∈ r.versions) ↔ adv.Keeps w := by
  rw [GhsaAdvisory.Keeps]
  cases hpatched : adv.firstPatched with
  | none => simp
  | some raw =>
      rw [Option.bind_some]
      cases hceiling : ceiling raw with
      | none => simp [hceiling]
      | some r => simp [hceiling]

/-- What the last item written for a row says is what its gate does. -/
theorem gate_last {op : CatalogOp} (hrow : cve ∈ (Catalog.run toLowerCase ops).rows)
    (hw : versionOf installed = some w) (hlast : (written ops cve.cveId).getLast? = some op) :
    versionStillVulnerable (some installed) (affectedRanges cve) = true ↔ op.Keeps w := by
  obtain ⟨op', hlast', -, -, hversions, hpatched⟩ := (holds_of_mem hrow).last
  obtain rfl := Option.some.inj (hlast'.symm.trans hlast)
  rw [versionStillVulnerable_iff hw]
  cases op' with
  | nvd source forceKev item =>
      rw [affectedRanges_nvd hversions hpatched]
      exact keeps_nvd
  | ghsa adv =>
      rw [affectedRanges_ghsa hversions hpatched]
      exact keeps_ghsa

end Gate

/-- **The gate of a row** keeps an installed version exactly when the last item written for its identifier does. -/
theorem gate_iff {toLowerCase : Text → Text} {ops : List CatalogOp} {cve : CveRow} {installed : Text} {w : Version}
    (hrow : cve ∈ (Catalog.run toLowerCase ops).rows) (hw : versionOf installed = some w) :
    ∃ op, (written ops cve.cveId).getLast? = some op ∧
      (versionStillVulnerable (some installed) (affectedRanges cve) = true ↔ op.Keeps w) := by
  obtain ⟨op, hlast, -⟩ := (holds_of_mem hrow).last
  exact ⟨op, hlast, gate_last hrow hw hlast⟩

/-- A match of `cpe:2.3:a:acme:app` below 1.5. -/
def appItem : NvdItem :=
  ⟨['A'], [[[⟨['c', 'p', 'e', ':', '2', '.', '3', ':', 'a', ':', 'm', ':', 'p'], none,
    ⟨none, none, none, some ['1', '.', '5']⟩⟩]]], none⟩

def appOps : List CatalogOp := [.nvd .nvd_kev true appItem]

theorem versionOf_app : versionOf ['1', '.', '2'] = some (PaddedOrder.padded 0 [1, 2]) := by
  have hparsed : parseVersionComponents (some ['1', '.', '2']) = some [1, 2] := by decide +kernel
  rw [versionOf, hparsed]
  rfl

theorem gate_iff_app : ∃ cve op, cve ∈ (Catalog.run id appOps).rows ∧ (written appOps cve.cveId).getLast? = some op ∧
    (versionStillVulnerable (some ['1', '.', '2']) (affectedRanges cve) = true ↔
      op.Keeps (PaddedOrder.padded 0 [1, 2])) := by
  have hmem : (CatalogOp.nvd .nvd_kev true appItem).insert id 1 ['A'] ∈ (Catalog.run id appOps).rows := by decide
  obtain ⟨op, hlast, hkeeps⟩ := gate_iff hmem versionOf_app
  exact ⟨_, op, hmem, hlast, hkeeps⟩

/-! ## The product of a row -/

namespace NvdItem

/-- The matches of the item's own product. -/
def own (item : NvdItem) : List CpeMatch :=
  item.reads.filter fun m => decide ((parseCpe m.criteria).2 = item.cpe.2)

/-- What the item says of its product: a missing bound is open. -/
def Affects (item : NvdItem) (w : Version) : Prop := ∃ m ∈ item.own, w ∈ m.range.versions

end NvdItem

section Own
variable {item : NvdItem} {w : Version} {m : CpeMatch}

theorem side_of_given_eq_none {I : Version → Set Version} {bound : Option Text} (h : given bound = none) :
    side I bound = Set.univ := by
  rw [side, h]

theorem versions_of_unbounded {r : AffectedRange} (h : r.bounded = false) : r.versions = Set.univ := by
  obtain ⟨⟨⟨hsi, hse⟩, hei⟩, hee⟩ := bounded_eq_false_iff.1 h
  rw [AffectedRange.versions, side_of_given_eq_none hsi, side_of_given_eq_none hse, side_of_given_eq_none hei,
    side_of_given_eq_none hee, Set.inter_univ, Set.inter_univ, Set.inter_univ]

theorem reads_of_own (h : m ∈ item.own) : m ∈ item.reads := (List.mem_filter.1 h).1

/-- The first match is the product's own. -/
theorem exists_own (h : item.cpe.2 ≠ none) : ∃ m, m ∈ item.own := by
  rw [NvdItem.cpe, NvdItem.allCpes] at h
  cases hreads : item.reads with
  | nil =>
      rw [hreads] at h
      exact absurd rfl h
  | cons m ms =>
      refine ⟨m, List.mem_filter.2 ⟨?_, decide_eq_true ?_⟩⟩
      · rw [hreads]
        exact List.mem_cons_self
      · rw [NvdItem.cpe, NvdItem.allCpes, hreads]
        rfl

end Own

/-- Some range with a bound has the version. -/
def NvdItem.InBounded (item : NvdItem) (w : Version) : Prop :=
  ∃ m ∈ item.reads, m.range.bounded = true ∧ w ∈ m.range.versions

/-- **The gate is exact for an item of NVD** unless it misses a version, which takes a match of the product without
bounds beside a bounded match, none of which has the version, or it keeps a version that only the range of another
product has. -/
theorem nvd_gate_exact_iff {toLowerCase : Text → Text} {ops : List CatalogOp} {cve : CveRow} {installed : Text}
    {w : Version} {source : CveSourceKey} {forceKev : Bool} {item : NvdItem}
    (hrow : cve ∈ (Catalog.run toLowerCase ops).rows) (hproduct : cve.product ≠ none)
    (hlast : (written ops cve.cveId).getLast? = some (.nvd source forceKev item))
    (hw : versionOf installed = some w) :
    (versionStillVulnerable (some installed) (affectedRanges cve) = true ↔ item.Affects w) ↔
      ((∃ m ∈ item.own, m.range.bounded = false) → (∃ m ∈ item.reads, m.range.bounded = true) → item.InBounded w) ∧
        (item.InBounded w → item.Affects w) := by
  obtain ⟨op, hlast', -, hcpe, -, -⟩ := (holds_of_mem hrow).last
  obtain rfl := Option.some.inj (hlast'.symm.trans hlast)
  rw [gate_last hrow hw hlast]
  have hcpe' : item.cpe.2 ≠ none := fun h => hproduct (hcpe.trans h)
  have hunbounded (h : ∃ m ∈ item.own, m.range.bounded = false) : item.Affects w := by
    obtain ⟨m, hm, hfalse⟩ := h
    exact ⟨m, hm, versions_of_unbounded hfalse ▸ Set.mem_univ w⟩
  constructor
  · intro hexact
    refine ⟨fun hown ⟨m, hm, hbounded⟩ => ?_, fun hin => hexact.1 (.inr hin)⟩
    rcases hexact.2 (hunbounded hown) with hall | hin
    · rw [hall m hm] at hbounded
      cases hbounded
    · exact hin
  · rintro ⟨hmiss, hfalse⟩
    constructor
    · rintro (hall | hin)
      · obtain ⟨m, hm⟩ := exists_own hcpe'
        exact hunbounded ⟨m, hm, hall m (reads_of_own hm)⟩
      · exact hfalse hin
    · rintro ⟨m, hm, hmw⟩
      by_cases hany : ∃ m ∈ item.reads, m.range.bounded = true
      · cases hb : m.range.bounded with
        | false => exact .inr (hmiss ⟨m, hm, hb⟩ hany)
        | true => exact .inr ⟨m, reads_of_own hm, hb, hmw⟩
      · exact .inl fun m' hm' => Bool.eq_false_iff.2 fun hb => hany ⟨m', hm', hb⟩

/-- The product of `appItem` without bounds and below 1.5, another product below 1.8, and a match that does not
count. -/
def mixedItem : NvdItem :=
  ⟨['B'], [[[⟨"cpe:2.3:a:m:p".toList, none, ⟨none, none, none, none⟩⟩,
      ⟨"cpe:2.3:a:m:p".toList, some true, ⟨none, none, none, some "1.5".toList⟩⟩],
    [⟨"cpe:2.3:a:m:q".toList, none, ⟨none, none, none, some "1.8".toList⟩⟩]],
    [[⟨"cpe:2.3:a:m:p".toList, some false, ⟨none, none, none, some "3".toList⟩⟩]]], none⟩

def mixedOps : List CatalogOp :=
  [.nvd .nvd_kev true mixedItem, .nvd .nvd_kev true appItem, .nvd .nvd_recent_critical false mixedItem]

def mixedRow : CveRow := (CatalogOp.nvd .nvd_kev true mixedItem).insert id 1 ['B']

theorem versionOf_two : versionOf ['2'] = some (PaddedOrder.padded 0 [2]) := by
  have hparsed : parseVersionComponents (some ['2']) = some [2] := by decide +kernel
  rw [versionOf, hparsed]
  rfl

/-- Version 1.2 is kept. Version 2 is missed, as no range with a bound has it. -/
theorem nvd_gate_exact_iff_mixed :
    (versionStillVulnerable (some ['1', '.', '2']) (affectedRanges mixedRow) = true ∧
      versionStillVulnerable (some ['2']) (affectedRanges mixedRow) = false) ∧
    ((versionStillVulnerable (some ['2']) (affectedRanges mixedRow) = true ↔
        mixedItem.Affects (PaddedOrder.padded 0 [2])) ↔
      ((∃ m ∈ mixedItem.own, m.range.bounded = false) → (∃ m ∈ mixedItem.reads, m.range.bounded = true) →
        mixedItem.InBounded (PaddedOrder.padded 0 [2])) ∧
      (mixedItem.InBounded (PaddedOrder.padded 0 [2]) → mixedItem.Affects (PaddedOrder.padded 0 [2]))) := by
  have hmem : mixedRow ∈ (Catalog.run id mixedOps).rows := by decide +kernel
  have hlast : (written mixedOps ['B']).getLast? = some (.nvd .nvd_recent_critical false mixedItem) := by
    decide +kernel
  exact ⟨by decide +kernel, nvd_gate_exact_iff hmem (by decide +kernel) hlast versionOf_two⟩

end Obliance.Cves
