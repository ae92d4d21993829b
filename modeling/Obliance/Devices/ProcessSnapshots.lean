import Obliance.Js.Doubles
import Obliance.Lib.FirstDistinct

/-!
# The process snapshots of the rewind history

The answer of an agent to a `list_processes` the collector has sent becomes one row with the hogs of the
device.

* `norm` : an entry of the answer, whatever JSON value it is; `none` where the code throws;
* `byCpu`, `byMem`, `top` : the two rankings, and what the loop over both keeps;
* `onProcessAck` : the pending dispatches after an answer, and the row it inserts;
* `KeepsBoth` : different pids, those of both rankings, in order of decreasing CPU;
* `top_of_full` : a CPU ranking with `TOP_N` pids is all that is kept;
* `keeps_both_iff` : a row keeps both exactly when the rankings have at most `TOP_N` pids between them.
-/

namespace Obliance.Devices
open Js

structure Proc where
  pid : ℤ
  name : List ℕ
  cpu : WithBot (WithTop ℚ)
  memMb : WithBot (WithTop ℚ)
  user : Option (List ℕ)
deriving DecidableEq

section Collector
variable (d : Doubles)

/-- `Math.round(v * 10) / 10` -/
def tenths (v : WithBot (WithTop ℚ)) : WithBot (WithTop ℚ) :=
  d.lift (· / 10) (Doubles.mathRound (d.lift (· * 10) v))

def num (v : Option Json) : Option ℚ := (d.number v).map (·.getD 0)

def norm (x : Json) : Option Proc :=
  if x.isNull then none
  else do
    let pid ← num d (x.get "pid")
    let name ← match present (x.get "name") with
      | some v => v.toText d.showNumber
      | none => some []
    let cpuPercent ← num d (x.get "cpuPercent")
    let memBytes ← num d (x.get "memBytes")
    let user ← match present (x.get "user") with
      | some v => (v.toText d.showNumber).map some
      | none => some none
    return {
      pid := pid.num.tdiv pid.den
      name := (utf16 name).take 128
      cpu := tenths d (some (some cpuPercent))
      memMb := Doubles.mathRound (d.toDouble (memBytes / 2 ^ 20))
      user := user.map fun s => (utf16 s).take 128 }

/-- The answer as a list of processes: nothing for no array or an empty one, or where an entry throws. -/
def normalised : Json → Option (List Proc)
  | .arr [] => none
  | .arr items => items.mapM (norm d)
  | _ => none

/-- Two infinite loads compare as equal: their difference is NaN. -/
def cpuFirst (a b : Proc) : Bool := decide (b.cpu ≤ a.cpu)

def memFirst (a b : Proc) : Bool := decide (b.memMb ≤ a.memMb)

def byCpu (topN : ℕ) (procs : List Proc) : List Proc := (procs.mergeSort cpuFirst).take topN

def byMem (topN : ℕ) (procs : List Proc) : List Proc := (procs.mergeSort memFirst).take topN

def top (topN : ℕ) (procs : List Proc) : List Proc :=
  (FirstDistinct.collect Proc.pid topN [] [] (byCpu topN procs ++ byMem topN procs)).mergeSort cpuFirst

structure Pending where
  deviceId : ℕ
  tenantId : ℕ
  dispatchedAt : ℤ

structure ProcessHistoryRow where
  deviceId : ℕ
  tenantId : ℕ
  capturedAt : ℤ
  processCount : ℕ
  cpuTotal : JsNum
  memUsedMb : JsNum
  procs : List Proc

def cpuTotal (procs : List Proc) : JsNum :=
  (procs.foldl (fun s x => d.plus s (some x.cpu)) (.ofRat 0)).map (tenths d)

def memUsed (procs : List Proc) : JsNum := procs.foldl (fun s x => d.plus s (some x.memMb)) (.ofRat 0)

def historyRow (topN : ℕ) (now : ℤ) (p : Pending) (procs : List Proc) : ProcessHistoryRow where
  deviceId := p.deviceId
  tenantId := p.tenantId
  capturedAt := now
  processCount := procs.length
  cpuTotal := cpuTotal d procs
  memUsedMb := memUsed d procs
  procs := top topN procs

/-- Only an answer to a dispatch of the collector is stored, and only once. -/
def onProcessAck (topN : ℕ) (now : ℤ) (pending : JsMap String Pending) (commandId : String)
    (processes : Json) : JsMap String Pending × Option ProcessHistoryRow :=
  match pending.get commandId with
  | none => (pending, none)
  | some p =>
      (pending.filter (·.1 ≠ commandId), (normalised d processes).map (historyRow d topN now p))

end Collector

/-! ## What a row keeps -/

def KeepsBoth (topN : ℕ) (procs : List Proc) (row : ProcessHistoryRow) : Prop :=
  (row.procs.map Proc.pid).Nodup ∧
    (∀ pid, pid ∈ row.procs.map Proc.pid ↔ pid ∈ (byCpu topN procs ++ byMem topN procs).map Proc.pid) ∧
      row.procs.Pairwise fun a b => b.cpu ≤ a.cpu

/-- The pids of the two rankings. -/
def rankedPids (topN : ℕ) (procs : List Proc) : Finset ℤ :=
  ((byCpu topN procs ++ byMem topN procs).map Proc.pid).toFinset

section Top
variable {topN : ℕ} {procs : List Proc}

theorem cpuFirst_trans (a b c : Proc) (hab : cpuFirst a b = true) (hbc : cpuFirst b c = true) :
    cpuFirst a c = true := by
  rw [cpuFirst, decide_eq_true_iff] at *
  exact hbc.trans hab

theorem cpuFirst_total (a b : Proc) : (cpuFirst a b || cpuFirst b a) = true := by
  rw [Bool.or_eq_true, cpuFirst, cpuFirst, decide_eq_true_iff, decide_eq_true_iff]
  exact le_total b.cpu a.cpu

theorem pairwise_top : (top topN procs).Pairwise fun a b => b.cpu ≤ a.cpu :=
  (List.pairwise_mergeSort cpuFirst_trans cpuFirst_total _).imp of_decide_eq_true

theorem top_perm :
    ((top topN procs).map Proc.pid).Perm
      ((FirstDistinct.collect Proc.pid topN [] [] (byCpu topN procs ++ byMem topN procs)).map Proc.pid) :=
  (List.mergeSort_perm _ _).map _

theorem nodup_top (hN : 0 < topN) : ((top topN procs).map Proc.pid).Nodup :=
  top_perm.nodup_iff.2 (FirstDistinct.nodup_collect _ (.start hN))

theorem top_keeps_all_iff (hN : 0 < topN) :
    (∀ pid, pid ∈ (top topN procs).map Proc.pid ↔ pid ∈ (byCpu topN procs ++ byMem topN procs).map Proc.pid) ↔
      (rankedPids topN procs).card ≤ topN := by
  rw [rankedPids, ← FirstDistinct.keeps_all_iff hN]
  exact forall_congr' fun pid => by rw [top_perm.mem_iff]

/-- The loop ends within the first ranking when its pids are different. -/
theorem top_of_full (hN : 0 < topN) (hnd : ((byCpu topN procs).map Proc.pid).Nodup)
    (hlen : (byCpu topN procs).length = topN) :
    ((top topN procs).map Proc.pid).Perm ((byCpu topN procs).map Proc.pid) := by
  have hfull : FirstDistinct.collect Proc.pid topN [] [] (byCpu topN procs ++ byMem topN procs) = byCpu topN procs :=
    FirstDistinct.collect_append_of_full _ (.start hN) (by rwa [List.nil_append]) (by rwa [List.nil_append])
  exact hfull ▸ top_perm

theorem memFirst_trans (a b c : Proc) (hab : memFirst a b = true) (hbc : memFirst b c = true) :
    memFirst a c = true := by
  rw [memFirst, decide_eq_true_iff] at *
  exact hbc.trans hab

theorem memFirst_total (a b : Proc) : (memFirst a b || memFirst b a) = true := by
  rw [Bool.or_eq_true, memFirst, memFirst, decide_eq_true_iff, decide_eq_true_iff]
  exact le_total b.memMb a.memMb

/-- The process with the most memory leads the second ranking. -/
theorem mem_byMem_of_largest (hN : 0 < topN) {hog : Proc} (hmem : hog ∈ procs)
    (hlargest : ∀ x ∈ procs, hog.memMb ≤ x.memMb → x = hog) : hog ∈ byMem topN procs := by
  have hsorted := List.pairwise_mergeSort memFirst_trans memFirst_total procs
  have hin : hog ∈ procs.mergeSort memFirst := List.mem_mergeSort.2 hmem
  rw [byMem]
  cases hcons : procs.mergeSort memFirst with
  | nil => exact absurd (hcons ▸ hin) List.not_mem_nil
  | cons x xs =>
      rw [hcons] at hsorted hin
      have hx : x ∈ procs := List.mem_mergeSort.1 (hcons ▸ List.mem_cons_self)
      have hle : hog.memMb ≤ x.memMb := by
        obtain rfl | hxs := List.mem_cons.1 hin
        · exact le_rfl
        · exact of_decide_eq_true ((List.pairwise_cons.1 hsorted).1 hog hxs)
      obtain ⟨n, rfl⟩ := Nat.exists_eq_succ_of_ne_zero hN.ne'
      rw [hlargest x hx hle, List.take_succ_cons]
      exact List.mem_cons_self

end Top

theorem keeps_both_iff (d : Doubles) {topN : ℕ} (hN : 5 ≤ topN) {now : ℤ} {pending : JsMap String Pending}
    {commandId : String} {processes : Json} {row : ProcessHistoryRow}
    (h : (onProcessAck d topN now pending commandId processes).2 = some row) :
    ∃ procs, normalised d processes = some procs ∧
      (KeepsBoth topN procs row ↔ (rankedPids topN procs).card ≤ topN) := by
  have hpos : 0 < topN := by omega
  rw [onProcessAck] at h
  split at h
  · cases h
  · next p _ =>
    obtain ⟨procs, hprocs, rfl⟩ := Option.map_eq_some_iff.1 h
    have hrow : (historyRow d topN now p procs).procs = top topN procs := rfl
    refine ⟨procs, hprocs, ?_⟩
    rw [KeepsBoth, hrow, and_iff_right (nodup_top hpos), and_iff_left pairwise_top]
    exact top_keeps_all_iff hpos

def procJson (pid cpu memMb : ℕ) : Json :=
  .obj [("pid".toList, .num pid), ("cpuPercent".toList, .num cpu), ("memBytes".toList, .num (memMb * 2 ^ 20))]

def procOf (pid cpu memMb : ℕ) : Proc := ⟨pid, [], some (some cpu), some (some memMb), none⟩

/-- Six processes in the order of both rankings. -/
def steady : List Proc :=
  [procOf 1 60 9, procOf 2 50 8, procOf 3 40 7, procOf 4 30 6, procOf 5 20 5, procOf 6 1 1]

def steadyJson : Json :=
  .arr [procJson 1 60 9, procJson 2 50 8, procJson 3 40 7, procJson 4 30 6, procJson 5 20 5, procJson 6 1 1]

/-- The first five are the same in both, and are what is stored. -/
theorem keeps_both_iff_steady : KeepsBoth 5 steady (historyRow exactDoubles 5 0 ⟨7, 1, 0⟩ steady) := by
  have hnorm : normalised exactDoubles steadyJson = some steady := by decide +kernel
  have hcpu : byCpu 5 steady = steady.take 5 :=
    congrArg (List.take 5) (List.mergeSort_of_pairwise (by decide +kernel))
  have hmem : byMem 5 steady = steady.take 5 :=
    congrArg (List.take 5) (List.mergeSort_of_pairwise (by decide +kernel))
  have hstored : (onProcessAck exactDoubles 5 0 [("a", ⟨7, 1, 0⟩)] "a" steadyJson).2 =
      some (historyRow exactDoubles 5 0 ⟨7, 1, 0⟩ steady) :=
    Option.map_eq_some_iff.2 ⟨_, hnorm, rfl⟩
  obtain ⟨procs, hprocs, hiff⟩ := keeps_both_iff exactDoubles le_rfl hstored
  obtain rfl := Option.some.inj (hnorm.symm.trans hprocs)
  refine hiff.2 ?_
  rw [rankedPids, hcpu, hmem]
  decide +kernel

/-- Five processes lead in CPU; the sixth has most of the memory. -/
def hogs : List Proc :=
  [procOf 1 60 5, procOf 2 50 4, procOf 3 40 3, procOf 4 30 2, procOf 5 20 1, procOf 6 1 900]

theorem not_keeps_both :
    ¬ ∀ (d : Doubles) (topN : ℕ), 5 ≤ topN → ∀ now pending commandId processes row,
      (onProcessAck d topN now pending commandId processes).2 = some row →
        ∃ procs, normalised d processes = some procs ∧ KeepsBoth topN procs row := by
  intro hall
  have hnorm : normalised exactDoubles (.arr [procJson 1 60 5, procJson 2 50 4, procJson 3 40 3, procJson 4 30 2,
      procJson 5 20 1, procJson 6 1 900]) = some hogs := by decide +kernel
  have hcpu : byCpu 5 hogs = hogs.take 5 :=
    congrArg (List.take 5) (List.mergeSort_of_pairwise (by decide +kernel))
  obtain ⟨procs, hprocs, -, hpids, -⟩ := hall exactDoubles 5 le_rfl 0 [("a", ⟨7, 1, 0⟩)] "a" _ _
    (Option.map_eq_some_iff.2 ⟨hogs, hnorm, rfl⟩)
  obtain rfl := Option.some.inj (hnorm.symm.trans hprocs)
  have hhog : procOf 6 1 900 ∈ byMem 5 hogs :=
    mem_byMem_of_largest (by omega) (by decide +kernel) (by decide +kernel)
  have hin := (hpids 6).2 (List.mem_map.2 ⟨_, List.mem_append_right _ hhog, rfl⟩)
  have hperm : ((top 5 hogs).map Proc.pid).Perm ((byCpu 5 hogs).map Proc.pid) :=
    top_of_full (by omega) (by rw [hcpu]; decide +kernel) (by rw [hcpu]; rfl)
  rw [hcpu] at hperm
  exact absurd (hperm.mem_iff.1 hin) (by decide +kernel)

end Obliance.Devices
