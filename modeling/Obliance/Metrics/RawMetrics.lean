import Obliance.Js.Json
import Obliance.Metrics.Cascade

/-!
# The metrics of a push as they arrive (`services/thresholdCascade.ts`, `services/device.service.ts`)

`push.metrics` is whatever JSON the agent sent, and `computeMetricStatus` reads it without a check.

* `readDisk`, `readMetrics` : what it reads, or that it throws;
* `DiskThrows`, `readMetrics_eq_none_iff` : the disks for which it throws;
* `readPrevMetrics` : the metrics of the push before, where the inline re-baseline can read them.
-/

namespace Obliance.Metrics
open Js

variable (showNumber : ℚ → String)

/-- `typeof v === 'number'` and `Number.isFinite(v)` -/
def percentOf : Option Json → Option ℚ
  | some (.num q) => some q
  | _ => none

/-- `(d.fstype ?? '').toLowerCase()` needs a text; `none` when it throws. -/
def readFstype : Option Json → Option (Option String)
  | none | some .null => some none
  | some (.str s) => some (some (String.ofList s))
  | _ => none

/-- `d.mount`, which the patterns and `diskByMount[mount]` make a text of; a falsy one is no mount. -/
def readMount : Option Json → Option (Option String)
  | none => some none
  | some mount =>
      (mount.toText showNumber).map fun text => if mount.truthy then some (String.ofList text) else none

def isOpticalFs (fstype : Option String) : Bool :=
  decide ((fstype.getD "").toLower ∈ ["iso9660", "udf", "cdfs"])

def readPercent (t : ResolvedThresholds) (mount : Option String) (d : Json) : Option ℚ :=
  if t.inheritsMount mount then none else percentOf (d.get "percent")

/-- One turn of the loop over the disks, `none` when it throws. A disk that is known to be excluded is read no
further. -/
def readDisk (t : ResolvedThresholds) (d : Json) : Option (Option DiskMetrics) :=
  if !d.truthy then some none
  else match d.get "removable" with
    | some (.bool true) => some (some ⟨none, none, none, some true⟩)
    | _ =>
      (readFstype (d.get "fstype")).bind fun fstype =>
        if isOpticalFs fstype then some (some ⟨none, none, fstype, none⟩)
        else (readMount showNumber (d.get "mount")).map fun mount =>
          some ⟨mount, readPercent t mount d, fstype, none⟩

def readDisks (t : ResolvedThresholds) : List Json → Option (List (Option DiskMetrics))
  | [] => some []
  | d :: ds => (readDisk showNumber t d).bind fun disk => (readDisks t ds).map (disk :: ·)

/-- What `computeMetricStatus` reads of any value that is truthy. -/
def readMetrics (t : ResolvedThresholds) (metrics : Json) : Option PushMetrics :=
  let disks := match metrics.get "disks" with
    | some (.arr items) => items
    | _ => []
  (readDisks showNumber t disks).map fun disks =>
    ⟨percentOf ((metrics.get "cpu").bind (Json.get "percent")),
      percentOf ((metrics.get "memory").bind (Json.get "percent")), disks⟩

/-- `prev.latest_metrics` for the inline re-baseline: a text is parsed, what is no object counts as missing, and where
the reading throws there is no re-baseline. -/
def readPrevMetrics (parseJson : List Char → Option Json) (t : ResolvedThresholds) (raw : Option Json) :
    Option PushMetrics :=
  let prevMetrics := match raw with
    | some (.str text) => parseJson text
    | raw => raw
  match prevMetrics with
  | some (.arr items) => readMetrics showNumber t (.arr items)
  | some (.obj fields) => readMetrics showNumber t (.obj fields)
  | _ => none

/-! ## Where the reading throws -/

/-- A file system that is no text, or a mount that no text can be made of, on a disk not excluded before. -/
def DiskThrows (d : Json) : Prop :=
  d.truthy = true ∧ d.get "removable" ≠ some (.bool true) ∧
    (readFstype (d.get "fstype") = none ∨
      ∃ fstype, readFstype (d.get "fstype") = some fstype ∧ isOpticalFs fstype = false ∧
        readMount showNumber (d.get "mount") = none)

theorem readDisk_eq_none_iff (t : ResolvedThresholds) (d : Json) :
    readDisk showNumber t d = none ↔ DiskThrows showNumber d := by
  unfold readDisk DiskThrows
  cases htruthy : d.truthy with
  | false => simp
  | true =>
      rw [Bool.not_true, if_neg Bool.false_ne_true, and_iff_right rfl]
      split
      · next hremovable => simp [hremovable]
      · next hremovable =>
        rw [and_iff_right hremovable]
        cases hfstype : readFstype (d.get "fstype") with
        | none => simp
        | some fstype =>
            cases hoptical : isOpticalFs fstype with
            | true => simp [hoptical]
            | false => simp [hoptical]

theorem readDisks_eq_none_iff (t : ResolvedThresholds) (ds : List Json) :
    readDisks showNumber t ds = none ↔ ∃ d ∈ ds, DiskThrows showNumber d := by
  induction ds with
  | nil => simp [readDisks]
  | cons d ds ih =>
      simp only [List.mem_cons, exists_eq_or_imp]
      rw [readDisks, ← ih, ← readDisk_eq_none_iff showNumber t]
      cases readDisk showNumber t d with
      | none => simp
      | some disk => simp

/-- **Which metrics throw** does not depend on the thresholds: those with a disk that throws. -/
theorem readMetrics_eq_none_iff (t : ResolvedThresholds) (metrics : Json) :
    readMetrics showNumber t metrics = none ↔
      ∃ items, metrics.get "disks" = some (.arr items) ∧ ∃ d ∈ items, DiskThrows showNumber d := by
  unfold readMetrics
  dsimp only
  rw [Option.map_eq_none_iff, readDisks_eq_none_iff]
  split
  · next items hdisks => simp [hdisks]
  · next hno =>
    simp only [List.not_mem_nil, false_and, exists_false, false_iff]
    rintro ⟨items, hdisks, -⟩
    exact hno items hdisks

end Obliance.Metrics
