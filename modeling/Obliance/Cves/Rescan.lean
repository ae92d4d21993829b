import Mathlib.Data.List.Infix
import Obliance.Cves.Catalog
import Obliance.Js.Doubles
import Obliance.Lib.GuardedRun
import Obliance.Lib.JsSet

/-!
# Matching a device against the catalog (`services/cve.service.ts`, `rescanDevice`)

* `Device`, `Software`, `DeviceCve`, `Db` : the tables;
* `matchOf`, `matchesOf` : the matches of a device, in the order they are written;
* `rescanDevice`, `dismissDeviceCve` : the two writers of `device_cves`;
* `get_upsertMatches`, `rescan_spec` : what a scan leaves, key by key;
* `dismissed_for_good` : a match that was dismissed stays so, whatever scans overlap.
-/

namespace Obliance.Cves
open Js KeyedTable GuardedRun

/-! ## The tables -/

structure Device where
  id : ℕ
  tenantId : ℕ
  osType : Option Text
  osName : Option Text
  osVersion : Option Text
  osDistro : Option Text
  deriving DecidableEq, Repr

/-- A row of the inventory, or of the system itself without an `id`. -/
structure Software where
  id : Option ℕ
  name : Text
  version : Option Text
  publisher : Option Text
  deriving DecidableEq, Repr

structure InventoryRow where
  deviceId : ℕ
  scannedAt : ℤ
  software : Software
  deriving DecidableEq, Repr

inductive Confidence where
  | high
  | medium
  | low
  deriving DecidableEq, Repr

/-- `UNIQUE (device_id, cve_id, matched_product)` -/
structure MatchKey where
  deviceId : ℕ
  cveId : ℕ
  product : Text
  deriving DecidableEq, Repr

structure DeviceCve where
  id : ℕ
  tenantId : ℕ
  key : MatchKey
  softwareId : Option ℕ
  vendor : Option Text
  version : Option Text
  confidence : Confidence
  matchedAt : ℤ
  dismissedAt : Option ℤ
  dismissedBy : Option ℕ
  deriving DecidableEq, Repr

/-! ## Matching -/

/-- `toLowerCase` of the language is a parameter. -/
structure Matching where
  toLowerCase : Text → Text

/-- `/[\s_\-./\\,()[\]]/` -/
def isTokenSeparator (c : Char) : Bool :=
  isJsSpace c || decide (c ∈ ['_', '-', '.', '/', '\\', ',', '(', ')', '[', ']'])

namespace Matching
variable (lc : Matching)

def tokenSet (name : Text) : List Text :=
  JsSet.ofList ((((lc.toLowerCase name).splitOnP isTokenSeparator).map (Numerals.strip isJsSpace)).filter fun t =>
    !t.isEmpty)

end Matching

def subsetOf (needle haystack : List Text) : Bool := !needle.isEmpty && needle.all fun t => haystack.contains t

/-- `s.includes(t)` -/
def includes (s t : Text) : Bool := decide (t <:+: s)

/-- The vendors of distributions. -/
def distroVendors : List String :=
  ["canonical", "ubuntu", "debian", "redhat", "fedora", "centos", "suse", "opensuse", "oracle", "alpinelinux", "alpine",
    "arch", "rocky", "almalinux"]

namespace Matching
variable (lc : Matching)

def osTypeCompatible (cveVendor : Text) (cveProductTokens : List Text) (osType : Text) : Bool :=
  let v := lc.toLowerCase cveVendor
  let t := lc.toLowerCase osType
  let has (token : String) : Bool := cveProductTokens.contains token.toList
  if t = [] then false
  else if t = "windows".toList then decide (v = "microsoft".toList) && has "windows"
  else if t = "macos".toList then decide (v = "apple".toList) && (has "macos" || has "mac" || has "os")
  else if t = "linux".toList then
    decide (v = "linux".toList) && (has "kernel" || has "linux") || (distroVendors.map String.toList).contains v
  else if t = "freebsd".toList then decide (v = "freebsd".toList)
  else false

/-- The rows pushed for the system of the device. -/
def systemRows (device : Device) : List Software :=
  let osType := device.osType.getD []
  let osName := device.osName.getD []
  let osDistro := device.osDistro.getD []
  let row (name publisher : Text) : Software := ⟨none, name, device.osVersion, some publisher⟩
  if osType = "windows".toList then
    [row (Numerals.strip isJsSpace ("Microsoft Windows ".toList ++ osName)) "Microsoft".toList]
  else if osType = "macos".toList then
    [row (Numerals.strip isJsSpace ("Apple macOS ".toList ++ osName)) "Apple".toList]
  else if osType = "linux".toList then
    row "Linux Kernel".toList "Linux".toList ::
      ((if osDistro = [] then [] else [row osDistro osDistro]) ++
        if osName ≠ [] ∧ lc.toLowerCase osName ≠ lc.toLowerCase osDistro then
          [row osName (if osDistro = [] then osName else osDistro)]
        else [])
  else if osType = "freebsd".toList then [row "FreeBSD".toList "freebsd".toList]
  else []

/-- The parts `a`, `o` and `h` of the CPEs. -/
def cpeParts (cpes : List Text) : List Text :=
  JsSet.ofList (cpes.filterMap fun c => given (c.splitOn ':')[2]?)

/-- The guards a CVE passes before any software is looked at. -/
def considered (device : Device) (cve : CveRow) : Bool :=
  let cveVendor := lc.toLowerCase (cve.vendor.getD [])
  let cveProduct := lc.toLowerCase (cve.product.getD [])
  let tokens := lc.tokenSet cveProduct
  let parts := cpeParts cve.cpeMatches
  let hardware := !parts.isEmpty && !parts.contains ['a'] && !parts.contains ['o'] && parts.contains ['h']
  let osScoped := parts.contains ['o'] && !parts.contains ['a']
  let shortProduct := decide ((utf16 cveProduct).length < 4)
  !cveProduct.isEmpty && !tokens.isEmpty && !hardware && !(shortProduct && cveVendor.isEmpty) &&
    !(osScoped && !lc.osTypeCompatible cveVendor tokens (device.osType.getD []))

/-- The match of a CVE with a software row, and its confidence. -/
def matchOf (cve : CveRow) (sw : Software) : Option Confidence :=
  let cveVendor := lc.toLowerCase (cve.vendor.getD [])
  let cveProduct := lc.toLowerCase (cve.product.getD [])
  let tokens := lc.tokenSet cveProduct
  let publisher := lc.toLowerCase (sw.publisher.getD [])
  let vendorMatch := !cveVendor.isEmpty && !publisher.isEmpty &&
    (includes publisher cveVendor || includes cveVendor publisher)
  if !subsetOf tokens (lc.tokenSet sw.name) then none
  else if tokens.length = 1 && !vendorMatch then none
  else if !versionStillVulnerable sw.version (affectedRanges cve) then none
  else if vendorMatch then some .high
  else if (utf16 cveProduct).length < 4 then none
  else if 6 ≤ (utf16 cveProduct).length then some .medium
  else some .low

end Matching

structure Match where
  cve : CveRow
  software : Software
  confidence : Confidence
  deriving DecidableEq, Repr

def Match.key (deviceId : ℕ) (m : Match) : MatchKey := ⟨deviceId, m.cve.id, m.software.name⟩

structure Db where
  devices : List Device
  inventory : List InventoryRow
  cves : List CveRow
  deviceCves : List DeviceCve
  nextId : ℕ
  deriving DecidableEq, Repr

namespace Db

/-- The rows of the latest scan. -/
def latestSoftware (s : Db) (deviceId : ℕ) : List Software :=
  let mine := s.inventory.filter fun r => decide (r.deviceId = deviceId)
  (mine.filter fun r => mine.all fun r' => decide (r'.scannedAt ≤ r.scannedAt)).map InventoryRow.software

/-- The matches a scan writes, CVE by CVE. -/
def matchesOf (s : Db) (lc : Matching) (device : Device) : List Match :=
  let software := s.latestSoftware device.id ++ lc.systemRows device
  s.cves.flatMap fun cve =>
    if lc.considered device cve then
      software.filterMap fun sw => (lc.matchOf cve sw).map fun confidence => ⟨cve, sw, confidence⟩
    else []

end Db

/-! ## Writing -/

/-- The lengths of the columns. -/
def Match.fits (m : Match) : Bool :=
  decide ((m.software.publisher.getD []).length ≤ 255 ∧ m.software.name.length ≤ 255 ∧
    (m.software.version.getD []).length ≤ 64)

def Match.insert (m : Match) (device : Device) (id : ℕ) (now : ℤ) : DeviceCve :=
  ⟨id, device.tenantId, m.key device.id, m.software.id, m.software.publisher, m.software.version, m.confidence, now,
    none, none⟩

def Match.merge (m : Match) (now : ℤ) (row : DeviceCve) : DeviceCve :=
  { row with
    softwareId := m.software.id
    vendor := m.software.publisher
    version := m.software.version
    confidence := m.confidence
    matchedAt := now }

/-- One upsert; a row that does not fit is an error, which the scan logs. -/
def Db.upsertMatch (s : Db) (device : Device) (now : ℤ) (m : Match) : Db :=
  if m.fits then
    { s with
      deviceCves := upsert DeviceCve.key s.deviceCves (m.insert device s.nextId now) (m.merge now)
      nextId := s.nextId + 1 }
  else s

/-- The purge of the matches that are not dismissed. -/
def Db.purge (s : Db) (deviceId : ℕ) : Db :=
  { s with
    deviceCves := s.deviceCves.filter fun r => !(decide (r.key.deviceId = deviceId) && r.dismissedAt.isNone) }

/-- The scan and the number of rows it wrote. -/
def rescanDevice (lc : Matching) (s : Db) (deviceId : ℕ) (now : ℤ) : Db × ℕ :=
  match s.devices.find? fun d => decide (d.id = deviceId) with
  | none => (s, 0)
  | some device =>
      let found := (s.purge deviceId).matchesOf lc device
      (found.foldl (fun t m => t.upsertMatch device now m) (s.purge deviceId), (found.filter Match.fits).length)

/-- `master` is that the tenant is the master tenant. -/
def DeviceCve.dismiss (id tenantId : ℕ) (master : Bool) (userId : ℕ) (now : ℤ) (r : DeviceCve) : DeviceCve :=
  if r.id = id ∧ (master = true ∨ r.tenantId = tenantId) then
    { r with dismissedAt := some now, dismissedBy := some userId }
  else r

def dismissDeviceCve (s : Db) (id tenantId : ℕ) (master : Bool) (userId : ℕ) (now : ℤ) : Db :=
  { s with deviceCves := s.deviceCves.map (DeviceCve.dismiss id tenantId master userId now) }

/-! ## What a scan leaves -/

/-- The matches of a scan that are written under a key, in their order. -/
def writers (deviceId : ℕ) (found : List Match) (k : MatchKey) : List Match :=
  found.filter fun m => m.fits && decide (m.key deviceId = k)

/-- What the row of a key holds after the last match written to it. -/
structure Written (m : Match) (old : Option DeviceCve) (row : DeviceCve) : Prop where
  softwareId : row.softwareId = m.software.id
  vendor : row.vendor = m.software.publisher
  version : row.version = m.software.version
  confidence : row.confidence = m.confidence
  dismissedAt : row.dismissedAt = old.bind DeviceCve.dismissedAt
  dismissedBy : row.dismissedBy = old.bind DeviceCve.dismissedBy

section Writes
variable {s : Db} {device : Device} {now : ℤ} {m : Match} {found : List Match} {k : MatchKey}

theorem get_upsertMatch : get DeviceCve.key (s.upsertMatch device now m).deviceCves k =
    if m.fits = true ∧ k = m.key device.id then
      some ((get DeviceCve.key s.deviceCves k).elim (m.insert device s.nextId now) (m.merge now))
    else get DeviceCve.key s.deviceCves k := by
  have hkeys (row : DeviceCve) : (m.merge now row).key = row.key := rfl
  rw [Db.upsertMatch]
  by_cases hfits : m.fits = true
  · rw [if_pos hfits]
    dsimp only
    rw [get_upsert hkeys]
    exact if_congr ⟨fun h => ⟨hfits, h⟩, And.right⟩ rfl rfl
  · rw [if_neg hfits, if_neg fun h => hfits h.1]

theorem keyed_upsertMatch (h : Keyed DeviceCve.key s.deviceCves) :
    Keyed DeviceCve.key (s.upsertMatch device now m).deviceCves := by
  rw [Db.upsertMatch]
  split_ifs
  · exact nodup_upsert (fun _ => rfl) h
  · exact h

theorem keyed_upsertMatches (h : Keyed DeviceCve.key s.deviceCves) :
    Keyed DeviceCve.key (found.foldl (fun t m => t.upsertMatch device now m) s).deviceCves := by
  induction found generalizing s with
  | nil => exact h
  | cons m found ih => exact ih (keyed_upsertMatch h)

/-- A key that is written holds its last match, and is dismissed if it was before. -/
theorem get_upsertMatches :
    (writers device.id found k = [] ∧
      get DeviceCve.key (found.foldl (fun t m => t.upsertMatch device now m) s).deviceCves k =
        get DeviceCve.key s.deviceCves k) ∨
    ∃ m row, (writers device.id found k).getLast? = some m ∧
      get DeviceCve.key (found.foldl (fun t m => t.upsertMatch device now m) s).deviceCves k = some row ∧
      Written m (get DeviceCve.key s.deviceCves k) row := by
  induction found using List.reverseRecOn with
  | nil => exact .inl ⟨rfl, rfl⟩
  | append_singleton found m ih =>
      rw [List.foldl_append, List.foldl_cons, List.foldl_nil, get_upsertMatch, writers, List.filter_append]
      split_ifs with hwrite
      · rw [List.filter_cons_of_pos (by rw [hwrite.1, decide_eq_true hwrite.2.symm]; rfl), List.filter_nil]
        refine .inr ⟨m, _, List.getLast?_concat, rfl, ?_⟩
        rcases ih with ⟨-, hsame⟩ | ⟨m', row, -, hrow, hwritten⟩
        · rw [hsame]
          cases get DeviceCve.key s.deviceCves k with
          | none => exact ⟨rfl, rfl, rfl, rfl, rfl, rfl⟩
          | some old => exact ⟨rfl, rfl, rfl, rfl, rfl, rfl⟩
        · rw [hrow]
          exact ⟨rfl, rfl, rfl, rfl, hwritten.dismissedAt, hwritten.dismissedBy⟩
      · rw [List.filter_cons_of_neg, List.filter_nil, List.append_nil]
        · exact ih
        · rw [Bool.and_eq_true, decide_eq_true_eq]
          exact fun h => hwrite ⟨h.1, h.2.symm⟩

theorem get_purge (h : Keyed DeviceCve.key s.deviceCves) :
    get DeviceCve.key (s.purge k.deviceId).deviceCves k =
      (get DeviceCve.key s.deviceCves k).filter fun r => r.dismissedAt.isSome := by
  rw [Db.purge]
  dsimp only
  rw [get_filter h]
  cases hget : get DeviceCve.key s.deviceCves k with
  | none => rfl
  | some r =>
      rw [Option.filter_some, Option.filter_some, key_of_get hget, decide_eq_true rfl, Bool.true_and,
        Option.not_isNone]

theorem get_purge_ne (h : Keyed DeviceCve.key s.deviceCves) {deviceId : ℕ} (hne : k.deviceId ≠ deviceId) :
    get DeviceCve.key (s.purge deviceId).deviceCves k = get DeviceCve.key s.deviceCves k := by
  rw [Db.purge]
  dsimp only
  rw [get_filter h]
  cases hget : get DeviceCve.key s.deviceCves k with
  | none => rfl
  | some r => rw [Option.filter_some, key_of_get hget, decide_eq_false hne, Bool.false_and, Bool.not_false, if_pos rfl]

theorem keyed_purge (h : Keyed DeviceCve.key s.deviceCves) (deviceId : ℕ) :
    Keyed DeviceCve.key (s.purge deviceId).deviceCves :=
  h.sublist (List.filter_sublist.map _)

/-- Only keys of the device are written. -/
theorem writers_ne (hne : k.deviceId ≠ device.id) : writers device.id found k = [] := by
  rw [writers, List.filter_eq_nil_iff]
  intro m _ h
  rw [Bool.and_eq_true, decide_eq_true_eq] at h
  exact hne (congrArg MatchKey.deviceId h.2).symm

end Writes

/-- The row of a key is dismissed. -/
def Dismissed (rows : List DeviceCve) (k : MatchKey) : Prop :=
  ∃ r, get DeviceCve.key rows k = some r ∧ r.dismissedAt.isSome = true

/-- The row of a key is listed. -/
def Shown (rows : List DeviceCve) (k : MatchKey) : Prop :=
  ∃ r, get DeviceCve.key rows k = some r ∧ r.dismissedAt = none

theorem dismissed_iff {rows : List DeviceCve} {k : MatchKey} :
    Dismissed rows k ↔ ((get DeviceCve.key rows k).bind DeviceCve.dismissedAt).isSome = true := by
  rw [Dismissed]
  cases get DeviceCve.key rows k with
  | none => exact iff_of_false (fun ⟨_, h, _⟩ => nomatch h) Bool.false_ne_true
  | some r => exact ⟨fun ⟨_, h, hr⟩ => Option.some.inj h ▸ hr, fun h => ⟨r, rfl, h⟩⟩

theorem shown_iff {rows : List DeviceCve} {k : MatchKey} :
    Shown rows k ↔ ¬ Dismissed rows k ∧ (get DeviceCve.key rows k).isSome = true := by
  rw [Shown, dismissed_iff]
  cases get DeviceCve.key rows k with
  | none => exact iff_of_false (fun ⟨_, h, _⟩ => nomatch h) fun h => Bool.false_ne_true h.2
  | some r =>
      rw [Option.bind_some, Option.not_isSome_iff_eq_none, and_iff_left Option.isSome_some]
      exact ⟨fun ⟨_, h, hr⟩ => Option.some.inj h ▸ hr, fun h => ⟨r, rfl, h⟩⟩

theorem bind_filter_dismissed (old : Option DeviceCve) :
    (old.filter fun r => r.dismissedAt.isSome).bind DeviceCve.dismissedAt = old.bind DeviceCve.dismissedAt := by
  cases old with
  | none => rfl
  | some r =>
      rw [Option.filter_some]
      split_ifs with h
      · rfl
      · rw [Option.bind_none, Option.bind_some, Option.not_isSome_iff_eq_none.1 h]

theorem exists_writer_iff {deviceId : ℕ} {found : List Match} {k : MatchKey} :
    (∃ m ∈ found, m.fits = true ∧ m.key deviceId = k) ↔ writers deviceId found k ≠ [] := by
  rw [writers, Ne, List.filter_eq_nil_iff]
  simp only [not_forall, not_not, exists_prop]
  exact exists_congr fun m => and_congr_right fun _ => by rw [Bool.and_eq_true, decide_eq_true_eq]

/-- What a scan of a device makes of the matches. -/
structure Rescanned (device : Device) (found : List Match) (s t : List DeviceCve) : Prop where
  keyed : Keyed DeviceCve.key t
  others : ∀ k, k.deviceId ≠ device.id → get DeviceCve.key t k = get DeviceCve.key s k
  dismissed : ∀ k, Dismissed t k ↔ Dismissed s k
  stamps : ∀ k r, get DeviceCve.key s k = some r → r.dismissedAt.isSome = true →
    ∃ row, get DeviceCve.key t k = some row ∧ row.dismissedAt = r.dismissedAt ∧ row.dismissedBy = r.dismissedBy
  shown : ∀ k, k.deviceId = device.id →
    (Shown t k ↔ ¬ Dismissed s k ∧ ∃ m ∈ found, m.fits = true ∧ m.key device.id = k)
  last : ∀ k m, (writers device.id found k).getLast? = some m → ∃ row, get DeviceCve.key t k = some row ∧
    row.softwareId = m.software.id ∧ row.vendor = m.software.publisher ∧ row.version = m.software.version ∧
    row.confidence = m.confidence

/-- **A scan of a device that runs alone** leaves exactly its matches, but for those that were dismissed, each as the
last software of its name matched, and touches neither another device nor a dismissal, its time and its user. -/
theorem rescan_spec (lc : Matching) {s : Db} {device : Device} (now : ℤ) (hkeyed : Keyed DeviceCve.key s.deviceCves)
    (hdevice : s.devices.find? (fun d => decide (d.id = device.id)) = some device) :
    Rescanned device (s.matchesOf lc device) s.deviceCves (rescanDevice lc s device.id now).1.deviceCves := by
  rw [rescanDevice, hdevice]
  dsimp only
  have hfound : (s.purge device.id).matchesOf lc device = s.matchesOf lc device := rfl
  rw [hfound]
  generalize s.matchesOf lc device = found
  have hpurged := keyed_purge hkeyed device.id
  have hcases (k : MatchKey) := @get_upsertMatches (s.purge device.id) device now found k
  have hold (k : MatchKey) (hk : k.deviceId = device.id) : get DeviceCve.key (s.purge device.id).deviceCves k =
      (get DeviceCve.key s.deviceCves k).filter fun r => r.dismissedAt.isSome := hk ▸ get_purge hkeyed
  have hothers (k : MatchKey) (hk : k.deviceId ≠ device.id) : get DeviceCve.key
      (found.foldl (fun t m => t.upsertMatch device now m) (s.purge device.id)).deviceCves k =
        get DeviceCve.key s.deviceCves k := by
    rcases hcases k with ⟨-, hsame⟩ | ⟨m, row, hlast, -, -⟩
    · rw [hsame, get_purge_ne hkeyed hk]
    · rw [writers_ne hk] at hlast
      cases hlast
  -- neither the purge nor an upsert changes when a key was dismissed
  have hdismissed (k : MatchKey) : Dismissed
      (found.foldl (fun t m => t.upsertMatch device now m) (s.purge device.id)).deviceCves k ↔
        Dismissed s.deviceCves k := by
    rw [dismissed_iff, dismissed_iff]
    by_cases hk : k.deviceId = device.id
    · rcases hcases k with ⟨-, hsame⟩ | ⟨m, row, -, hrow, hwritten⟩
      · rw [hsame, hold k hk, bind_filter_dismissed]
      · rw [hrow, Option.bind_some, hwritten.dismissedAt, hold k hk, bind_filter_dismissed]
    · rw [hothers k hk]
  refine ⟨keyed_upsertMatches hpurged, hothers, hdismissed, fun k r hr hstamp => ?_, fun k hk => ?_, fun k m hm => ?_⟩
  · by_cases hk : k.deviceId = device.id
    · have hkept : get DeviceCve.key (s.purge device.id).deviceCves k = some r := by
        rw [hold k hk, hr, Option.filter_some, if_pos hstamp]
      rcases hcases k with ⟨-, hsame⟩ | ⟨m, row, -, hrow, hwritten⟩
      · exact ⟨r, hsame.trans hkept, rfl, rfl⟩
      · rw [hkept] at hwritten
        exact ⟨row, hrow, hwritten.dismissedAt, hwritten.dismissedBy⟩
    · exact ⟨r, (hothers k hk).trans hr, rfl, rfl⟩
  · rw [shown_iff, hdismissed, exists_writer_iff]
    refine and_congr_right fun hnot => ?_
    rcases hcases k with ⟨hnil, hsame⟩ | ⟨m, row, hlast, hrow, -⟩
    · refine iff_of_false (fun hsome => hnot ?_) fun h => h hnil
      rw [hsame, hold k hk] at hsome
      obtain ⟨r, hr⟩ := Option.isSome_iff_exists.1 hsome
      obtain ⟨hget, hstamp⟩ := Option.filter_eq_some_iff.1 hr
      exact ⟨r, hget, hstamp⟩
    · refine iff_of_true (by rw [hrow]; rfl) fun hnil => ?_
      rw [hnil] at hlast
      cases hlast
  · rcases hcases k with ⟨hnil, -⟩ | ⟨m', row, hlast, hrow, hwritten⟩
    · rw [hnil] at hm
      cases hm
    · obtain rfl := Option.some.inj (hlast.symm.trans hm)
      exact ⟨row, hrow, hwritten.softwareId, hwritten.vendor, hwritten.version, hwritten.confidence⟩

/-! ## Scans that overlap -/

/-- A scan under way: the matches it has still to write. -/
structure Scan where
  device : Device
  found : Option (List Match)
  deriving DecidableEq, Repr

structure Scans where
  db : Db
  calls : ℕ → Option Scan

inductive ScanOp where
  /-- The device and the purge; the software and the catalog; one upsert. -/
  | start (call deviceId : ℕ)
  | read (call : ℕ)
  | write (call : ℕ) (now : ℤ)
  | dismiss (id tenantId : ℕ) (master : Bool) (userId : ℕ) (now : ℤ)
  /-- The feeds and the agents. -/
  | sync (cves : List CveRow)
  | report (devices : List Device) (inventory : List InventoryRow)
  /-- The deletion of a device, with its matches. -/
  | delete (deviceId : ℕ)
  deriving DecidableEq, Repr

def Scans.step (lc : Matching) (s : Scans) : ScanOp → Option Scans
  | .start call deviceId =>
      match s.db.devices.find? fun d => decide (d.id = deviceId) with
      | none => some s
      | some device => some ⟨s.db.purge deviceId, Function.update s.calls call (some ⟨device, none⟩)⟩
  | .read call =>
      match s.calls call with
      | some ⟨device, none⟩ =>
          some ⟨s.db, Function.update s.calls call (some ⟨device, some (s.db.matchesOf lc device)⟩)⟩
      | _ => none
  | .write call now =>
      match s.calls call with
      | some ⟨device, some (m :: found)⟩ =>
          -- the key of a device that is gone is an error as well
          let db := if s.db.devices.any fun d => decide (d.id = device.id) then s.db.upsertMatch device now m else s.db
          some ⟨db, Function.update s.calls call (some ⟨device, some found⟩)⟩
      | _ => none
  | .dismiss id tenantId master userId now => some ⟨dismissDeviceCve s.db id tenantId master userId now, s.calls⟩
  | .sync cves => some ⟨{ s.db with cves }, s.calls⟩
  | .report devices inventory => some ⟨{ s.db with devices, inventory }, s.calls⟩
  | .delete deviceId => some
      ⟨{ s.db with
        devices := s.db.devices.filter fun d => decide (d.id ≠ deviceId)
        deviceCves := s.db.deviceCves.filter fun r => decide (r.key.deviceId ≠ deviceId) }, s.calls⟩

def scanMachine (lc : Matching) : Machine Scans ScanOp where
  init s := Keyed DeviceCve.key s.db.deviceCves
  step := Scans.step lc

section Steps
variable {lc : Matching} {s t : Scans} {k : MatchKey}

theorem dismissed_upsertMatch {db : Db} {device : Device} {now : ℤ} {m : Match} (h : Dismissed db.deviceCves k) :
    Dismissed (db.upsertMatch device now m).deviceCves k := by
  obtain ⟨r, hget, hstamp⟩ := h
  rw [Dismissed, get_upsertMatch]
  split_ifs
  · rw [hget]
    exact ⟨_, rfl, hstamp⟩
  · exact ⟨r, hget, hstamp⟩

theorem dismissed_filter {rows : List DeviceCve} (hkeyed : Keyed DeviceCve.key rows) (h : Dismissed rows k)
    {p : DeviceCve → Bool} (hp : ∀ r ∈ rows, r.key = k → r.dismissedAt.isSome = true → p r = true) :
    Dismissed (rows.filter p) k := by
  obtain ⟨r, hget, hstamp⟩ := h
  refine ⟨r, ?_, hstamp⟩
  rw [get_filter hkeyed, hget, Option.filter_some, if_pos (hp r (mem_of_get hget) (key_of_get hget) hstamp)]

theorem key_dismiss (id tenantId : ℕ) (master : Bool) (userId : ℕ) (now : ℤ) (r : DeviceCve) :
    (r.dismiss id tenantId master userId now).key = r.key := by
  rw [DeviceCve.dismiss]
  split_ifs <;> rfl

theorem dismissed_dismiss {db : Db} {id tenantId : ℕ} {master : Bool} {userId : ℕ} {now : ℤ}
    (h : Dismissed db.deviceCves k) : Dismissed (dismissDeviceCve db id tenantId master userId now).deviceCves k := by
  obtain ⟨r, hget, hstamp⟩ := h
  rw [Dismissed, dismissDeviceCve]
  dsimp only
  rw [get_map (key_dismiss id tenantId master userId now), hget]
  refine ⟨_, rfl, ?_⟩
  rw [DeviceCve.dismiss]
  split_ifs
  · rfl
  · exact hstamp

/-- A step that does not delete the device keeps a dismissal. -/
theorem step_dismissed (hkeyed : Keyed DeviceCve.key s.db.deviceCves) (h : Dismissed s.db.deviceCves k) (op : ScanOp)
    (hop : op ≠ .delete k.deviceId) (hstep : s.step lc op = some t) :
    Keyed DeviceCve.key t.db.deviceCves ∧ Dismissed t.db.deviceCves k := by
  cases op with
  | start call deviceId =>
      rw [Scans.step] at hstep
      split at hstep
      · obtain rfl := Option.some.inj hstep
        exact ⟨hkeyed, h⟩
      · obtain rfl := Option.some.inj hstep
        refine ⟨keyed_purge hkeyed deviceId, dismissed_filter hkeyed h fun r _ _ hstamp => ?_⟩
        rw [Option.isNone_eq_false_iff.2 hstamp, Bool.and_false, Bool.not_false]
  | read call =>
      rw [Scans.step] at hstep
      split at hstep
      · obtain rfl := Option.some.inj hstep
        exact ⟨hkeyed, h⟩
      · cases hstep
  | write call now =>
      rw [Scans.step] at hstep
      split at hstep
      · obtain rfl := Option.some.inj hstep
        dsimp only
        split_ifs
        · exact ⟨keyed_upsertMatch hkeyed, dismissed_upsertMatch h⟩
        · exact ⟨hkeyed, h⟩
      · cases hstep
  | dismiss id tenantId master userId now =>
      obtain rfl := Option.some.inj hstep
      exact ⟨nodup_map (key_dismiss id tenantId master userId now) hkeyed, dismissed_dismiss h⟩
  | sync cves =>
      obtain rfl := Option.some.inj hstep
      exact ⟨hkeyed, h⟩
  | report devices inventory =>
      obtain rfl := Option.some.inj hstep
      exact ⟨hkeyed, h⟩
  | delete deviceId =>
      obtain rfl := Option.some.inj hstep
      refine ⟨hkeyed.sublist (List.filter_sublist.map _), dismissed_filter hkeyed h fun r _ hr _ => ?_⟩
      rw [hr, decide_eq_true_eq]
      exact fun heq => hop (congrArg ScanOp.delete heq.symm)

end Steps

/-- **A dismissed match stays dismissed**, and unlisted, in every run of scans, dismissals, syncs and reports, however
they overlap, as long as the device exists. -/
theorem dismissed_for_good (lc : Matching) {s t : Scans} {k : MatchKey} (hkeyed : Keyed DeviceCve.key s.db.deviceCves)
    (hdismissed : Dismissed s.db.deviceCves k)
    (h : Reach ((scanMachine lc).startingAt s) (fun _ op => op ≠ .delete k.deviceId) t) :
    Dismissed t.db.deviceCves k ∧ ¬ Shown t.db.deviceCves k := by
  have hinv : Keyed DeviceCve.key t.db.deviceCves ∧ Dismissed t.db.deviceCves k := by
    refine h.invariant (I := fun t => Keyed DeviceCve.key t.db.deviceCves ∧ Dismissed t.db.deviceCves k) ?_ ?_
    · rintro _ rfl
      exact ⟨hkeyed, hdismissed⟩
    · rintro s op t ⟨hs, hk⟩ hop hstep
      exact step_dismissed hs hk op hop hstep
  exact ⟨hinv.2, fun hshown => (shown_iff.1 hshown).1 hinv.2⟩

/-! ## Scans of small databases -/

def plainMatching : Matching := ⟨fun t => t.map Char.toLower⟩

def oneDevice : Device := ⟨1, 1, some "linux".toList, none, none, none⟩

def libRow : CveRow :=
  ⟨1, "C".toList, .nvd_kev, some "acme".toList, some "acme lib".toList, true, [], [], none⟩

def libDb : Db :=
  ⟨[oneDevice], [⟨1, 5, ⟨some 3, "acme-lib".toList, some "1.2".toList, none⟩⟩], [libRow], [], 1⟩

def libKey : MatchKey := ⟨1, 1, "acme-lib".toList⟩

/-- Two versions of the library and a tool; a match of a tool that is gone, a dismissed match of the tool, and one of
another device. -/
def mixedDb : Db where
  devices := [oneDevice, ⟨2, 1, none, none, none, none⟩]
  inventory := [⟨1, 5, ⟨some 3, "acme-lib".toList, some "1.2".toList, none⟩⟩,
    ⟨1, 5, ⟨some 4, "acme-lib".toList, some "1.3".toList, none⟩⟩, ⟨1, 5, ⟨some 6, "acme-tool".toList, none, none⟩⟩]
  cves := [libRow, ⟨2, "D".toList, .nvd_kev, some "acme".toList, some "acme tool".toList, true, [], [], none⟩]
  deviceCves := [⟨1, 1, ⟨1, 3, "old-tool".toList⟩, some 2, none, none, .high, 4, none, none⟩,
    ⟨2, 1, ⟨1, 2, "acme-tool".toList⟩, some 6, none, none, .high, 4, some 9, some 7⟩,
    ⟨3, 1, ⟨2, 1, "acme-lib".toList⟩, some 8, none, none, .high, 4, none, none⟩]
  nextId := 4

theorem rescan_spec_mixed :
    Rescanned oneDevice (mixedDb.matchesOf plainMatching oneDevice) mixedDb.deviceCves
      (rescanDevice plainMatching mixedDb oneDevice.id 11).1.deviceCves ∧
    (rescanDevice plainMatching mixedDb oneDevice.id 11).1.deviceCves.map
        (fun r => (r.key.cveId, r.softwareId, r.dismissedBy)) =
      [(2, some 6, some 7), (1, some 8, none), (1, some 4, none)] :=
  ⟨rescan_spec plainMatching 11 (by decide +kernel) (by decide +kernel), by decide +kernel⟩

/-- The match of the scan, dismissed, and a second scan. -/
def dismissedDb : Db := dismissDeviceCve (rescanDevice plainMatching libDb 1 0).1 1 1 false 7 9

theorem dismissed_for_good_lib : ∃ t ∈ ((scanMachine plainMatching).startingAt ⟨dismissedDb, fun _ => none⟩).exec
    ⟨dismissedDb, fun _ => none⟩ [.start 0 1, .read 0, .write 0 11],
    Dismissed t.db.deviceCves libKey ∧ ¬ Shown t.db.deviceCves libKey := by
  let M := (scanMachine plainMatching).startingAt ⟨dismissedDb, fun _ => none⟩
  have hdismissed : Dismissed dismissedDb.deviceCves libKey := dismissed_iff.2 (by decide +kernel)
  have hruns : (M.exec ⟨dismissedDb, fun _ => none⟩ [.start 0 1, .read 0, .write 0 11]).isSome = true := by
    decide +kernel
  obtain ⟨t, ht⟩ := Option.isSome_iff_exists.1 hruns
  have hreach : Reach M (fun _ op => op ≠ .delete 1) t :=
    (Reach.start rfl).of_exec _ (by decide +kernel) ht
  exact ⟨t, ht, dismissed_for_good plainMatching (by decide +kernel) hdismissed hreach⟩

end Obliance.Cves
