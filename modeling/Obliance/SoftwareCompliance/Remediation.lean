import Obliance.Agent.Updates
import Obliance.Js.Json

/-!
# Remediation of software lists (`services/softwareCompliance.service.ts`, `src/agent/software_compliance.go`)

A missing or forbidden software is remediated by the agent's own check of the list, or by a command of the server.

* `ServerEntry`, `triggerRemediation` : an entry with its sources, and the commands of the server;
* `unmarshalEntry`, `selectMatchingSource` : what the agent reads, and the source of its platform;
* `installSoftwarePackage`, `uninstallSoftwarePackage` : what is run;
* `autoRemediation`, `handleCommand` : the two ways to it;
* `remediation_agree_iff` : when both run the same.
-/

namespace Obliance.SoftwareCompliance
open Obliance.Agent (isGoSpace fields)
open Obliance.Js (Json)

/-! ## JSON -/

def object (fields : List (String × Json)) : Json := .obj (fields.map fun f => (f.1.toList, f.2))

def text (s : String) : Json := .str s.toList

def nullable : Option String → Json
  | none => .null
  | some s => text s

/-- A string field of a struct, or a type assertion to `string`: empty where there is no string. -/
def stringOf (v : Json) (key : String) : String := String.ofList ((Json.str? (v.get key)).getD [])

/-- An array of objects. -/
def arrayOf (v : Json) (key : String) : List Json :=
  match v.get key with
  | some (.arr items) => items
  | _ => []

/-! ## The server -/

/-- A source of an entry, as `rowToSource` builds it. -/
structure ServerSource where
  packageManager : String
  packageId : Option String
  msiUrl : Option String
  repoPackageUuid : Option String
  installScript : Option String
  msiParams : Option String
  platformScope : String

/-- An entry, as `rowToEntry` builds it. -/
structure ServerEntry where
  id : ℕ
  name : String
  matchType : String
  publisher : Option String
  minVersion : Option String
  maxVersion : Option String
  installSource : Option String
  installId : Option String
  installScript : Option String
  msiUrl : Option String
  msiParams : Option String
  sources : List ServerSource

structure ServerList where
  id : ℕ
  listType : String
  entries : List ServerEntry

def ServerSource.toJson (s : ServerSource) : Json :=
  object [("packageManager", text s.packageManager), ("packageId", nullable s.packageId), ("msiUrl", nullable s.msiUrl),
    ("repoPackageUuid", nullable s.repoPackageUuid), ("installScript", nullable s.installScript),
    ("msiParams", nullable s.msiParams), ("platformScope", text s.platformScope)]

def ServerEntry.toJson (e : ServerEntry) : Json :=
  object [("id", .num e.id), ("name", text e.name), ("matchType", text e.matchType),
    ("publisher", nullable e.publisher), ("minVersion", nullable e.minVersion), ("maxVersion", nullable e.maxVersion),
    ("installSource", nullable e.installSource), ("installId", nullable e.installId),
    ("installScript", nullable e.installScript), ("msiUrl", nullable e.msiUrl), ("msiParams", nullable e.msiParams),
    ("sources", .arr (e.sources.map ServerSource.toJson))]

structure Command where
  type : String
  payload : Json

def remediationPayload (listId : ℕ) (entry : ServerEntry) : Json :=
  object [("listId", .num listId), ("entryId", .num entry.id), ("entryName", text entry.name),
    ("installSource", nullable entry.installSource), ("installId", nullable entry.installId),
    ("installScript", nullable entry.installScript), ("msiUrl", nullable entry.msiUrl),
    ("msiParams", nullable entry.msiParams), ("sources", .arr (entry.sources.map ServerSource.toJson))]

def entriesToRemediate (list : ServerList) (entryIds : List ℕ) : List ServerEntry :=
  list.entries.filter fun e => decide (e.id ∈ entryIds)

/-- The commands of `triggerRemediation`; an error when no entry matches. -/
def triggerRemediation (list : ServerList) (entryIds : List ℕ) : Except String (List Command) :=
  if entriesToRemediate list entryIds = [] then .error "No matching entries found"
  else
    let cmdType := if list.listType = "whitelist" then "install_software" else "uninstall_software"
    .ok ((entriesToRemediate list entryIds).map fun entry => ⟨cmdType, remediationPayload list.id entry⟩)

/-! ## The agent -/

structure SourceConfig where
  packageManager : String
  packageId : String
  msiUrl : String
  repoPackageUuid : String
  installScript : String
  msiParams : String
  platformScope : String

structure ComplianceEntry where
  name : String := ""
  matchType : String := ""
  publisher : String := ""
  minVersion : String := ""
  maxVersion : String := ""
  installSource : String
  installId : String
  installScript : String
  msiUrl : String
  msiParams : String
  sources : List SourceConfig := []

def unmarshalSource (v : Json) : SourceConfig where
  packageManager := stringOf v "packageManager"
  packageId := stringOf v "packageId"
  msiUrl := stringOf v "msiUrl"
  repoPackageUuid := stringOf v "repoPackageUuid"
  installScript := stringOf v "installScript"
  msiParams := stringOf v "msiParams"
  platformScope := stringOf v "platformScope"

def unmarshalSources (v : Json) : List SourceConfig := (arrayOf v "sources").map unmarshalSource

def unmarshalEntry (v : Json) : ComplianceEntry where
  name := stringOf v "name"
  matchType := stringOf v "matchType"
  publisher := stringOf v "publisher"
  minVersion := stringOf v "minVersion"
  maxVersion := stringOf v "maxVersion"
  installSource := stringOf v "installSource"
  installId := stringOf v "installId"
  installScript := stringOf v "installScript"
  msiUrl := stringOf v "msiUrl"
  msiParams := stringOf v "msiParams"
  sources := unmarshalSources v

/-- The device: `runtime.GOOS`, `getDistroFamily()`, and the files of its temporary directory. -/
structure Platform where
  goos : String
  family : String
  tempDir : String
  separator : Char

def Platform.tempFile (p : Platform) (name : String) : String := p.tempDir ++ String.singleton p.separator ++ name

def Platform.matches (p : Platform) (s : SourceConfig) : Bool :=
  if s.platformScope = "any" then true
  else if s.platformScope = "windows" then p.goos = "windows"
  else if s.platformScope = "macos" then p.goos = "darwin"
  else if s.platformScope = "freebsd" then p.goos = "freebsd"
  else if s.platformScope = "rhel" then p.family = "rhel" || p.family = "centos"
  else s.platformScope = p.family

def selectMatchingSource (p : Platform) (sources : List SourceConfig) : Option SourceConfig :=
  sources.find? p.matches

def entryFromSource (base : ComplianceEntry) (src : SourceConfig) : ComplianceEntry where
  name := base.name
  matchType := base.matchType
  publisher := base.publisher
  minVersion := base.minVersion
  maxVersion := base.maxVersion
  installSource := src.packageManager
  installId := src.packageId
  installScript := src.installScript
  msiUrl := src.msiUrl
  msiParams := src.msiParams

def hasInstallInfo (e : ComplianceEntry) : Bool := e.installId ≠ "" || e.installScript ≠ "" || e.msiUrl ≠ ""

/-- What the agent runs. -/
inductive Action where
  | run (args : List String)
  /-- The file of a URL is fetched before it is run. -/
  | fetchAndRun (url : String) (args : List String)
  | powershell (script : String)
  deriving DecidableEq

/-- The arguments of `params`, or of the default. -/
def paramArgs (params : String) : List String :=
  (fields (if params = "" then "/quiet /norestart" else params).toList).map String.ofList

def installMsiPackage (p : Platform) (msiUrl params : String) : Except String Action :=
  if msiUrl = "" then .error "msi install: no MSI URL provided"
  else if "http://".toList <+: msiUrl.toList ∨ "https://".toList <+: msiUrl.toList then
    .ok (.fetchAndRun msiUrl ("msiexec" :: "/i" :: p.tempFile "obliance-sw-install.msi" :: paramArgs params))
  else .ok (.run ("msiexec" :: "/i" :: msiUrl :: paramArgs params))

def uninstallMsiPackage (msiUrl params : String) : Except String Action :=
  if msiUrl = "" then .error "msi uninstall: no MSI URL/GUID provided"
  else .ok (.run ("msiexec" :: "/x" :: msiUrl :: paramArgs params))

def runCustomScript (p : Platform) (script : String) : Action :=
  if p.goos = "windows" then .powershell script else .run ["bash", "-c", script]

/-- The package managers: the verb of their error, and their command. -/
def installCommands (id : String) : List (String × String × List String) :=
  [("winget", "install",
      ["winget", "install", "--id", id, "--accept-source-agreements", "--accept-package-agreements", "-h"]),
    ("choco", "install", ["choco", "install", id, "-y", "--no-progress"]),
    ("apt", "install", ["apt-get", "install", "-y", id]),
    ("dnf", "install", ["dnf", "install", "-y", id]),
    ("brew", "install", ["brew", "install", id]),
    ("pkg", "install", ["pkg", "install", "-y", id]),
    ("yum", "install", ["yum", "install", "-y", id]),
    ("snap", "install", ["snap", "install", id]),
    ("flatpak", "install", ["flatpak", "install", "-y", "flathub", id])]

def uninstallCommands (id : String) : List (String × String × List String) :=
  [("winget", "uninstall", ["winget", "uninstall", "--id", id, "-h"]),
    ("choco", "uninstall", ["choco", "uninstall", id, "-y"]),
    ("apt", "remove", ["apt-get", "remove", "-y", id]),
    ("dnf", "remove", ["dnf", "remove", "-y", id]),
    ("brew", "uninstall", ["brew", "uninstall", id]),
    ("pkg", "remove", ["pkg", "remove", "-y", id]),
    ("yum", "remove", ["yum", "remove", "-y", id]),
    ("snap", "remove", ["snap", "remove", id]),
    ("flatpak", "uninstall", ["flatpak", "uninstall", "-y", id])]

/-- The `switch` on the install source, whose branches differ in their commands. -/
def softwarePackage (p : Platform) (commands : List (String × String × List String)) (msi : Except String Action)
    (verb : String) (e : ComplianceEntry) : Except String Action :=
  match commands.lookup e.installSource with
  | some (verb, args) =>
      if e.installId = "" then .error (e.installSource ++ " " ++ verb ++ " requires installId") else .ok (.run args)
  | none =>
      if e.installSource = "msi" then msi
      else if e.installSource = "custom" then
        if e.installScript = "" then .error ("custom " ++ verb ++ " requires installScript")
        else .ok (runCustomScript p e.installScript)
      else .error ("unsupported install source: " ++ e.installSource)

def installSoftwarePackage (p : Platform) (e : ComplianceEntry) : Except String Action :=
  softwarePackage p (installCommands e.installId) (installMsiPackage p e.msiUrl e.msiParams) "install" e

def uninstallSoftwarePackage (p : Platform) (e : ComplianceEntry) : Except String Action :=
  softwarePackage p (uninstallCommands e.installId) (uninstallMsiPackage e.msiUrl e.msiParams) "uninstall" e

/-! ### The agent's own check -/

/-- The entry that is remediated, and whether it can be. -/
def effectiveEntry (p : Platform) (entry : ComplianceEntry) : ComplianceEntry × Bool :=
  if entry.sources = [] then (entry, hasInstallInfo entry)
  else
    match selectMatchingSource p entry.sources with
    | some src => (entryFromSource entry src, hasInstallInfo (entryFromSource entry src))
    | none => (entry, false)

/-- A remediation: the package of the server's repository that is downloaded first, and what is run. -/
structure Remediation where
  repoPackage : Option String
  action : Action
  deriving DecidableEq

/-- The remediation of `handleCheckSoftwareCompliance` for an entry whose software was found or not; none when
nothing is tried. -/
def autoRemediation (p : Platform) (listType : String) (autoRemediate matched : Bool) (entry : ComplianceEntry) :
    Option (Except String Remediation) :=
  let (effective, hasSource) := effectiveEntry p entry
  if listType = "whitelist" then
    if matched then none
    else if autoRemediate && hasSource then some ((installSoftwarePackage p effective).map (⟨none, ·⟩)) else none
  else
    if !matched then none
    else if autoRemediate && hasSource then some ((uninstallSoftwarePackage p effective).map (⟨none, ·⟩)) else none

/-! ### The commands of the server -/

def sourceEntry (src : SourceConfig) : ComplianceEntry where
  installSource := src.packageManager
  installId := src.packageId
  installScript := src.installScript
  msiUrl := src.msiUrl
  msiParams := src.msiParams

def legacyEntry (payload : Json) : ComplianceEntry where
  installSource := stringOf payload "source"
  installId := stringOf payload "packageId"
  installScript := stringOf payload "script"
  msiUrl := stringOf payload "msiUrl"
  msiParams := stringOf payload "msiParams"

def noSource (p : Platform) : String :=
  "no matching source for this platform (distro=" ++ p.family ++ ", os=" ++ p.goos ++ ")"

def handleInstallSoftware (p : Platform) (payload : Json) : Except String Remediation :=
  let sources := unmarshalSources payload
  if sources = [] then (installSoftwarePackage p (legacyEntry payload)).map (⟨none, ·⟩)
  else
    match selectMatchingSource p sources with
    | none => .error (noSource p)
    | some src =>
        if src.repoPackageUuid ≠ "" ∧ src.packageManager = "msi" then
          -- `downloadRepoPackage`
          let path := p.tempFile ("obliance-repo-" ++ src.repoPackageUuid ++ ".msi")
          (installSoftwarePackage p { sourceEntry src with msiUrl := path }).map (⟨some src.repoPackageUuid, ·⟩)
        else (installSoftwarePackage p (sourceEntry src)).map (⟨none, ·⟩)

def handleUninstallSoftware (p : Platform) (payload : Json) : Except String Remediation :=
  let sources := unmarshalSources payload
  if sources = [] then (uninstallSoftwarePackage p (legacyEntry payload)).map (⟨none, ·⟩)
  else
    match selectMatchingSource p sources with
    | none => .error (noSource p)
    | some src => (uninstallSoftwarePackage p (sourceEntry src)).map (⟨none, ·⟩)

def handleCommand (p : Platform) (cmd : Command) : Except String Remediation :=
  if cmd.type = "install_software" then handleInstallSoftware p cmd.payload else handleUninstallSoftware p cmd.payload

/-! ## What the agent reads -/

def ServerSource.read (s : ServerSource) : SourceConfig where
  packageManager := s.packageManager
  packageId := s.packageId.getD ""
  msiUrl := s.msiUrl.getD ""
  repoPackageUuid := s.repoPackageUuid.getD ""
  installScript := s.installScript.getD ""
  msiParams := s.msiParams.getD ""
  platformScope := s.platformScope

def ServerEntry.read (e : ServerEntry) : ComplianceEntry where
  name := e.name
  matchType := e.matchType
  publisher := e.publisher.getD ""
  minVersion := e.minVersion.getD ""
  maxVersion := e.maxVersion.getD ""
  installSource := e.installSource.getD ""
  installId := e.installId.getD ""
  installScript := e.installScript.getD ""
  msiUrl := e.msiUrl.getD ""
  msiParams := e.msiParams.getD ""
  sources := e.sources.map ServerSource.read

theorem get_object (fields : List (String × Json)) (key : String) : (object fields).get key = fields.lookup key := by
  rw [object, Json.get]
  induction fields with
  | nil => rfl
  | cons f fields ih =>
      rw [List.map_cons, List.lookup_cons, List.lookup_cons, ih]
      have hkey : (key.toList == f.1.toList) = (key == f.1) := by
        rw [Bool.eq_iff_iff, beq_iff_eq, beq_iff_eq, String.toList_inj]
      rw [hkey]

theorem stringOf_text {fields : List (String × Json)} {key s : String} (h : fields.lookup key = some (text s)) :
    stringOf (object fields) key = s := by
  rw [stringOf, get_object, h, text, Json.str?, Option.getD_some, String.ofList_toList]

theorem stringOf_nullable {fields : List (String × Json)} {key : String} {s : Option String}
    (h : fields.lookup key = some (nullable s)) : stringOf (object fields) key = s.getD "" := by
  rw [stringOf, get_object, h]
  cases s with
  | none => rfl
  | some s => rw [nullable, text, Json.str?, Option.getD_some, String.ofList_toList, Option.getD_some]

theorem unmarshalSource_toJson (s : ServerSource) : unmarshalSource s.toJson = s.read := by
  rw [unmarshalSource, ServerSource.toJson, ServerSource.read, SourceConfig.mk.injEq]
  exact ⟨stringOf_text rfl, stringOf_nullable rfl, stringOf_nullable rfl, stringOf_nullable rfl, stringOf_nullable rfl,
    stringOf_nullable rfl, stringOf_text rfl⟩

theorem unmarshalSources_object {fields : List (String × Json)} {sources : List ServerSource}
    (h : fields.lookup "sources" = some (.arr (sources.map ServerSource.toJson))) :
    unmarshalSources (object fields) = sources.map ServerSource.read := by
  rw [unmarshalSources, arrayOf, get_object, h]
  dsimp only
  rw [List.map_map]
  exact List.map_congr_left fun s _ => unmarshalSource_toJson s

/-- The agent reads the entry that the server has, an empty text for what is null. -/
theorem unmarshalEntry_toJson (e : ServerEntry) : unmarshalEntry e.toJson = e.read := by
  rw [unmarshalEntry, ServerEntry.toJson, ServerEntry.read, ComplianceEntry.mk.injEq]
  exact ⟨stringOf_text rfl, stringOf_text rfl, stringOf_nullable rfl, stringOf_nullable rfl, stringOf_nullable rfl,
    stringOf_nullable rfl, stringOf_nullable rfl, stringOf_nullable rfl, stringOf_nullable rfl, stringOf_nullable rfl,
    unmarshalSources_object rfl⟩

theorem unmarshalSources_payload (listId : ℕ) (e : ServerEntry) :
    unmarshalSources (remediationPayload listId e) = e.sources.map ServerSource.read := unmarshalSources_object rfl

/-- The legacy fields have other names in the payload, but for the two of an MSI. -/
theorem legacyEntry_payload (listId : ℕ) (e : ServerEntry) : legacyEntry (remediationPayload listId e) =
    { installSource := "", installId := "", installScript := "", msiUrl := e.msiUrl.getD ""
      msiParams := e.msiParams.getD "" } := by
  have hnone {key : String} (h : key ∈ ["source", "packageId", "script"]) :
      stringOf (remediationPayload listId e) key = "" := by
    rcases List.mem_cons.1 h with rfl | h
    · rw [stringOf, remediationPayload, get_object]
      rfl
    · rcases List.mem_pair.1 h with rfl | rfl <;>
      · rw [stringOf, remediationPayload, get_object]
        rfl
  rw [legacyEntry, ComplianceEntry.mk.injEq, hnone (by decide), hnone (by decide), hnone (by decide)]
  exact ⟨rfl, rfl, rfl, rfl, rfl, rfl, rfl, rfl, stringOf_nullable rfl, stringOf_nullable rfl, rfl⟩

/-! ## What runs -/

/-- What the agent runs for an entry. -/
def packageAction (p : Platform) (listType : String) (e : ComplianceEntry) : Except String Action :=
  if listType = "whitelist" then installSoftwarePackage p e else uninstallSoftwarePackage p e

def managers : List String := ["winget", "choco", "apt", "dnf", "brew", "pkg", "yum", "snap", "flatpak"]

/-- The source is supported, and has what it needs. -/
def Runs (e : ComplianceEntry) : Prop :=
  e.installSource ∈ managers ∧ e.installId ≠ "" ∨ e.installSource = "msi" ∧ e.msiUrl ≠ "" ∨
    e.installSource = "custom" ∧ e.installScript ≠ ""

theorem lookup_isSome_iff_mem {β : Type} {k : String} {l : List (String × β)} :
    (l.lookup k).isSome = true ↔ k ∈ l.map Prod.fst := by
  rw [List.lookup_isSome_iff, List.mem_map]
  exact ⟨fun ⟨f, hf, hk⟩ => ⟨f, hf, (eq_of_beq hk).symm⟩, fun ⟨f, hf, hk⟩ => ⟨f, hf, beq_iff_eq.2 hk.symm⟩⟩

section Package
variable {p : Platform} {commands : List (String × String × List String)} {msi : Except String Action} {verb : String}
  {e : ComplianceEntry}

theorem softwarePackage_ok_iff (hcommands : commands.map Prod.fst = managers)
    (hmsi : (∃ a, msi = .ok a) ↔ e.msiUrl ≠ "") :
    (∃ a, softwarePackage p commands msi verb e = .ok a) ↔ Runs e := by
  have hmem : (commands.lookup e.installSource).isSome = true ↔ e.installSource ∈ managers := by
    rw [lookup_isSome_iff_mem, hcommands]
  rw [softwarePackage, Runs]
  cases hlookup : commands.lookup e.installSource with
  | some c =>
      have hin : e.installSource ∈ managers := hmem.1 (hlookup ▸ rfl)
      have hmsi' : e.installSource ≠ "msi" := fun h => absurd (h ▸ hin) (by decide)
      have hcustom : e.installSource ≠ "custom" := fun h => absurd (h ▸ hin) (by decide)
      dsimp only
      split_ifs with hid
      · exact ⟨fun ⟨a, ha⟩ => (nomatch ha), fun h => by tauto⟩
      · exact ⟨fun _ => .inl ⟨hin, hid⟩, fun _ => ⟨_, rfl⟩⟩
  | none =>
      have hout : e.installSource ∉ managers := fun h => by
        have := hmem.2 h
        rw [hlookup] at this
        cases this
      dsimp only
      split_ifs with hsource hcustom hscript
      · rw [hmsi]
        exact ⟨fun h => .inr (.inl ⟨hsource, h⟩), fun h => by rcases h with h | h | h <;> simp_all⟩
      · exact ⟨fun ⟨a, ha⟩ => (nomatch ha), fun h => by tauto⟩
      · exact ⟨fun _ => .inr (.inr ⟨hcustom, hscript⟩), fun _ => ⟨_, rfl⟩⟩
      · exact ⟨fun ⟨a, ha⟩ => (nomatch ha), fun h => by tauto⟩

theorem installMsi_ok_iff {msiUrl params : String} :
    (∃ a, installMsiPackage p msiUrl params = .ok a) ↔ msiUrl ≠ "" := by
  rw [installMsiPackage]
  split_ifs with hempty
  · exact ⟨fun ⟨a, ha⟩ => (nomatch ha), fun h => absurd hempty h⟩
  · exact ⟨fun _ => hempty, fun _ => ⟨_, rfl⟩⟩
  · exact ⟨fun _ => hempty, fun _ => ⟨_, rfl⟩⟩

theorem uninstallMsi_ok_iff {msiUrl params : String} :
    (∃ a, uninstallMsiPackage msiUrl params = .ok a) ↔ msiUrl ≠ "" := by
  rw [uninstallMsiPackage]
  split_ifs with hempty
  · exact ⟨fun ⟨a, ha⟩ => (nomatch ha), fun h => absurd hempty h⟩
  · exact ⟨fun _ => hempty, fun _ => ⟨_, rfl⟩⟩

theorem packageAction_ok_iff {listType : String} : (∃ a, packageAction p listType e = .ok a) ↔ Runs e := by
  rw [packageAction]
  split_ifs
  · exact softwarePackage_ok_iff rfl installMsi_ok_iff
  · exact softwarePackage_ok_iff rfl uninstallMsi_ok_iff

theorem packageAction_toOption {listType : String} (h : ¬ Runs e) : (packageAction p listType e).toOption = none := by
  cases haction : packageAction p listType e with
  | error _ => rfl
  | ok a => exact absurd (packageAction_ok_iff.1 ⟨a, haction⟩) h

/-- Without an id, a script and an MSI nothing runs. -/
theorem not_runs (h : hasInstallInfo e = false) : ¬ Runs e := by
  simp only [hasInstallInfo, Bool.or_eq_false_iff, decide_eq_false_iff_not, not_not] at h
  rintro (⟨-, hid⟩ | ⟨-, hmsi⟩ | ⟨-, hscript⟩)
  · exact hid h.1.1
  · exact hmsi h.2
  · exact hscript h.1.2

end Package

/-! ## The two ways -/

section Ways
variable {p : Platform} {listType : String} {e : ServerEntry} {listId : ℕ}

/-- What the command of the server runs. -/
def performed (p : Platform) (cmd : Command) : Option Remediation := (handleCommand p cmd).toOption

/-- What the agent's own check runs for an entry that is violated: missing in a whitelist, found in a blacklist. -/
def autoPerformed (p : Platform) (listType : String) (e : ServerEntry) : Option Remediation :=
  (autoRemediation p listType true (decide (listType ≠ "whitelist")) (unmarshalEntry e.toJson)).bind Except.toOption

def withoutRepo (p : Platform) (listType : String) (e : ComplianceEntry) : Option Remediation :=
  (packageAction p listType e).toOption.map (⟨none, ·⟩)

theorem toOption_map {α β ε : Type} (f : α → β) (x : Except ε α) : (x.map f).toOption = x.toOption.map f := by
  cases x <;> rfl

theorem withoutRepo_eq_none_iff {e : ComplianceEntry} : withoutRepo p listType e = none ↔ ¬ Runs e := by
  rw [withoutRepo, Option.map_eq_none_iff]
  constructor
  · intro hnone hruns
    obtain ⟨a, ha⟩ := packageAction_ok_iff.2 hruns
    rw [ha] at hnone
    cases hnone
  · exact packageAction_toOption

/-- The check does what its entry allows. -/
theorem autoRemediation_eq (entry : ComplianceEntry) :
    (autoRemediation p listType true (decide (listType ≠ "whitelist")) entry).bind Except.toOption =
      if (effectiveEntry p entry).2 = true then withoutRepo p listType (effectiveEntry p entry).1 else none := by
  rw [autoRemediation, withoutRepo, packageAction]
  by_cases hlist : listType = "whitelist"
  · simp only [hlist, ne_eq, not_true_eq_false, decide_false, Bool.false_eq_true, if_true, if_false, Bool.true_and]
    split_ifs
    · exact toOption_map _ _
    · rfl
  · simp only [hlist, ne_eq, not_false_eq_true, decide_true, Bool.not_true, Bool.false_eq_true, if_false, Bool.true_and]
    split_ifs
    · exact toOption_map _ _
    · rfl

theorem ite_hasInstallInfo (entry : ComplianceEntry) :
    (if hasInstallInfo entry = true then withoutRepo p listType entry else none) = withoutRepo p listType entry := by
  split_ifs with hinfo
  · rfl
  · exact (withoutRepo_eq_none_iff.2 (not_runs (Bool.not_eq_true _ ▸ hinfo))).symm

theorem autoPerformed_legacy (hsources : e.sources = []) :
    autoPerformed p listType e = withoutRepo p listType e.read := by
  have hread : e.read.sources = [] := by
    rw [ServerEntry.read, hsources]
    rfl
  rw [autoPerformed, unmarshalEntry_toJson, autoRemediation_eq, effectiveEntry, if_pos hread]
  exact ite_hasInstallInfo e.read

theorem autoPerformed_sources (hsources : e.sources ≠ []) : autoPerformed p listType e =
    (selectMatchingSource p (e.sources.map ServerSource.read)).bind fun src =>
      withoutRepo p listType (sourceEntry src) := by
  have hread : ¬ e.read.sources = [] := fun h => hsources (List.map_eq_nil_iff.1 h)
  rw [autoPerformed, unmarshalEntry_toJson, autoRemediation_eq]
  cases hselect : selectMatchingSource p (e.sources.map ServerSource.read) with
  | none =>
      have hselect' : selectMatchingSource p e.read.sources = none := hselect
      rw [effectiveEntry, if_neg hread, hselect']
      rfl
  | some src =>
      have hselect' : selectMatchingSource p e.read.sources = some src := hselect
      rw [effectiveEntry, if_neg hread, hselect']
      exact ite_hasInstallInfo (entryFromSource e.read src)

/-- The command of an entry in a list of the type. -/
def commandOf (listType : String) (listId : ℕ) (e : ServerEntry) : Command :=
  ⟨if listType = "whitelist" then "install_software" else "uninstall_software", remediationPayload listId e⟩

/-- The package of the server's repository that a source names. -/
def IsRepoInstall (listType : String) (src : SourceConfig) : Prop :=
  listType = "whitelist" ∧ src.packageManager = "msi" ∧ src.repoPackageUuid ≠ ""

instance (listType : String) (src : SourceConfig) : Decidable (IsRepoInstall listType src) :=
  inferInstanceAs (Decidable (_ ∧ _ ∧ _))

/-- Where `downloadRepoPackage` puts the package. -/
def repoPath (p : Platform) (src : SourceConfig) : String :=
  p.tempFile ("obliance-repo-" ++ src.repoPackageUuid ++ ".msi")

theorem performed_legacy (hsources : e.sources = []) : performed p (commandOf listType listId e) = none := by
  have hread : unmarshalSources (remediationPayload listId e) = [] := by
    rw [unmarshalSources_payload, hsources]
    rfl
  have hnone : ¬ Runs (legacyEntry (remediationPayload listId e)) := by
    rw [legacyEntry_payload]
    rintro (⟨hin, -⟩ | ⟨hsource, -⟩ | ⟨hsource, -⟩)
    · exact absurd hin (by decide : "" ∉ managers)
    · exact absurd hsource (by decide : "" ≠ "msi")
    · exact absurd hsource (by decide : "" ≠ "custom")
  have haction : (packageAction p listType (legacyEntry (remediationPayload listId e))).toOption = none :=
    packageAction_toOption hnone
  rw [performed, handleCommand, commandOf]
  rw [packageAction] at haction
  by_cases hlist : listType = "whitelist"
  · rw [if_pos hlist] at haction ⊢
    rw [if_pos rfl, handleInstallSoftware, if_pos hread, toOption_map, haction]
    rfl
  · rw [if_neg hlist] at haction ⊢
    rw [if_neg (by decide : "uninstall_software" ≠ "install_software"), handleUninstallSoftware, if_pos hread,
      toOption_map, haction]
    rfl

theorem performed_sources (hsources : e.sources ≠ []) : performed p (commandOf listType listId e) =
    (selectMatchingSource p (e.sources.map ServerSource.read)).bind fun src =>
      if IsRepoInstall listType src then
        (installSoftwarePackage p { sourceEntry src with msiUrl := repoPath p src }).toOption.map
          (⟨some src.repoPackageUuid, ·⟩)
      else withoutRepo p listType (sourceEntry src) := by
  have hread : ¬ unmarshalSources (remediationPayload listId e) = [] := by
    rw [unmarshalSources_payload]
    exact fun h => hsources (List.map_eq_nil_iff.1 h)
  rw [performed, handleCommand, commandOf]
  by_cases hlist : listType = "whitelist"
  · rw [if_pos hlist, if_pos rfl, handleInstallSoftware, if_neg hread, unmarshalSources_payload]
    cases selectMatchingSource p (e.sources.map ServerSource.read) with
    | none => rfl
    | some src =>
        have hrepo : IsRepoInstall listType src ↔ src.repoPackageUuid ≠ "" ∧ src.packageManager = "msi" :=
          ⟨fun h => ⟨h.2.2, h.2.1⟩, fun h => ⟨hlist, h.2, h.1⟩⟩
        rw [Option.bind_some]
        dsimp only
        by_cases h : src.repoPackageUuid ≠ "" ∧ src.packageManager = "msi"
        · rw [if_pos h, if_pos (hrepo.2 h), toOption_map]
          rfl
        · rw [if_neg h, if_neg (hrepo.not.2 h), toOption_map, withoutRepo, packageAction, if_pos hlist]
  · rw [if_neg hlist, if_neg (by decide : "uninstall_software" ≠ "install_software"), handleUninstallSoftware,
      if_neg hread, unmarshalSources_payload]
    cases selectMatchingSource p (e.sources.map ServerSource.read) with
    | none => rfl
    | some src =>
        rw [Option.bind_some, if_neg fun h : IsRepoInstall listType src => hlist h.1, withoutRepo, packageAction,
          if_neg hlist]
        exact toOption_map _ _

theorem tempFile_ne_empty (name : String) : p.tempFile name ≠ "" := by
  intro h
  have hlist := congrArg String.toList h
  rw [Platform.tempFile, String.toList_append, String.toList_append, String.toList_singleton] at hlist
  simp at hlist

/-- The package of the repository is what the check does not install. -/
theorem repo_ne {src : SourceConfig} (h : IsRepoInstall listType src) {x : Option Remediation}
    (hx : ∀ r ∈ x, r.repoPackage = none) :
    (installSoftwarePackage p { sourceEntry src with msiUrl := repoPath p src }).toOption.map
      (⟨some src.repoPackageUuid, ·⟩) ≠ x := by
  have hruns : Runs { sourceEntry src with msiUrl := repoPath p src } :=
    .inr (.inl ⟨h.2.1, tempFile_ne_empty _⟩)
  have hok : ∃ a, packageAction p "whitelist" { sourceEntry src with msiUrl := repoPath p src } = .ok a :=
    packageAction_ok_iff.2 hruns
  obtain ⟨a, ha⟩ := hok
  rw [packageAction, if_pos rfl] at ha
  rintro rfl
  rw [ha] at hx
  exact absurd (hx _ rfl) (Option.some_ne_none _)

theorem withoutRepo_repoPackage {e : ComplianceEntry} : ∀ r ∈ withoutRepo p listType e, r.repoPackage = none := by
  intro r hr
  obtain ⟨a, -, rfl⟩ := Option.map_eq_some_iff.1 hr
  rfl

/-- When the command of the server and the agent's own check run the same: a legacy entry runs nothing, and a
platform's source does not install a package of the repository. -/
def Agrees (p : Platform) (listType : String) (e : ServerEntry) : Prop :=
  if e.sources = [] then ¬ Runs e.read
  else ∀ src ∈ selectMatchingSource p (e.sources.map ServerSource.read), ¬ IsRepoInstall listType src

theorem performed_eq_iff : performed p (commandOf listType listId e) = autoPerformed p listType e ↔
    Agrees p listType e := by
  rw [Agrees]
  by_cases hsources : e.sources = []
  · rw [if_pos hsources, performed_legacy hsources, autoPerformed_legacy hsources, eq_comm, withoutRepo_eq_none_iff]
  · rw [if_neg hsources, performed_sources hsources, autoPerformed_sources hsources]
    cases selectMatchingSource p (e.sources.map ServerSource.read) with
    | none => exact iff_of_true rfl fun src h => nomatch h
    | some src =>
        have hsrc : (∀ src' ∈ some src, ¬ IsRepoInstall listType src') ↔ ¬ IsRepoInstall listType src :=
          ⟨fun h => h src rfl, fun h src' hsrc' => Option.some.inj hsrc' ▸ h⟩
        rw [Option.bind_some, Option.bind_some, hsrc]
        by_cases hrepo : IsRepoInstall listType src
        · rw [if_pos hrepo]
          exact iff_of_false (repo_ne hrepo withoutRepo_repoPackage) (not_not.2 hrepo)
        · rw [if_neg hrepo]
          exact iff_of_true rfl hrepo

end Ways

theorem triggerRemediation_eq (list : ServerList) (entryIds : List ℕ) :
    (triggerRemediation list entryIds).toOption.getD [] =
      (entriesToRemediate list entryIds).map (commandOf list.listType list.id) := by
  rw [triggerRemediation]
  by_cases hnone : entriesToRemediate list entryIds = []
  · rw [if_pos hnone, hnone]
    rfl
  · rw [if_neg hnone]
    rfl

/-- **The two remediations of a list agree** on the entries, missing or found, whose source needs neither the legacy
fields nor a package of the repository, and on no others. -/
theorem remediation_agree_iff (p : Platform) (list : ServerList) (entryIds : List ℕ) :
    ((triggerRemediation list entryIds).toOption.getD []).map (performed p) =
        (entriesToRemediate list entryIds).map (autoPerformed p list.listType) ↔
      ∀ e ∈ entriesToRemediate list entryIds, Agrees p list.listType e := by
  rw [triggerRemediation_eq, List.map_map, List.map_inj_left]
  exact forall₂_congr fun e _ => performed_eq_iff

end Obliance.SoftwareCompliance
