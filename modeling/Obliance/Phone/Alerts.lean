import Mathlib.Data.List.Sort
import Obliance.Alerts.Rows
import Obliance.Lib.Numerals

/-!
# Live alerts on the phone (`core/common` `LiveAlerts.kt`, `domain` `AlertClassifier.kt`, `Incidents.kt`, `api` `AlertsApi.kt`)

* `LiveAlert`, `AlertsFeed` : a row of the feed, the feed;
* `process` : the high-water mark;
* `category`, `rank` : what a title says, how urgent an alert is;
* `incidentKey` : the incident of an alert, from its stable key or from its device and category;
* `incidentDeviceOf`, `routeDeviceOf` : the two readers of `navigateTo`.
-/

namespace Obliance.Phone
open Numerals
open Obliance.Alerts (Severity IncidentKind IncidentRef)

/-- What the platform makes of characters, URLs and dates. -/
structure Platform where
  /-- Two characters are equal when case is ignored. -/
  fold : Char → Char
  /-- `trim()`, `\d` with its value, `.` -/
  blank : Char → Bool
  digit : Char → Option ℕ
  lineEnd : Char → Bool
  /-- The path and the query of `java.net.URI`, `none` when it throws. -/
  uriPath : String → Option String
  parseTime : String → Option ℤ

/-- A row of the feed. -/
structure LiveAlert where
  id : ℤ
  tenantId : Option ℤ
  severity : Severity
  title : String
  navigateTo : Option String
  readAt : Option String
  createdAt : Option String
  stableKey : Option String
  deriving DecidableEq, Repr

/-! ## The feed -/

structure AlertsFeed where
  alerts : List LiveAlert
  /-- The oldest row of a feed that is full. -/
  truncatedBelow : Option ℤ
  activeIds : Option (List ℤ)
  deriving DecidableEq, Repr

namespace AlertsFeed

def covers (feed : AlertsFeed) (alertId : ℤ) : Bool :=
  feed.activeIds.isSome || feed.truncatedBelow.all (· ≤ alertId)

/-- Whether the alert is active, `none` when the feed cannot say. -/
def isActive (feed : AlertsFeed) (alertId : ℤ) : Option Bool :=
  if alertId ∈ feed.alerts.map LiveAlert.id then some true
  else match feed.activeIds with
    | some ids => some (decide (alertId ∈ ids))
    | none => if feed.covers alertId then some false else none

end AlertsFeed

def sortedById (alerts : List LiveAlert) : List LiveAlert := alerts.insertionSort fun a b => a.id ≤ b.id

/-- `LiveAlerts.process`: the alerts to notify, oldest first, and the new mark. -/
def process (alerts : List LiveAlert) (highWater : Option ℤ) (maxNotifications : ℕ) : List LiveAlert × ℤ :=
  match highWater, (alerts.map LiveAlert.id).max? with
  | none, maxId => ([], maxId.getD 0)
  | some mark, none => ([], mark)
  | some mark, some maxId =>
      if maxId < mark then ([], maxId)
      else
        let fresh := sortedById (alerts.filter fun a => decide (mark < a.id) && a.readAt.isNone)
        (fresh.drop (fresh.length - maxNotifications), max mark maxId)

theorem mem_sortedById {alerts : List LiveAlert} {a : LiveAlert} : a ∈ sortedById alerts ↔ a ∈ alerts :=
  List.mem_insertionSort _

theorem fresh_of_mem_process {alerts : List LiveAlert} {highWater : Option ℤ} {n : ℕ} {a : LiveAlert}
    (h : a ∈ (process alerts highWater n).1) :
    a ∈ alerts ∧ a.readAt = none ∧ ∃ mark, highWater = some mark ∧ mark < a.id := by
  unfold process at h
  split at h
  · exact absurd h List.not_mem_nil
  · exact absurd h List.not_mem_nil
  · split at h
    · exact absurd h List.not_mem_nil
    · have hmem := mem_sortedById.1 (List.mem_of_mem_drop h)
      rw [List.mem_filter, Bool.and_eq_true, decide_eq_true_eq, Option.isNone_iff_eq_none] at hmem
      exact ⟨hmem.1, hmem.2.2, _, rfl, hmem.2.1⟩

/-! ## Categories -/

inductive AlertCategory where
  | offline
  | metric
  | diskHealth
  | recovery
  | identity
  | other
  deriving DecidableEq, Repr

def suffixes : List (String × AlertCategory) :=
  [(": santé disque revenue à la normale", .recovery), (": santé disque", .diskHealth),
    (": De retour en ligne", .recovery), (": retour à la normale", .recovery), (": Hors ligne", .offline),
    (": Critique", .metric), (": Alerte", .metric), (": ID agent dupliqué", .identity)]

variable (p : Platform)

/-- `indexOf(part, ignoreCase = true)` -/
def indexOf (text part : String) : Option ℕ :=
  text.toList.tails.findIdx? fun rest => (part.toList.map p.fold).isPrefixOf (rest.map p.fold)

/-- `AlertClassifier.category` -/
def category (title : String) : AlertCategory :=
  ((suffixes.find? fun s => (indexOf p title s.1).any (0 < ·)).map Prod.snd).getD .other

/-- The rank of `AlertClassifier.classify`, lower is more urgent. -/
def rank (a : LiveAlert) (isServer : Bool) : ℕ :=
  if category p a.title = .recovery then 3
  else if a.severity = .critical then 0
  else if category p a.title = .offline ∧ isServer then 1
  else if a.severity = .warning then 2
  else 3

/-! ## Incidents -/

/-- What follows the beginning of a text, if it begins so. -/
def after (start cs : List Char) : Option (List Char) :=
  if start.isPrefixOf cs then some (cs.drop start.length) else none

/-- `(\d{1,15})` at the beginning: its value, and what follows. -/
def readDeviceId (cs : List Char) : Option (ℕ × List Char) :=
  let digits := (cs.takeWhile fun c => (p.digit c).isSome).filterMap p.digit
  if 1 ≤ digits.length ∧ digits.length ≤ 15 then
    some (digits.foldl (fun n d => 10 * n + d) 0, cs.dropWhile fun c => (p.digit c).isSome)
  else none

/-- `^/devices/(\d{1,15})/?(?:[…].*)?$`, with the characters of the class. -/
def devicePath (marks : List Char) (path : String) : Option ℕ :=
  (after "/devices/".toList path.toList).bind fun cs => (readDeviceId p cs).bind fun (id, rest) =>
    match (after ['/'] rest).getD rest with
    | [] => some id
    | c :: more => if c ∈ marks ∧ more.all fun c => !p.lineEnd c then some id else none

def trim (s : String) : String := String.ofList (strip p.blank s.toList)

/-- `Incidents.deviceIdOf` -/
def incidentDeviceOf (navigateTo : Option String) : Option ℕ :=
  navigateTo.bind fun raw => devicePath p ['?', '#'] (trim p raw)

/-- `NotificationRoutes.deviceIdOf`, which also reads an absolute URL. -/
def routeDeviceOf (navigateTo : Option String) : Option ℕ :=
  let raw := (navigateTo.map (trim p)).getD ""
  (if raw.toList.head? = some '/' then some raw else p.uriPath raw).bind (devicePath p ['?'])

def kindNames : List (String × IncidentKind) :=
  [("metric", .metric), ("offline", .offline), ("diskhealth", .diskhealth),
    ("duplicate_agent_id", .duplicateAgentId)]

def isKeyChar (c : Char) : Bool :=
  decide ('a' ≤ c ∧ c ≤ 'z' ∨ 'A' ≤ c ∧ c ≤ 'Z' ∨ '0' ≤ c ∧ c ≤ '9' ∨ c = '_' ∨ c = '-')

/-- `^device:(\d{1,15}):(metric|…)(?::[A-Za-z0-9_-]{1,32})?$` -/
def stableIncident (raw : String) : Option IncidentRef :=
  (after "device:".toList raw.toList).bind fun cs => (readDeviceId p cs).bind fun (id, rest) =>
    (after [':'] rest).bind fun rest =>
      let name := rest.takeWhile (· ≠ ':')
      (kindNames.find? fun k => k.1.toList = name).bind fun k =>
        match rest.dropWhile (· ≠ ':') with
        | [] => some ⟨k.2, id⟩
        | _ :: more =>
            if 1 ≤ more.length ∧ more.length ≤ 32 ∧ more.all isKeyChar then some ⟨k.2, id⟩ else none

/-- `Incidents.key(deviceId, category)` -/
def incidentOf (deviceId : Option ℕ) (category : AlertCategory) : Option IncidentRef :=
  deviceId.bind fun id =>
    match category with
    | .metric => some ⟨.metric, id⟩
    | .offline => some ⟨.offline, id⟩
    | .diskHealth => some ⟨.diskhealth, id⟩
    | .identity => some ⟨.duplicateAgentId, id⟩
    | .recovery | .other => none

/-- `Incidents.key`, as the kind and the device of the key. -/
def incidentKey (a : LiveAlert) : Option IncidentRef :=
  (a.stableKey.bind fun raw => stableIncident p (trim p raw)).or
    (incidentOf (incidentDeviceOf p a.navigateTo) (category p a.title))

end Obliance.Phone
