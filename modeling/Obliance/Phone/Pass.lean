import Obliance.Lib.GuardedRun
import Obliance.Phone.Alerts

/-!
# The background pass of one server (`notifications` `NotificationPass.kt`, `OnCallPolicy.kt`,
`ObliNotifications.kt`)

* `delivery` : what the on-call rules allow;
* `PostedAlert`, `ServerNotifState` : what the phone keeps for a server;
* `alertsPart` : `ServerPass.alerts`, from the stored state and the feed to the new record;
* `phoneMachine` : passes, resolutions, actions and settings in any order.
-/

namespace Obliance.Phone
open GuardedRun
open Obliance.Alerts (Severity IncidentKind IncidentRef)

/-! ## On-call rules -/

inductive NotifyScope where
  | all
  | criticalOnly
  | none
  deriving DecidableEq, Repr

inductive OutsideRule where
  | criticalOnly
  | silent
  | none
  deriving DecidableEq, Repr

/-- The schedule: ISO days, minutes after midnight. -/
structure OnCallSettings where
  enabled : Bool
  days : List ℕ
  startMinute : ℤ
  endMinute : ℤ
  outside : OutsideRule
  deriving DecidableEq, Repr

/-- An ISO day and a minute of that day. -/
structure LocalTime where
  day : ℕ
  minute : ℤ
  deriving DecidableEq, Repr

inductive Urgency where
  | critical
  | escalation
  | normal
  deriving DecidableEq, Repr

inductive Delivery where
  | normal
  | silent
  | drop
  deriving DecidableEq, Repr

def coerceMinute (minute : ℤ) : ℤ := max 0 (min minute (24 * 60 - 1))

/-- `OnCallPolicy.isActive` -/
def isOnCall (settings : OnCallSettings) (now : LocalTime) : Bool :=
  let yesterday := if now.day = 1 then 7 else now.day - 1
  let first := coerceMinute settings.startMinute
  let last := coerceMinute settings.endMinute
  settings.enabled &&
    if first = last then decide (now.day ∈ settings.days)
    else if first < last then decide (now.day ∈ settings.days ∧ first ≤ now.minute ∧ now.minute < last)
    else decide (first ≤ now.minute ∧ now.day ∈ settings.days ∨ now.minute < last ∧ yesterday ∈ settings.days)

/-- `OnCallPolicy.delivery` -/
def delivery (settings : OnCallSettings) (serverInOnCall : Bool) (now : LocalTime) (urgency : Urgency) :
    Delivery :=
  if !settings.enabled then .normal
  else if serverInOnCall && isOnCall settings now then .normal
  else match settings.outside with
    | .criticalOnly => if urgency = .normal then .drop else .normal
    | .silent => .silent
    | .none => .drop

/-! ## What the phone keeps -/

structure PostedAlert where
  alertId : ℤ
  deviceId : Option ℕ
  critical : Bool
  recovered : Bool
  category : Option AlertCategory
  incident : Option IncidentRef
  deriving DecidableEq, Repr

/-- `PostedAlert.incidentKey` -/
def PostedAlert.incidentKey (p : PostedAlert) : Option IncidentRef :=
  p.incident.or (p.category.bind (incidentOf p.deviceId))

structure ServerNotifState where
  alertsMark : Option ℤ
  signedOutByUser : Bool
  postedAlerts : List PostedAlert
  excludedTenants : List ℤ
  inOnCall : Bool
  lastNotify : Option NotifyScope
  deriving DecidableEq, Repr

def ServerNotifState.fresh : ServerNotifState := ⟨none, false, [], [], true, none⟩

/-- The settings a pass runs under. -/
structure PassSettings where
  notify : NotifyScope
  onCall : OnCallSettings
  time : LocalTime
  foreground : Bool
  deriving DecidableEq, Repr

/-- What a pass is answered: the feed, whether a device looked up is a server (`none` when the lookup
fails), whether the `i`-th notification is accepted, and the alerts whose notification is on screen. -/
structure PassAnswer where
  feed : AlertsFeed
  isServer : ℕ → Option Bool
  accepts : ℕ → Bool
  isShown : ℤ → Bool

/-! ## `ServerPass.alerts` -/

inductive AlertKind where
  | critical
  | warning
  deriving DecidableEq, Repr

structure Candidate where
  a : LiveAlert
  rank : ℕ
  kind : AlertKind
  delivery : Delivery
  deriving DecidableEq, Repr

structure AlertsPart where
  mark : ℤ
  posted : List PostedAlert
  /-- The alerts posted as new ones. -/
  rang : List LiveAlert
  deriving DecidableEq, Repr

def isVisible (excluded : List ℤ) (a : LiveAlert) : Bool := a.tenantId.all (· ∉ excluded)

def maxPerServer : ℕ := 5

def maxPosted : ℕ := 100

def maxDeviceLookups : ℕ := 5

variable (p : Platform)

/-- The alerts of the feed that may be notified: unread, above the mark, of a tenant not excluded. -/
def freshAlerts (state : ServerNotifState) (feed : AlertsFeed) : List LiveAlert :=
  ((process feed.alerts state.alertsMark 2147483647).1).filter (isVisible state.excludedTenants)

/-- The lookups of offline alerts sent as info, and their answers. -/
def deviceHints (ans : PassAnswer) (fresh : List LiveAlert) : List (ℤ × Bool) :=
  let lookups := (fresh.filter fun a => decide (a.severity = .info ∧ category p a.title = .offline)).filterMap
    fun a => (routeDeviceOf p a.navigateTo).map fun deviceId => (a.id, deviceId)
  (lookups.take maxDeviceLookups).filterMap fun l => (ans.isServer l.2).map fun isServer => (l.1, isServer)

def candidate (settings : PassSettings) (inOnCall : Bool) (a : LiveAlert) (isServer : Bool) :
    Option Candidate :=
  if category p a.title = .recovery then none
  else
    let rank := rank p a isServer
    let kind := if rank ≤ 1 then some AlertKind.critical
      else if a.severity = .warning then some .warning else none
    kind.bind fun kind =>
      let urgency := if kind = .critical then Urgency.critical else .normal
      let how := delivery settings.onCall inOnCall settings.time urgency
      if settings.notify = .criticalOnly ∧ kind ≠ .critical then none
      else if settings.foreground ∧ kind ≠ .critical then none
      else if how = .drop then none
      else some ⟨a, rank, kind, how⟩

/-- The alerts that may ring. -/
def mayRing (settings : PassSettings) (state : ServerNotifState) (ans : PassAnswer) : List Candidate :=
  let fresh := freshAlerts state ans.feed
  let hints := deviceHints p ans fresh
  fresh.filterMap fun a =>
    candidate p settings state.inOnCall a ((hints.reverse.find? fun h => decide (h.1 = a.id)).any Prod.snd)

/-- No alert that may ring is a newer one of the same incident. -/
def isNewest (ring : List Candidate) (c : Candidate) : Bool :=
  (incidentKey p c.a).all fun key => ring.all fun c' =>
    decide (incidentKey p c'.a = some key → c'.a.id ≤ c.a.id)

/-- The order of urgency: rank, then newest. -/
def moreUrgent (c c' : Candidate) : Prop :=
  let time := fun (c : Candidate) => (c.a.createdAt.bind p.parseTime).getD 0
  c.rank < c'.rank ∨ c.rank = c'.rank ∧ (time c' < time c ∨ time c' = time c ∧ c'.a.id ≤ c.a.id)

instance : DecidableRel (moreUrgent p) := fun c c' => inferInstanceAs (Decidable (c.rank < c'.rank ∨ _))

def chosen (ring : List Candidate) : List Candidate :=
  ((ring.filter (isNewest p ring)).insertionSort (moreUrgent p)).take maxPerServer

/-- The alert of a posted notification is resolved, deleted, read or excluded. -/
def isGone (excluded : List ℤ) (feed : AlertsFeed) (q : PostedAlert) : Bool :=
  match feed.alerts.reverse.find? fun a => decide (a.id = q.alertId) with
  | none => decide (feed.isActive q.alertId = some false)
  | some a => a.readAt.isSome || !isVisible excluded a

/-- What is kept of a posted notification. -/
def postedAlert (c : Candidate) : PostedAlert :=
  ⟨c.a.id, routeDeviceOf p c.a.navigateTo, decide (c.kind = .critical), false, some (category p c.a.title),
    incidentKey p c.a⟩

/-- An alert is posted: the notification of its incident goes, and its own earlier one. -/
def replacePosted (posted : List PostedAlert) (c : Candidate) : List PostedAlert :=
  posted.filter (fun q => !(decide (q.alertId = c.a.id) ||
    (incidentKey p c.a).any fun key => decide (q.incidentKey = some key))) ++ [postedAlert p c]

def postChosen (accepts : ℕ → Bool) (posted : List PostedAlert) (cs : List (Candidate × ℕ)) :
    List PostedAlert :=
  cs.foldl (fun posted c => if accepts c.2 then replacePosted p posted c.1 else posted) posted

/-- `RecoveryMatch.answeredCategory` -/
def answeredCategory (title : String) : Option AlertCategory :=
  if (indexOf p title ": santé disque revenue à la normale").isSome then some .diskHealth
  else if (indexOf p title ": De retour en ligne").isSome then some .offline
  else if (indexOf p title ": retour à la normale").isSome then some .metric
  else none

/-- A recovery of an older server: it turns the notification it answers, or is posted by itself. The
pair counts the recoveries posted by themselves and the calls of the publisher. -/
def postRecovery (settings : PassSettings) (inOnCall : Bool) (ans : PassAnswer) (ring : List Candidate)
    (nChosen : ℕ) (s : List PostedAlert × ℕ × ℕ) (a : LiveAlert) : List PostedAlert × ℕ × ℕ :=
  let (posted, newRecoveries, calls) := s
  let device := routeDeviceOf p a.navigateTo
  let answers := answeredCategory p a.title
  let incident := answers.bind (incidentOf device)
  let newest := fun (key : IncidentRef) =>
    (((ring.filter fun c => decide (incidentKey p c.a = some key)).map fun c => c.a.id).max?).getD 0
  let superseded := incident.any fun key => decide (a.id < newest key) ||
    posted.any fun q => decide (a.id < q.alertId ∧ q.incidentKey = some key)
  let answered := posted.filter fun q => decide (q.alertId < a.id ∧ device.isSome ∧ answers.isSome ∧
    q.deviceId = device ∧ q.category = answers) && !q.recovered && ans.isShown q.alertId
  if superseded then s
  else match (answered.map PostedAlert.alertId).max? with
    | some target =>
        if ans.accepts calls then
          (posted.map fun q => if q.alertId = target then { q with recovered := true } else q,
            newRecoveries, calls + 1)
        else (posted, newRecoveries, calls + 1)
    | none =>
        if settings.notify = .all ∧ !settings.foreground ∧ nChosen + newRecoveries < maxPerServer ∧
            delivery settings.onCall inOnCall settings.time .normal ≠ .drop then
          if ans.accepts calls then
            (posted ++ [⟨a.id, device, false, true, some .recovery, incident⟩], newRecoveries + 1, calls + 1)
          else (posted, newRecoveries, calls + 1)
        else s

/-- `ServerPass.alerts` -/
def alertsPart (settings : PassSettings) (state : ServerNotifState) (ans : PassAnswer) : AlertsPart :=
  let ring := mayRing p settings state ans
  let calls := (chosen p ring).reverse.zipIdx
  let kept := state.postedAlerts.filter fun q => !isGone state.excludedTenants ans.feed q
  let posted := postChosen p ans.accepts kept calls
  let recoveries := sortedById
    ((freshAlerts state ans.feed).filter fun a => decide (category p a.title = .recovery))
  let posted := (recoveries.foldl (postRecovery p settings state.inOnCall ans ring calls.length)
    (posted, 0, calls.length)).1
  { mark := (process ans.feed.alerts state.alertsMark 2147483647).2
    posted := (posted.insertionSort fun q q' => q'.alertId ≤ q.alertId).take maxPosted
    rang := (calls.filter fun c => ans.accepts c.2).map fun c => c.1.a }

/-! ## The machine -/

/-- `running` is the pass in progress: its settings and the state it has read. It holds the lock. -/
structure PhoneState where
  server : ServerNotifState
  running : Option (PassSettings × ServerNotifState)
  deriving DecidableEq, Repr

inductive PhoneOp where
  /-- `ServerPass.run` up to its first request; `hasSession` when the server has one. -/
  | startPass (settings : PassSettings) (hasSession : Bool)
  /-- The feed is read: the alerts are posted and saved. -/
  | answered (ans : PassAnswer)
  /-- The sign-in or the feed fails. -/
  | failed
  /-- `onResolved` -/
  | resolved (alertIds : List ℤ)
  /-- « Marquer lu » on a notification, once the server has answered. -/
  | markRead (alertId : ℤ)
  /-- The user edits the settings of the server. -/
  | edit (excludedTenants : List ℤ) (inOnCall : Bool)
  /-- The notify scope becomes `none`, or is no longer `none`. -/
  | scope (notify : NotifyScope)
  | signOut
  | signIn

def startPass (s : PhoneState) (settings : PassSettings) (hasSession : Bool) : PhoneState :=
  if settings.notify = .none then
    { s with server := { s.server with alertsMark := none, lastNotify := some .none } }
  else if !hasSession || s.server.signedOutByUser then s
  else
    let server := if s.server.lastNotify = some .none then
      { s.server with alertsMark := none, lastNotify := some settings.notify } else s.server
    ⟨server, some (settings, server)⟩

def phoneStep (s : PhoneState) : PhoneOp → Option PhoneState
  | .startPass settings hasSession =>
      if s.running.isSome then none else some (startPass s settings hasSession)
  | .answered ans => s.running.map fun (settings, state) =>
      let part := alertsPart p settings state ans
      ⟨{ s.server with
          alertsMark := some part.mark
          postedAlerts := part.posted
          lastNotify := some settings.notify }, none⟩
  | .failed => s.running.map fun _ => { s with running := none }
  | .resolved ids =>
      if s.running.isSome then none
      else some { s with server := { s.server with
        postedAlerts := s.server.postedAlerts.filter fun q => decide (q.alertId ∉ ids) } }
  | .markRead id =>
      if s.running.isSome then none
      else some { s with server := { s.server with
        postedAlerts := s.server.postedAlerts.filter fun q => decide (q.alertId ≠ id) } }
  | .edit excludedTenants inOnCall =>
      some { s with server := { s.server with excludedTenants := excludedTenants, inOnCall := inOnCall } }
  | .scope notify => some { s with server := { s.server with
      alertsMark := none
      lastNotify := some notify
      postedAlerts := if notify = .none then [] else s.server.postedAlerts } }
  | .signOut => some { s with server := { s.server with signedOutByUser := true, postedAlerts := [] } }
  | .signIn => some { s with server :=
      if s.server.signedOutByUser then { s.server with signedOutByUser := false, alertsMark := none }
      else s.server }

/-- A server whose state is new. -/
def phoneMachine : Machine PhoneState PhoneOp where
  init s := s.server = .fresh ∧ s.running = none
  step := phoneStep p

end Obliance.Phone
