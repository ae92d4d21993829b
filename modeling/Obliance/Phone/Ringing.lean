import Obliance.Alerts.Feed
import Obliance.Phone.Pass

/-!
# Which alerts ring (`notifications` `NotificationPass.kt`, `services/liveAlert.service.ts`)

The alert service of the server next to the passes of one phone. A raise takes the id of its row at its
INSERT, the row is in the feed from its commit on.

* `phoneAlert` : a row as the phone parses it;
* `RingState`, `ringStep` : the server with the ids taken, the phone, and what was posted;
* `RingsOnce` : every critical row a pass saw unread was posted once, or a newer one of its incident was.
-/

namespace Obliance.Phone
open GuardedRun
open Obliance.Alerts (Severity IncidentRef AlertState AlertOp alertStep alertMachine getForTenants raiseKeep)

/-- The first `n` UTF-16 code units. -/
def takeUnits : ℕ → List Char → List Char
  | _, [] => []
  | n, c :: cs =>
      let size := if c.toNat < 65536 then 1 else 2
      if size ≤ n then c :: takeUnits (n - size) cs else []

def cut (n : ℕ) (s : String) : String := String.ofList (takeUnits n s.toList)

/-- `LiveAlerts.parse`, for a row of the server. -/
def phoneAlert (p : Platform) (r : Alerts.LiveAlert) : LiveAlert where
  id := r.id
  tenantId := some r.tenantId
  severity := r.severity
  title := cut 120 r.title
  navigateTo := r.navigateTo
  readAt := r.readAt.map toString
  createdAt := some (toString r.createdAt)
  stableKey := (r.stableKey.filter fun key => !key.toList.all p.blank).map (cut 200)

structure RingState where
  server : AlertState
  /-- The id a raise has taken, until its commit. -/
  taken : IncidentRef → Option ℕ
  phone : PhoneState
  /-- The ids of the first feed and of all feeds, the critical rows that were unread in a later feed, the
  alerts posted. Nothing reads these. -/
  baseline : List ℕ
  seen : List ℕ
  noticed : List Alerts.LiveAlert
  rang : List LiveAlert

/-! ## The server -/

/-- The raise has read the rows of its incident, and inserts one. -/
def raiseInserts (s : AlertState) (inc : IncidentRef) : Bool :=
  (s.holders inc).any fun r =>
    r.isOpen && r.active.any fun active => (raiseKeep r.isOpen active r.tenantId r.opts).isNone

def serverStep (s : RingState) : AlertOp → Option RingState
  | .raiseCommit _ _ => none
  | .raiseAbort inc => (alertStep s.server (.raiseAbort inc)).map fun server =>
      { s with server := server, taken := Function.update s.taken inc none }
  | op => (alertStep s.server op).map fun server => { s with server := server }

/-- `INSERT INTO live_alerts` in a raise. -/
def raiseInsert (s : RingState) (inc : IncidentRef) : Option RingState :=
  if raiseInserts s.server inc ∧ s.taken inc = none then
    some { s with
      server := { s.server with nextId := s.server.nextId + 1 }
      taken := Function.update s.taken inc (some s.server.nextId) }
  else none

/-- The commit of a raise, with the id it took if it inserts a row. -/
def commitRaise (s : RingState) (inc : IncidentRef) (now : ℤ) : Option RingState :=
  match s.taken inc with
  | some id => (alertStep { s.server with nextId := id } (.raiseCommit inc now)).map fun server =>
      { s with
        server := { server with nextId := s.server.nextId }
        taken := Function.update s.taken inc none }
  | none =>
      if raiseInserts s.server inc then none
      else (alertStep s.server (.raiseCommit inc now)).map fun server => { s with server := server }

/-! ## The phone -/

variable (p : Platform) (tenantIds : List ℕ)

/-- Scope ALL, on-call off, the app in background. -/
def quietSettings (onCall : OnCallSettings) (time : LocalTime) : PassSettings :=
  ⟨.all, { onCall with enabled := false }, time, false⟩

def feedRows (s : RingState) : List Alerts.LiveAlert := getForTenants s.server.alerts tenantIds 200

/-- What is not given by the state of the server when it answers a pass. -/
structure PassChance where
  onCall : OnCallSettings
  time : LocalTime
  activeIds : Option (List ℤ)
  isServer : ℕ → Option Bool
  isShown : ℤ → Bool

/-- Every notification is accepted. -/
def answerOf (s : RingState) (chance : PassChance) : PassAnswer :=
  ⟨⟨(feedRows tenantIds s).map (phoneAlert p), none, chance.activeIds⟩, chance.isServer, fun _ => true,
    chance.isShown⟩

/-- Critical and unread. -/
def isUrgent (r : Alerts.LiveAlert) : Bool := decide (r.severity = .critical) && r.readAt.isNone

/-- A pass, its feed below 200 rows with at most five fresh alerts. -/
def passStep (s : RingState) (chance : PassChance) : Option RingState :=
  let rows := feedRows tenantIds s
  let ans := answerOf p tenantIds s chance
  if rows.length < 200 ∧ (freshAlerts s.phone.server ans.feed).length ≤ maxPerServer then
    (phoneStep p s.phone (.startPass (quietSettings chance.onCall chance.time) true)).bind fun started =>
      started.running.bind fun (settings, state) => (phoneStep p started (.answered ans)).map fun phone =>
        let isFirst := s.phone.server.alertsMark.isNone
        { s with
          phone := phone
          baseline := if isFirst then rows.map Alerts.LiveAlert.id else s.baseline
          seen := s.seen ++ rows.map Alerts.LiveAlert.id
          noticed := if isFirst then s.noticed else s.noticed ++ rows.filter isUrgent
          rang := s.rang ++ (alertsPart p settings state ans).rang }
  else none

inductive RingOp where
  /-- A statement of the alert service, the commit of a raise apart. -/
  | server (op : AlertOp)
  | raiseInsert (inc : IncidentRef)
  | raiseCommit (inc : IncidentRef) (now : ℤ)
  | pass (chance : PassChance)

def ringStep (s : RingState) : RingOp → Option RingState
  | .server op => serverStep s op
  | .raiseInsert inc => raiseInsert s inc
  | .raiseCommit inc now => commitRaise s inc now
  | .pass chance => passStep p tenantIds s chance

/-- No alert and no pass yet. -/
def ringMachine : Machine RingState RingOp where
  init s := alertMachine.init s.server ∧ (∀ inc, s.taken inc = none) ∧ s.phone = ⟨.fresh, none⟩ ∧
    s.baseline = [] ∧ s.seen = [] ∧ s.noticed = [] ∧ s.rang = []
  step := ringStep p tenantIds

/-! ## What should ring -/

def RingState.timesRung (s : RingState) (id : ℕ) : ℕ := s.rang.countP fun a => decide (a.id = (id : ℤ))

/-- A newer alert of the incident was posted. -/
def SupersededBy (r : Alerts.LiveAlert) (a : LiveAlert) : Prop :=
  (r.id : ℤ) < a.id ∧ (incidentKey p a).isSome ∧ incidentKey p a = incidentKey p (phoneAlert p r)

/-- **Every critical row that was unread in a feed after the first, and not in the first, was posted by
exactly one pass, or a newer row of its incident was posted instead.** -/
def RingsOnce (s : RingState) : Prop :=
  ∀ r ∈ s.noticed, r.id ∉ s.baseline →
    s.timesRung r.id = 1 ∨ s.timesRung r.id = 0 ∧ ∃ a ∈ s.rang, SupersededBy p r a

/-- **The passes that miss nothing**: a critical unread row that is new to the feeds has an id above the
mark, and its title is not that of a recovery. -/
def AboveMark (s : RingState) : RingOp → Prop
  | .pass _ => ∀ mark ∈ s.phone.server.alertsMark, ∀ r ∈ feedRows tenantIds s, isUrgent r = true →
      r.id ∉ s.seen → mark < r.id ∧ category p (phoneAlert p r).title ≠ .recovery
  | _ => True

instance (r : Alerts.LiveAlert) (a : LiveAlert) : Decidable (SupersededBy p r a) :=
  inferInstanceAs (Decidable (_ ∧ _))

instance (s : RingState) : Decidable (RingsOnce p s) :=
  inferInstanceAs (Decidable (∀ r ∈ s.noticed, _ → _))

instance decidableAboveMark (s : RingState) : (op : RingOp) → Decidable (AboveMark p tenantIds s op)
  | .pass _ => inferInstanceAs (Decidable (∀ mark ∈ s.phone.server.alertsMark, ∀ r ∈ feedRows tenantIds s,
      isUrgent r = true → r.id ∉ s.seen → mark < r.id ∧ category p (phoneAlert p r).title ≠ .recovery))
  | .server _ | .raiseInsert _ | .raiseCommit _ _ => .isTrue trivial

end Obliance.Phone
