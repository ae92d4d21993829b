import Obliance.Lib.GuardedRun
import Obliance.Lib.JsSet
import Obliance.Phone.Alerts

/-!
# The inbox of a server (`data` `DefaultAlertsRepository.kt`)

The alerts of one server, with the socket's events, the refreshes and the user's actions. Each step is a
request answered, or what is done under one lock or in one compare-and-set.

* `Part`, `InboxState` : the list shown, the resolved ids, the arrivals, the event and the refresh in progress;
* `Refresh` : the moments of a refresh;
* `InboxOp`, `inboxStep`, `inboxMachine` : the steps, in any order;
* `NeverResurrects`, `StillListed` : what the list shows.
-/

namespace Obliance.Phone
open GuardedRun

inductive FeedStatus where
  | loading
  | ok
  | expired
  | unreachable
  | excluded
  | signedOut
  deriving DecidableEq, Repr

/-- What one server contributes. -/
structure Part where
  alerts : List LiveAlert
  status : FeedStatus
  updatedAt : Option ℤ
  deriving DecidableEq, Repr

def Part.empty : Part := ⟨[], .loading, none⟩

def maxResolved : ℕ := 2000
def maxArrivals : ℕ := 500

/-- Where the handling of an event of the socket stands. -/
inductive SocketEvent where
  | idle
  /-- `NOTIFICATION_NEW`, of an alert that is not resolved. -/
  | new (a : LiveAlert)
  /-- The arrival is recorded, with its number. -/
  | arrived (a : LiveAlert) (n : ℕ)
  /-- `NOTIFICATION_RESOLVED`, the ids recorded. -/
  | resolved (ids : List ℤ)

/-- Where a refresh stands; `since` is the last arrival when it began. -/
inductive Refresh where
  | idle
  | started (since : ℕ)
  /-- The server has answered, `none` when that failed. -/
  | read (since : ℕ) (feed : Option (List LiveAlert))
  /-- The feed is filtered, for the part `previous`. -/
  | listing (since : ℕ) (feed : List LiveAlert) (previous : Option Part) (todo listed : List LiveAlert)
  /-- The arrivals are looked up, the alerts they keep are filtered. -/
  | keeping (since : ℕ) (feed : List LiveAlert) (previous : Option Part) (listed todo kept : List LiveAlert)
  | applied (since : ℕ)

structure InboxState where
  /-- The rows of the server, the id of the next one, and the deletes whose answer is on its way. -/
  rows : List ℤ
  nextId : ℤ
  deleting : List ℤ
  part : Option Part
  /-- Newest last. -/
  resolvedIds : List ℤ
  arrivals : List (ℤ × ℕ)
  arrivalSeq : ℕ
  event : SocketEvent
  refresh : Refresh
  /-- The ids whose RESOLVED was handled, and whose delete succeeded; those whose NEW was handled since the
  last refresh began, before it was applied, and that have not gone since. Nothing reads these. -/
  resolved : List ℤ
  deleted : List ℤ
  heard : List ℤ

def alertsOf (part : Option Part) : List LiveAlert := (part.getD .empty).alerts

def InboxState.shown (s : InboxState) : List LiveAlert := alertsOf s.part

def InboxState.isResolved (s : InboxState) (id : ℤ) : Bool := decide (id ∈ s.resolvedIds)

/-! ## The side tables -/

/-- The oldest entries go. -/
def keepNewest {α : Type} (n : ℕ) (xs : List α) : List α := xs.drop (xs.length - n)

def recordResolved (resolvedIds ids : List ℤ) : List ℤ := keepNewest maxResolved (ids.foldl JsSet.add resolvedIds)

def recordArrival (arrivals : List (ℤ × ℕ)) (id : ℤ) (n : ℕ) : List (ℤ × ℕ) :=
  keepNewest maxArrivals ((arrivals.filter fun e => decide (e.1 ≠ id)) ++ [(id, n)])

def arrivedAfter (arrivals : List (ℤ × ℕ)) (since : ℕ) : List ℤ :=
  (arrivals.filter fun e => decide (since < e.2)).map Prod.fst

def forgetArrivals (arrivals : List (ℤ × ℕ)) (since : ℕ) : List (ℤ × ℕ) :=
  arrivals.filter fun e => !decide (e.2 ≤ since)

/-! ## The socket -/

/-- The alert of an event, first unless it is there. -/
def mergeAlert (part : Option Part) (a : LiveAlert) : Option Part :=
  let known := part.getD { Part.empty with status := .ok }
  if known.alerts.any fun b => decide (b.id = a.id) then part
  else some { known with alerts := a :: known.alerts }

def withoutIds (part : Option Part) (ids : List ℤ) : Option Part :=
  part.map fun part => { part with alerts := part.alerts.filter fun a => !decide (a.id ∈ ids) }

/-- `setPart` with other alerts. -/
def editAlerts (part : Option Part) (change : List LiveAlert → List LiveAlert) : Option Part :=
  some { part.getD .empty with alerts := change (alertsOf part) }

/-- The refresh in progress still accounts for the `n`-th arrival: it has not looked the arrivals up, or
compares with a list that lacks the alert. -/
def Refresh.awaits : Refresh → ℤ → ℕ → Bool
  | .idle, _, _ | .applied _, _, _ => false
  | .started since, _, n | .read since _, _, n | .listing since _ _ _ _, _, n => decide (since < n)
  | .keeping since _ previous _ _ _, id, n =>
      decide (since < n) && !(alertsOf previous).any fun a => decide (a.id = id)

/-- `NOTIFICATION_NEW`, up to its check. -/
def newEvent (s : InboxState) (a : LiveAlert) : Option InboxState :=
  match s.event with
  | .idle => if s.isResolved a.id then some s else some { s with event := .new a }
  | _ => none

def recordNew (s : InboxState) : Option InboxState :=
  match s.event with
  | .new a => some { s with
      arrivals := recordArrival s.arrivals a.id (s.arrivalSeq + 1)
      arrivalSeq := s.arrivalSeq + 1
      event := .arrived a (s.arrivalSeq + 1) }
  | _ => none

def mergeNew (s : InboxState) : Option InboxState :=
  match s.event with
  | .arrived a n => some { s with
      part := mergeAlert s.part a
      event := .idle
      heard := if s.refresh.awaits a.id n then a.id :: s.heard else s.heard }
  | _ => none

/-- `NOTIFICATION_RESOLVED`: the ids are recorded first. -/
def resolvedEvent (s : InboxState) (ids : List ℤ) : Option InboxState :=
  match s.event with
  | .idle =>
      if ids.isEmpty then some s
      else some { s with
        resolvedIds := recordResolved s.resolvedIds ids
        event := .resolved ids
        heard := s.heard.filter fun id => !decide (id ∈ ids) }
  | _ => none

def removeResolved (s : InboxState) : Option InboxState :=
  match s.event with
  | .resolved ids => some { s with
      part := withoutIds s.part ids
      event := .idle
      resolved := s.resolved ++ ids }
  | _ => none

/-! ## A refresh -/

def startRefresh (s : InboxState) : Option InboxState :=
  match s.refresh with
  | .idle => some { s with refresh := .started s.arrivalSeq, heard := [] }
  | _ => none

/-- The server answers with some of its rows. -/
def readFeed (s : InboxState) (feed : Option (List LiveAlert)) : Option InboxState :=
  match s.refresh with
  | .started since =>
      if ∀ a ∈ feed.getD [], a.id ∈ s.rows then some { s with refresh := .read since feed } else none
  | _ => none

/-- The next check of the function `setPart` applies. -/
def evaluate (s : InboxState) : Option InboxState :=
  match s.refresh with
  | .read since (some feed) => some { s with refresh := .listing since feed s.part feed [] }
  | .listing since feed previous (a :: todo) listed =>
      some { s with
        refresh := .listing since feed previous todo (if s.isResolved a.id then listed else listed ++ [a]) }
  | .listing since feed previous [] listed =>
      some { s with
        refresh := .keeping since feed previous listed ((alertsOf previous).filter fun a =>
          decide (a.id ∈ arrivedAfter s.arrivals since) && !decide (a.id ∈ listed.map LiveAlert.id)) [] }
  | .keeping since feed previous listed (a :: todo) kept =>
      some { s with
        refresh := .keeping since feed previous listed todo (if s.isResolved a.id then kept else kept ++ [a]) }
  | _ => none

/-- The compare-and-set, which evaluates again when the parts have changed, this one or another's. -/
def commit (s : InboxState) (othersChanged : Bool) (now : ℤ) : Option InboxState :=
  match s.refresh with
  | .keeping since feed previous listed [] kept =>
      if s.part = previous ∧ othersChanged = false then
        some { s with part := some ⟨kept ++ listed, .ok, some now⟩, refresh := .applied since }
      else some { s with refresh := .read since (some feed) }
  | _ => none

/-- A feed that could not be read leaves the alerts. -/
def applyFailure (s : InboxState) (sessionExpired : Bool) : Option InboxState :=
  match s.refresh with
  | .read _ none => some { s with
      part := some { s.part.getD .empty with status := if sessionExpired then .expired else .unreachable }
      refresh := .idle }
  | _ => none

def finish (s : InboxState) : Option InboxState :=
  match s.refresh with
  | .applied since => some { s with arrivals := forgetArrivals s.arrivals since, refresh := .idle }
  | _ => none

/-! ## The machine -/

inductive InboxOp where
  | insertRow
  | removeRow (id : ℤ)
  /-- The server makes a delete of this phone. -/
  | serverDelete (id : ℤ)
  /-- Its success reaches the phone. -/
  | deleteDone (id : ℤ)
  | markRead (id : ℤ) (readAt : String)
  | newEvent (a : LiveAlert)
  | recordNew
  | mergeNew
  | resolvedEvent (ids : List ℤ)
  | removeResolved
  | startRefresh
  | readFeed (feed : Option (List LiveAlert))
  | evaluate
  | commit (othersChanged : Bool) (now : ℤ)
  | applyFailure (sessionExpired : Bool)
  | finish
  | cancelRefresh

/-- `delete`, once the server has answered. -/
def deleteDone (s : InboxState) (id : ℤ) : InboxState :=
  { s with
    part := editAlerts s.part fun alerts => alerts.filter fun a => decide (a.id ≠ id)
    deleting := s.deleting.filter fun x => decide (x ≠ id)
    deleted := s.deleted ++ [id]
    heard := s.heard.filter fun x => decide (x ≠ id) }

def inboxStep (s : InboxState) : InboxOp → Option InboxState
  | .insertRow => some { s with rows := s.rows ++ [s.nextId], nextId := s.nextId + 1 }
  | .removeRow id => some { s with rows := s.rows.filter fun x => decide (x ≠ id) }
  | .serverDelete id =>
      if id ∈ s.rows then
        some { s with rows := s.rows.filter fun x => decide (x ≠ id), deleting := s.deleting ++ [id] }
      else none
  | .deleteDone id => if id ∈ s.deleting then some (deleteDone s id) else none
  | .markRead id readAt => some { s with
      part := editAlerts s.part fun alerts => alerts.map fun a =>
        if a.id = id then { a with readAt := some readAt } else a }
  | .newEvent a => newEvent s a
  | .recordNew => recordNew s
  | .mergeNew => mergeNew s
  | .resolvedEvent ids => resolvedEvent s ids
  | .removeResolved => removeResolved s
  | .startRefresh => startRefresh s
  | .readFeed feed => readFeed s feed
  | .evaluate => evaluate s
  | .commit othersChanged now => commit s othersChanged now
  | .applyFailure sessionExpired => applyFailure s sessionExpired
  | .finish => finish s
  | .cancelRefresh => some { s with refresh := .idle }

/-- No row and nothing shown yet. -/
def InboxState.fresh : InboxState := ⟨[], 1, [], none, [], [], 0, .idle, .idle, [], [], []⟩

def inboxMachine : Machine InboxState InboxOp := ⟨(· = .fresh), inboxStep⟩

/-! ## What the list shows -/

/-- **No alert is shown whose RESOLVED was handled or whose delete succeeded.** -/
def NeverResurrects (s : InboxState) : Prop := ∀ a ∈ s.shown, a.id ∉ s.resolved ∧ a.id ∉ s.deleted

/-- **An alert whose NEW was handled during a refresh stays listed**, until it is resolved or deleted. -/
def StillListed (s : InboxState) : Prop := ∀ id ∈ s.heard, ∃ a ∈ s.shown, a.id = id

def Refresh.feed : Refresh → List LiveAlert
  | .idle | .started _ | .applied _ => []
  | .read _ feed => feed.getD []
  | .listing _ feed _ _ _ | .keeping _ feed _ _ _ _ => feed

/-- The alerts the refresh compares with. -/
def Refresh.compared : Refresh → List LiveAlert
  | .listing _ _ previous _ _ | .keeping _ _ previous _ _ _ => alertsOf previous
  | _ => []

/-- The alerts of the feed found not resolved. -/
def Refresh.listed : Refresh → List LiveAlert
  | .listing _ _ _ _ listed | .keeping _ _ _ listed _ _ => listed
  | _ => []

/-- A NEW of the alert is being handled. -/
def SocketEvent.isNew : SocketEvent → ℤ → Bool
  | .new a, id | .arrived a _, id => decide (a.id = id)
  | _, _ => false

/-- No more resolved ids and arrivals than are remembered. -/
def WithinCaps (s : InboxState) : InboxOp → Prop
  | .resolvedEvent ids => (ids.foldl JsSet.add s.resolvedIds).length ≤ maxResolved
  | .recordNew => s.arrivals.length < maxArrivals
  | _ => True

/-- The moments at which a delete and an event are safe. -/
def InTime (s : InboxState) : InboxOp → Prop
  | .deleteDone id => s.event.isNew id = false ∧ ∀ a ∈ s.refresh.feed, a.id ≠ id
  | .newEvent a => a.id ∉ s.deleted
  | .resolvedEvent ids => ∀ a ∈ s.refresh.listed, a.id ∈ ids → ∃ b ∈ s.refresh.compared, b.id = a.id
  | _ => True

/-- **The steps in an order the repository is ready for**: when a delete succeeds no refresh has read a feed
with the alert, and no NEW of it is being handled, nor is one later; and no RESOLVED is recorded for an alert
that a refresh has accepted from its feed and will compare with a list without it. -/
def Orderly (s : InboxState) (op : InboxOp) : Prop := WithinCaps s op ∧ InTime s op

instance decidableWithinCaps (s : InboxState) : (op : InboxOp) → Decidable (WithinCaps s op)
  | .resolvedEvent ids => inferInstanceAs (Decidable ((ids.foldl JsSet.add s.resolvedIds).length ≤ maxResolved))
  | .recordNew => inferInstanceAs (Decidable (s.arrivals.length < maxArrivals))
  | .insertRow | .removeRow _ | .serverDelete _ | .deleteDone _ | .markRead _ _ | .newEvent _ | .mergeNew
  | .removeResolved | .startRefresh | .readFeed _ | .evaluate | .commit _ _ | .applyFailure _ | .finish
  | .cancelRefresh => .isTrue trivial

instance decidableInTime (s : InboxState) : (op : InboxOp) → Decidable (InTime s op)
  | .deleteDone id => inferInstanceAs (Decidable (s.event.isNew id = false ∧ ∀ a ∈ s.refresh.feed, a.id ≠ id))
  | .newEvent a => inferInstanceAs (Decidable (a.id ∉ s.deleted))
  | .resolvedEvent ids => inferInstanceAs (Decidable (∀ a ∈ s.refresh.listed, a.id ∈ ids →
      ∃ b ∈ s.refresh.compared, b.id = a.id))
  | .insertRow | .removeRow _ | .serverDelete _ | .markRead _ _ | .recordNew | .mergeNew | .removeResolved
  | .startRefresh | .readFeed _ | .evaluate | .commit _ _ | .applyFailure _ | .finish | .cancelRefresh =>
      .isTrue trivial

instance (s : InboxState) (op : InboxOp) : Decidable (Orderly s op) := inferInstanceAs (Decidable (_ ∧ _))

instance (s : InboxState) : Decidable (NeverResurrects s) :=
  inferInstanceAs (Decidable (∀ a ∈ s.shown, _ ∧ _))

end Obliance.Phone
