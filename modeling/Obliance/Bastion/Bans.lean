import Mathlib.Algebra.Order.Group.Int
import Obliance.Lib.GuardedRun
import Obliance.Lib.KeyedTable
import Obliance.Lib.Leases

/-!
# The bans of the bastion (`services/sshBastion/bastionGate.service.ts`)

A ban stands in the cache, in the table once its write lands, and among the unpersisted bans if its write fails.
A reload replaces the cache by the rows that it read and the unpersisted bans.

* `ban`, `unban`, `strike`, `recordFailedConnection`, `loadBans`, `landRows` : the service, cut where it awaits;
* `banMachine` : the calls in any order, with the writes, deletions and reads under way;
* `BansHold` : every ban that was issued and not lifted answers until it ends;
* `keepsBans` : the steps that shorten no ban and load no rows that miss one;
* `lasting_iff` : the runs in which bans hold for their whole duration are the runs of such steps.
-/

namespace Obliance.Bastion
open GuardedRun KeyedTable Leases

/-- The order of the integers that is computed. -/
local instance (priority := 2000) timeOrder : LinearOrder ℤ := Int.instLinearOrder

def ipStrikeLimit : ℕ := 3
def failedConnLimit : ℕ := 10
def failedConnWindowMs : ℤ := 10 * 60000
def banMs : ℤ := 24 * 60 * 60000
def cacheMs : ℤ := 15000

/-- A time in milliseconds, or `Infinity`. -/
abbrev BanExpiry := Expiry ℤ

inductive WritePhase where
  | sent
  | stored
  | failed
  | settled
  deriving DecidableEq, Repr

/-- The `INSERT ... ON CONFLICT` of a ban. -/
structure BanWrite where
  ip : String
  expiry : BanExpiry
  phase : WritePhase

/-- A reload, with the time in its query and the rows that it read. -/
structure Reload where
  startedAt : ℤ
  rows : Option (Book String ℤ)
  ended : Bool

structure BanState where
  /-- `Date.now()` -/
  now : ℤ
  bans : Book String ℤ
  bansAt : ℤ
  unpersisted : Book String ℤ
  strikes : List (String × ℕ)
  failedConns : List (String × List ℤ)
  /-- `ssh_bastion_bans` -/
  table : Book String ℤ
  writes : List BanWrite
  /-- The deletions under way. -/
  deletions : List String
  reloads : List Reload
  /-- The bans issued for each address since it was last unbanned. -/
  issued : List (String × BanExpiry)

/-! ## The service, by normalised addresses -/

def isBanned (s : BanState) (ip : String) : Bool :=
  match s.bans ip with
  | some exp => decide (exp.Live s.now)
  | none => false

/-- `null` is a permanent ban. -/
def expiryOf (now : ℤ) : Option ℤ → BanExpiry
  | none => .never
  | some durationMs => .ends (now + durationMs)

/-- Up to the write; an address of the infrastructure is never banned. -/
def ban (s : BanState) (infra : Bool) (ip : String) (durationMs : Option ℤ) : BanState :=
  if infra then s
  else
    let expMs := expiryOf s.now durationMs
    { s with
      bans := Function.update s.bans ip (some expMs)
      writes := s.writes ++ [⟨ip, expMs, .sent⟩]
      issued := s.issued ++ [(ip, expMs)] }

/-- Up to the deletion of the row. -/
def unban (s : BanState) (ip : String) : BanState :=
  { s with
    bans := Function.update s.bans ip none
    unpersisted := Function.update s.unpersisted ip none
    strikes := remove Prod.fst s.strikes ip
    failedConns := remove Prod.fst s.failedConns ip
    deletions := s.deletions ++ [ip]
    issued := s.issued.filter (·.1 ≠ ip) }

def strikesOf (s : BanState) (ip : String) : ℕ := ((get Prod.fst s.strikes ip).map Prod.snd).getD 0

/-- Refused not-allowed attempt; true when banned. -/
def strike (s : BanState) (infra : Bool) (ip : String) : Bool × BanState :=
  if infra then (false, s)
  else
    let n := strikesOf s ip + 1
    if ipStrikeLimit ≤ n then
      (true, ban { s with strikes := remove Prod.fst s.strikes ip } infra ip (some banMs))
    else (false, { s with strikes := upsert Prod.fst s.strikes (ip, n) fun _ => (ip, n) })

def clearStrikes (s : BanState) (ip : String) : BanState :=
  { s with strikes := remove Prod.fst s.strikes ip }

/-- Bound memory under a wide scan: drop IPs whose window has fully expired. -/
def dropExpiredWindows (s : BanState) : BanState :=
  if 5000 < s.failedConns.length then
    { s with
      failedConns := s.failedConns.filter fun entry => match entry.2.getLast? with
        | none => false
        | some last => decide (s.now - last < failedConnWindowMs)
      strikes := if 5000 < s.strikes.length then [] else s.strikes }
  else s

/-- The failed connections of the window, with the one that fails now. -/
def recentFailures (s : BanState) (ip : String) : List ℤ :=
  ((((get Prod.fst s.failedConns ip).map Prod.snd).getD []).filter fun t =>
    decide (s.now - t < failedConnWindowMs)) ++ [s.now]

def recordFailedConnection (s : BanState) (infra : Bool) (ip : String) : BanState :=
  if infra then s
  else
    let s := dropExpiredWindows s
    let recent := recentFailures s ip
    if failedConnLimit ≤ recent.length then
      ban { s with failedConns := remove Prod.fst s.failedConns ip } infra ip (some banMs)
    else { s with failedConns := upsert Prod.fst s.failedConns (ip, recent) fun _ => (ip, recent) }

/-- The reload that `isBanned` starts unless the cache is fresh. -/
def loadBans (s : BanState) : BanState :=
  if s.now - s.bansAt < cacheMs then s else { s with reloads := s.reloads ++ [⟨s.now, none, false⟩] }

/-- `expires_at IS NULL OR expires_at > ?` -/
def selectBans (table : Book String ℤ) (startedAt : ℤ) : Book String ℤ := fun ip =>
  (table ip).filter fun exp => decide (exp.Live startedAt)

/-- The rows are there: the unpersisted bans in force are added, those that ended are forgotten. -/
def landRows (s : BanState) (rows : Book String ℤ) : BanState :=
  { s with
    bans := overlay s.now rows s.unpersisted
    unpersisted := fun ip => (s.unpersisted ip).filter fun exp => decide (exp.Live s.now)
    bansAt := s.now }

/-- What `ban` does behind its write. -/
def settleWrite (s : BanState) (w : BanWrite) : BanState :=
  match w.phase with
  | .stored => { s with unpersisted := Function.update s.unpersisted w.ip none }
  | .failed => { s with unpersisted := Function.update s.unpersisted w.ip (some w.expiry) }
  | _ => s

/-! ## The machine -/

inductive BanEvent where
  | tick (ms : ℕ)
  | ban (infra : Bool) (ip : String) (durationMs : Option ℤ)
  | unban (ip : String)
  | strike (infra : Bool) (ip : String)
  | clearStrikes (ip : String)
  | recordFailedConnection (infra : Bool) (ip : String)
  | loadBans
  /-- The write of a ban reaches the table, or fails; then `ban` goes on. -/
  | store (i : ℕ)
  | fail (i : ℕ)
  | settle (i : ℕ)
  /-- The deletion of an `unban` reaches the table, or fails. -/
  | delete (i : ℕ) (fails : Bool)
  /-- The rows of a reload are read, or the read fails; then `loadBans` goes on. -/
  | read (i : ℕ)
  | readFails (i : ℕ)
  | land (i : ℕ)

def setWrite (s : BanState) (i : ℕ) (w : BanWrite) (phase : WritePhase) : BanState :=
  { s with writes := s.writes.set i { w with phase } }

def setReload (s : BanState) (i : ℕ) (r : Reload) : BanState := { s with reloads := s.reloads.set i r }

def banStep (s : BanState) : BanEvent → Option BanState
  | .tick ms => some { s with now := s.now + ms }
  | .ban infra ip durationMs => some (ban s infra ip durationMs)
  | .unban ip => some (unban s ip)
  | .strike infra ip => some (strike s infra ip).2
  | .clearStrikes ip => some (clearStrikes s ip)
  | .recordFailedConnection infra ip => some (recordFailedConnection s infra ip)
  | .loadBans => some (loadBans s)
  | .store i => do
      let w ← s.writes[i]?
      if w.phase = .sent then
        some { setWrite s i w .stored with table := Function.update s.table w.ip (some w.expiry) }
      else none
  | .fail i => do
      let w ← s.writes[i]?
      if w.phase = .sent then some (setWrite s i w .failed) else none
  | .settle i => do
      let w ← s.writes[i]?
      if w.phase = .stored ∨ w.phase = .failed then some (settleWrite (setWrite s i w .settled) w) else none
  | .delete i fails => do
      let ip ← s.deletions[i]?
      let s := { s with deletions := s.deletions.eraseIdx i }
      some (if fails then s else { s with table := Function.update s.table ip none })
  | .read i => do
      let r ← s.reloads[i]?
      if r.ended = false ∧ r.rows.isNone then
        some (setReload s i { r with rows := some (selectBans s.table r.startedAt) })
      else none
  | .readFails i => do
      let r ← s.reloads[i]?
      if r.ended = false ∧ r.rows.isNone then some (setReload s i { r with ended := true }) else none
  | .land i => do
      let r ← s.reloads[i]?
      let rows ← r.rows
      if r.ended = false then some (landRows (setReload s i { r with ended := true }) rows) else none

/-- A fresh service, with the rows of earlier ones. -/
def banMachine : Machine BanState BanEvent where
  init s := (∀ ip, s.bans ip = none) ∧ s.bansAt = 0 ∧ (∀ ip, s.unpersisted ip = none) ∧ s.strikes = [] ∧
    s.failedConns = [] ∧ s.writes = [] ∧ s.deletions = [] ∧ s.reloads = [] ∧ s.issued = []
  step := banStep

/-! ## The claim -/

/-- `isBanned` answers true for every address with a ban that was issued, not lifted, and has not ended. -/
def BansHold (s : BanState) : Prop :=
  ∀ b ∈ s.issued, b.2.Live s.now → isBanned s b.1 = true

instance (s : BanState) : Decidable (BansHold s) :=
  inferInstanceAs (Decidable (∀ b ∈ s.issued, b.2.Live s.now → isBanned s b.1 = true))

/-- Now, and as time goes by. -/
def Lasting (s : BanState) : Prop := ∀ ms : ℕ, BansHold { s with now := s.now + ms }

/-- The ban that an event issues. -/
def issues (s : BanState) : BanEvent → Option (String × BanExpiry)
  | .ban infra ip durationMs => if infra then none else some (ip, expiryOf s.now durationMs)
  | .strike infra ip =>
      if infra = false ∧ ipStrikeLimit ≤ strikesOf s ip + 1 then some (ip, expiryOf s.now (some banMs)) else none
  | .recordFailedConnection infra ip =>
      if infra = false ∧ failedConnLimit ≤ (recentFailures (dropExpiredWindows s) ip).length then
        some (ip, expiryOf s.now (some banMs))
      else none
  | _ => none

/-- The ban that the event issues ends no earlier than those in force for its address. -/
def endsNoneEarly (s : BanState) (e : BanEvent) : Prop :=
  ∀ b ∈ issues s e, ∀ c ∈ s.issued, c.1 = b.1 → c.2.Live s.now → c.2 ≤ b.2

/-- The rows that the event lands, together with the unpersisted bans, have every ban in force. -/
def landsNoLess (s : BanState) : BanEvent → Prop
  | .land i => ∀ r ∈ s.reloads[i]?, r.ended = false → ∀ rows ∈ r.rows, ∀ b ∈ s.issued, b.2.Live s.now →
      Has s.now rows s.unpersisted b
  | _ => True

def keepsBans (s : BanState) (e : BanEvent) : Prop := endsNoneEarly s e ∧ landsNoLess s e

instance (s : BanState) (e : BanEvent) : Decidable (endsNoneEarly s e) :=
  inferInstanceAs (Decidable (∀ b ∈ issues s e, ∀ c ∈ s.issued, c.1 = b.1 → c.2.Live s.now → c.2 ≤ b.2))

instance (s : BanState) : (e : BanEvent) → Decidable (landsNoLess s e)
  | .land i => inferInstanceAs (Decidable (∀ r ∈ s.reloads[i]?, r.ended = false → ∀ rows ∈ r.rows, ∀ b ∈ s.issued,
      b.2.Live s.now → Has s.now rows s.unpersisted b))
  | .tick _ | .ban .. | .unban _ | .strike .. | .clearStrikes _ | .recordFailedConnection .. | .loadBans
  | .store _ | .fail _ | .settle _ | .delete .. | .read _ | .readFails _ => .isTrue trivial

instance (s : BanState) (e : BanEvent) : Decidable (keepsBans s e) :=
  inferInstanceAs (Decidable (endsNoneEarly s e ∧ landsNoLess s e))

/-! ## Steps -/

section Steps
variable {s t : BanState} {ip : String} {infra : Bool}

/-- Every ban in force has an entry in the cache that ends no earlier. -/
def Covered (s : BanState) : Prop := Covers s.now s.bans s.issued

theorem bansHold_iff : BansHold s ↔ Answers s.now s.bans s.issued := by
  refine forall₃_congr fun b _ _ => ?_
  unfold isBanned
  cases hb : s.bans b.1 with
  | none => simp
  | some exp => simp

/-- Bans hold for good exactly if they are covered. -/
theorem lasting_iff_covered : Lasting s ↔ Covered s := by
  rw [Covered, covers_iff]
  constructor
  · intro h t ht
    have hms := bansHold_iff.1 (h (t - s.now).toNat)
    have heq : s.now + ((t - s.now).toNat : ℤ) = t := by omega
    rwa [heq] at hms
  · intro h ms
    exact bansHold_iff.2 (h (s.now + ms) (by omega))

/-- A ban keeps the cover exactly if it shortens none. -/
theorem covered_ban_iff (durationMs : Option ℤ) (h : Covered s) : Covered (ban s infra ip durationMs) ↔
    endsNoneEarly s (.ban infra ip durationMs) := by
  unfold endsNoneEarly
  cases infra with
  | true => simpa [ban, issues] using h
  | false =>
      refine (covers_issue_iff h).trans ?_
      simp [issues]

/-- A ban behind a change of the counters. -/
theorem covered_ban_of_eq {s' : BanState} (durationMs : Option ℤ) (h : Covered s) (hnow : s'.now = s.now)
    (hbans : s'.bans = s.bans) (hissued : s'.issued = s.issued) : Covered (ban s' false ip durationMs) ↔
    ∀ c ∈ s.issued, c.1 = ip → c.2.Live s.now → c.2 ≤ expiryOf s.now durationMs := by
  have h' : Covered s' := by
    rw [Covered, hnow, hbans, hissued]
    exact h
  rw [covered_ban_iff durationMs h', endsNoneEarly, hissued, hnow]
  simp [issues, hnow]

theorem dropExpiredWindows_eq : (dropExpiredWindows s).now = s.now ∧ (dropExpiredWindows s).bans = s.bans ∧
    (dropExpiredWindows s).issued = s.issued := by
  unfold dropExpiredWindows
  split_ifs <;> exact ⟨rfl, rfl, rfl⟩

theorem covered_congr {s' : BanState} (hnow : s'.now = s.now) (hbans : s'.bans = s.bans)
    (hissued : s'.issued = s.issued) : Covered s' ↔ Covered s := by
  rw [Covered, Covered, hnow, hbans, hissued]

theorem covered_strike_iff (h : Covered s) : Covered (strike s infra ip).2 ↔ endsNoneEarly s (.strike infra ip) := by
  unfold endsNoneEarly
  cases infra with
  | true => simpa [strike, issues] using h
  | false =>
      by_cases hlimit : ipStrikeLimit ≤ strikesOf s ip + 1
      · rw [strike, if_neg Bool.false_ne_true]
        dsimp only
        rw [if_pos hlimit]
        refine (covered_ban_of_eq (some banMs) h rfl rfl rfl).trans ?_
        simp [issues, hlimit]
      · rw [strike, if_neg Bool.false_ne_true]
        dsimp only
        rw [if_neg hlimit]
        exact iff_of_true h (by simp [issues, hlimit])

theorem covered_recordFailedConnection_iff (h : Covered s) : Covered (recordFailedConnection s infra ip) ↔
    endsNoneEarly s (.recordFailedConnection infra ip) := by
  unfold endsNoneEarly
  obtain ⟨hnow, hbans, hissued⟩ := dropExpiredWindows_eq (s := s)
  cases infra with
  | true => simpa [recordFailedConnection, issues] using h
  | false =>
      by_cases hlimit : failedConnLimit ≤ (recentFailures (dropExpiredWindows s) ip).length
      · rw [recordFailedConnection, if_neg Bool.false_ne_true]
        dsimp only
        rw [if_pos hlimit]
        refine (covered_ban_of_eq (some banMs) h hnow hbans hissued).trans ?_
        simp [issues, hlimit]
      · rw [recordFailedConnection, if_neg Bool.false_ne_true]
        dsimp only
        rw [if_neg hlimit]
        exact iff_of_true ((covered_congr hnow hbans hissued).2 h) (by simp [issues, hlimit])

/-- The rows that land keep the cover exactly if they and the unpersisted bans have every ban in force. -/
theorem covered_landRows_iff (rows : Book String ℤ) : Covered (landRows s rows) ↔
    ∀ b ∈ s.issued, b.2.Live s.now → Has s.now rows s.unpersisted b := covers_overlay_iff

theorem keepsBans_of_idle {e : BanEvent} (h : banStep s e = none) : keepsBans s e := by
  cases e with
  | land i =>
      refine ⟨by simp [endsNoneEarly, issues], fun r hr hopen rows hrows => ?_⟩
      have hr : s.reloads[i]? = some r := hr
      have hrows : r.rows = some rows := hrows
      simp [banStep, hr, hrows, hopen] at h
  | tick | ban | unban | strike | clearStrikes | recordFailedConnection | loadBans => cases h
  | store | fail | settle | delete | read | readFails => exact ⟨by simp [endsNoneEarly, issues], trivial⟩

/-- The steps that are left to the database, and what `ban` does behind its write. -/
def isQuiet : BanEvent → Bool
  | .store _ | .fail _ | .settle _ | .delete _ _ | .read _ | .readFails _ => true
  | _ => false

theorem settleWrite_eq (w : BanWrite) : (settleWrite s w).now = s.now ∧ (settleWrite s w).bans = s.bans ∧
    (settleWrite s w).issued = s.issued := by
  unfold settleWrite
  split <;> exact ⟨rfl, rfl, rfl⟩

/-- A quiet step changes neither the clock nor the cache nor the bans issued. -/
theorem quiet_step {e : BanEvent} (hquiet : isQuiet e = true) (hstep : banStep s e = some t) :
    t.now = s.now ∧ t.bans = s.bans ∧ t.issued = s.issued := by
  cases e with
  | tick | ban | unban | strike | clearStrikes | recordFailedConnection | loadBans | land => cases hquiet
  | delete i fails =>
      obtain ⟨ip, -, hstep⟩ := Option.bind_eq_some_iff.1 hstep
      obtain rfl := Option.some.inj hstep
      split_ifs <;> exact ⟨rfl, rfl, rfl⟩
  | settle i =>
      obtain ⟨w, -, hstep⟩ := Option.bind_eq_some_iff.1 hstep
      split_ifs at hstep
      obtain rfl := Option.some.inj hstep
      exact settleWrite_eq w
  | store i | fail i | read i | readFails i =>
      obtain ⟨w, -, hstep⟩ := Option.bind_eq_some_iff.1 hstep
      split_ifs at hstep
      obtain rfl := Option.some.inj hstep
      exact ⟨rfl, rfl, rfl⟩

theorem covered_step_iff {e : BanEvent} (h : Covered s) (hstep : banStep s e = some t) :
    Covered t ↔ keepsBans s e := by
  cases e with
  | tick ms =>
      obtain rfl := Option.some.inj hstep
      exact iff_of_true (Covers.later h (show s.now ≤ s.now + (ms : ℤ) by omega))
        ⟨by simp [endsNoneEarly, issues], trivial⟩
  | ban infra ip durationMs =>
      obtain rfl := Option.some.inj hstep
      exact (covered_ban_iff durationMs h).trans (and_iff_left trivial).symm
  | unban ip =>
      obtain rfl := Option.some.inj hstep
      exact iff_of_true (covers_release h) ⟨by simp [endsNoneEarly, issues], trivial⟩
  | strike infra ip =>
      obtain rfl := Option.some.inj hstep
      exact (covered_strike_iff h).trans (and_iff_left trivial).symm
  | clearStrikes ip =>
      obtain rfl := Option.some.inj hstep
      exact iff_of_true h ⟨by simp [endsNoneEarly, issues], trivial⟩
  | recordFailedConnection infra ip =>
      obtain rfl := Option.some.inj hstep
      exact (covered_recordFailedConnection_iff h).trans (and_iff_left trivial).symm
  | loadBans =>
      obtain rfl := Option.some.inj hstep
      refine iff_of_true ?_ ⟨by simp [endsNoneEarly, issues], trivial⟩
      unfold loadBans
      split_ifs
      · exact h
      · exact h
  | land i =>
      obtain ⟨r, hr, hstep⟩ := Option.bind_eq_some_iff.1 hstep
      obtain ⟨rows, hrows, hstep⟩ := Option.bind_eq_some_iff.1 hstep
      split_ifs at hstep with hopen
      obtain rfl := Option.some.inj hstep
      refine (covered_landRows_iff rows).trans ?_
      simp [keepsBans, endsNoneEarly, landsNoLess, issues, setReload, hr, hrows, hopen]
  | store i | fail i | settle i | delete i fails | read i | readFails i =>
      obtain ⟨hnow, hbans, hissued⟩ := quiet_step rfl hstep
      exact iff_of_true ((covered_congr hnow hbans hissued).2 h) ⟨by simp [endsNoneEarly, issues], trivial⟩

end Steps

/-! ## Runs -/

section Runs
variable {s : BanState}

theorem covered_init (h : banMachine.init s) : Covered s := by
  obtain ⟨-, -, -, -, -, -, -, -, hissued⟩ := h
  rw [Covered, hissued]
  simp [Covers]

/-- In a run of such steps every ban holds in every state. -/
theorem bansHold_of_reach (h : Reach banMachine keepsBans s) : BansHold s := by
  have hcovered : Covered s :=
    h.invariant (I := Covered) (fun _ => covered_init) fun _ _ _ hs hok hstep => (covered_step_iff hs hstep).2 hok
  exact bansHold_iff.2 hcovered.answers

/-- Along a run every ban holds in every state, and goes on to hold as time passes, exactly if no step ends a ban
in force of the same address early or lands rows that miss one. -/
theorem lasting_iff (h : banMachine.init s) (events : List BanEvent) :
    banMachine.Along (fun _ t => Lasting t) s events ↔ banMachine.Admits keepsBans s events := by
  refine Machine.along_iff_admits_of (I := Covered) (fun s e he => keepsBans_of_idle he)
    (fun s e t hs hstep => ?_) (fun s e t hs hok hstep => (covered_step_iff hs hstep).2 hok) events s
    (covered_init h)
  exact lasting_iff_covered.trans (covered_step_iff hs hstep)

def noBans : BanState :=
  ⟨1000000, fun _ => none, 0, fun _ => none, [], [], fun _ => none, [], [], [], []⟩

/-- A ban for a minute that is written before the cache is reloaded. -/
def writtenFirst : List BanEvent :=
  [.ban false "198.51.100.7" (some 60000), .store 0, .settle 0, .loadBans, .read 0, .land 0, .tick 59999]

theorem written_ban_lasts : banMachine.Along (fun _ t => Lasting t) noBans writtenFirst :=
  (lasting_iff ⟨fun _ => rfl, rfl, fun _ => rfl, rfl, rfl, rfl, rfl, rfl, rfl⟩ writtenFirst).2 (by decide +kernel)

/-- A ban for a second ends a permanent one; and a reload that read before a ban was written forgets it. -/
theorem bans_lost :
    (¬ ∀ s, Reach banMachine anyStep s → BansHold s) ∧
    ∃ s ∈ banMachine.exec noBans
      [.loadBans, .read 0, .ban false "198.51.100.7" none, .store 0, .settle 0, .land 0], ¬ BansHold s := by
  constructor
  · exact not_forall_reach (s := noBans) ⟨fun _ => rfl, rfl, fun _ => rfl, rfl, rfl, rfl, rfl, rfl, rfl⟩
      [.ban false "198.51.100.7" none, .ban false "198.51.100.7" (some 1000), .tick 1000] ⟨_, rfl, by decide +kernel⟩
  · exact ⟨_, rfl, by decide +kernel⟩

end Runs

end Obliance.Bastion
