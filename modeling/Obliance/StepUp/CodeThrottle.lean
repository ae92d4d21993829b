import Mathlib.Data.Int.Order.Basic
import Mathlib.Tactic.Common
import Obliance.Lib.GuardedRun

/-!
# The caps on wrong codes (`services/deviceKey/stepUpProof.ts`)

An attempt reserves a slot of the 15-minute window and of the 24-hour window before its code is checked, and
settles it afterwards. Both are single statements on the row of the user; requests run in any order.

* `reserveCodeAttempt`, `giveBack`, `lockStatement`, `noticeStatement` : the statements;
* `throttleMachine` : the requests of one user, with the restarts of the two windows counted;
* `WindowInv` : a window in use counts the slots its own attempts hold, and no window had too many;
* `code_attempts_capped` : so at most ten, or thirty, failures to a window, if no attempt gives back a slot of a
  window it has none of.
-/

namespace Obliance.StepUp
open GuardedRun

def codeWindowMinutes : ℤ := 15
def codeWindowMax : ℕ := 10
def codeDayMax : ℕ := 30
def codeNotifyAt : ℤ := 5

def minuteMs : ℤ := 60000
def windowMs : ℤ := codeWindowMinutes * minuteMs
def dayMs : ℤ := 24 * 60 * minuteMs

/-! ## The statements -/

/-- The row of `step_up_throttle` of a user, kind 'code'; instants in milliseconds. -/
structure ThrottleRow where
  windowStart : Option ℤ
  windowFailures : ℤ
  dayStart : Option ℤ
  dayFailures : ℤ
  locked : Bool
  notifiedAt : Option ℤ
  deriving DecidableEq, Repr

/-- `t.window_start IS NULL OR t.window_start <= now() - interval '15 minutes'` -/
def ThrottleRow.windowOver (t : ThrottleRow) (now : ℤ) : Bool := t.windowStart.all (· ≤ now - windowMs)

def ThrottleRow.dayOver (t : ThrottleRow) (now : ℤ) : Bool := t.dayStart.all (· ≤ now - dayMs)

/-- The upsert; `none` when it hits no row. -/
def reserveCodeAttempt (row : Option ThrottleRow) (now : ℤ) : Option ThrottleRow :=
  match row with
  | none => some ⟨some now, 1, some now, 1, false, none⟩
  | some t =>
      if !t.locked && (t.windowOver now || decide (t.windowFailures < codeWindowMax)) &&
          (t.dayOver now || decide (t.dayFailures < codeDayMax)) then
        some { t with
          windowStart := if t.windowOver now then some now else t.windowStart
          windowFailures := if t.windowOver now then 1 else t.windowFailures + 1
          dayStart := if t.dayOver now then some now else t.dayStart
          dayFailures := if t.dayOver now then 1 else t.dayFailures + 1 }
      else none

inductive Outcome where
  | success
  | void
  | failure
  deriving DecidableEq, Repr

/-- The update of `settleCodeAttempt` for a success or a void attempt. -/
def giveBack (t : ThrottleRow) : Outcome → ThrottleRow
  | .success => { t with windowFailures := 0, windowStart := none, dayFailures := max (t.dayFailures - 1) 0 }
  | .void => { t with
      windowFailures := max (t.windowFailures - 1) 0
      dayFailures := max (t.dayFailures - 1) 0 }
  | .failure => t

/-- What follows the read of the row for a failure: the lock, then the notice. -/
inductive Settling where
  | lock (dayFailures : ℤ) (email : Bool)
  | notice (dayFailures : ℤ) (email : Bool)
  | done
  deriving DecidableEq, Repr

def lockStatement (t : ThrottleRow) : ThrottleRow :=
  if !t.locked && decide (codeDayMax ≤ t.dayFailures) then { t with locked := true } else t

def noticeStatement (t : ThrottleRow) (now : ℤ) : ThrottleRow :=
  if t.notifiedAt.all (· ≤ now - dayMs) then { t with notifiedAt := some now } else t

/-! ## Requests -/

/-- An attempt that was granted, with the numbers of the windows it was granted in; nothing is settled yet where
`outcome` is none. -/
structure Attempt where
  window : ℕ
  day : ℕ
  outcome : Option Outcome
  deriving DecidableEq, Repr

structure ThrottleState where
  row : Option ThrottleRow
  attempts : List Attempt
  settling : List Settling
  /-- How often the two windows have been restarted. -/
  windows : ℕ
  days : ℕ
  deriving DecidableEq, Repr

inductive ThrottleOp where
  | reserve (now : ℤ)
  | settle (i : ℕ) (outcome : Outcome) (email : Bool)
  | statement (j : ℕ) (now : ℤ)
  deriving DecidableEq, Repr

/-- A granted attempt; a window that is over, or missing, starts again with it. -/
def grantAttempt (s : ThrottleState) (now : ℤ) : Option ThrottleState :=
  match reserveCodeAttempt s.row now with
  | none => some s
  | some row =>
      let windows := if s.row.all (·.windowOver now) then s.windows + 1 else s.windows
      let days := if s.row.all (·.dayOver now) then s.days + 1 else s.days
      some { s with
        row := some row
        attempts := s.attempts ++ [⟨windows, days, none⟩]
        windows := windows
        days := days }

def settleCodeAttempt (s : ThrottleState) (i : ℕ) (outcome : Outcome) (email : Bool) : Option ThrottleState :=
  match s.attempts[i]? with
  | some a =>
      if a.outcome.isNone then
        let s' := { s with attempts := s.attempts.set i { a with outcome := some outcome } }
        if outcome = .failure then
          let dayFailures := (s.row.map ThrottleRow.dayFailures).getD 0
          some { s' with settling := s.settling ++ [.lock dayFailures email] }
        else some { s' with row := s.row.map (giveBack · outcome) }
      else none
  | none => none

def runSettling (s : ThrottleState) (j : ℕ) (now : ℤ) : Option ThrottleState :=
  match s.settling[j]? with
  | some (.lock dayFailures email) =>
      some { s with
        settling := s.settling.set j (.notice dayFailures email)
        row := if codeDayMax ≤ dayFailures then s.row.map lockStatement else s.row }
  | some (.notice dayFailures email) =>
      some { s with
        settling := s.settling.set j .done
        row := if codeNotifyAt ≤ dayFailures ∧ email = true then s.row.map (noticeStatement · now) else s.row }
  | _ => none

def throttleStep (s : ThrottleState) : ThrottleOp → Option ThrottleState
  | .reserve now => grantAttempt s now
  | .settle i outcome email => settleCodeAttempt s i outcome email
  | .statement j now => runSettling s j now

/-- Any row of a user, and no request under way. -/
def throttleMachine : Machine ThrottleState ThrottleOp where
  init s := s.attempts = [] ∧ s.settling = [] ∧ s.windows = 0 ∧ s.days = 0
  step := throttleStep

/-- An attempt gives back a slot of a counter only where it was granted in the window of that counter. -/
def OwnSlot (s : ThrottleState) : ThrottleOp → Prop
  | .settle i outcome _ => ∀ a ∈ s.attempts[i]?, ∀ t ∈ s.row,
      (outcome = .void → 0 < t.windowFailures → a.window = s.windows) ∧
        (outcome ≠ .failure → 0 < t.dayFailures → a.day = s.days)
  | _ => True

instance (s : ThrottleState) (op : ThrottleOp) : Decidable (OwnSlot s op) := by
  unfold OwnSlot
  split <;> infer_instance

/-- The attempts of a window that have failed. -/
def failures (window : Attempt → ℕ) (n : ℕ) (attempts : List Attempt) : ℕ :=
  attempts.countP fun a => decide (window a = n) && decide (a.outcome = some .failure)

/-- From one restart of a window to the next, no more failures than the cap. -/
def Capped (s : ThrottleState) : Prop :=
  ∀ n, 1 ≤ n → failures Attempt.window n s.attempts ≤ codeWindowMax ∧ failures Attempt.day n s.attempts ≤ codeDayMax

/-! ## One window -/

/-- The attempt has given no slot back. -/
def Attempt.holds (a : Attempt) : Bool :=
  match a.outcome with
  | none | some .failure => true
  | some .success | some .void => false

def held (window : Attempt → ℕ) (n : ℕ) (attempts : List Attempt) : ℕ :=
  attempts.countP fun a => decide (window a = n) && a.holds

section Held
variable {window : Attempt → ℕ} {attempts : List Attempt} {n : ℕ}

theorem failures_le_held : failures window n attempts ≤ held window n attempts := by
  apply List.countP_mono_left
  intro a _ ha
  simp only [Bool.and_eq_true, decide_eq_true_eq] at ha ⊢
  exact ⟨ha.1, by rw [Attempt.holds, ha.2]⟩

theorem held_append (a : Attempt) (ha : a.outcome = none) :
    held window n (attempts ++ [a]) = held window n attempts + if window a = n then 1 else 0 := by
  have hholds : a.holds = true := by rw [Attempt.holds, ha]
  simp [held, List.countP_append, List.countP_singleton, hholds]

/-- An attempt of the window that is settled holds its slot on, or gives it back. -/
theorem held_settle {i : ℕ} {a : Attempt} (hi : attempts[i]? = some a) (ha : a.outcome = none)
    {b : Attempt} (hwindow : window b = window a) :
    held window n (attempts.set i b) + (if window a = n ∧ b.holds = false then 1 else 0) = held window n attempts := by
  obtain ⟨hlt, rfl⟩ := List.getElem?_eq_some_iff.1 hi
  have hholds : attempts[i].holds = true := by rw [Attempt.holds, ha]
  unfold held
  rw [List.countP_set hlt]
  simp only [hwindow, hholds, Bool.and_true, decide_eq_true_eq, Bool.and_eq_true]
  by_cases hn : window attempts[i] = n
  · have hpos : 0 < attempts.countP fun a => decide (window a = n) && a.holds :=
      List.countP_pos_iff.2 ⟨_, List.getElem_mem hlt, by simp [hn, hholds]⟩
    cases b.holds <;> simp only [hn, true_and, if_true, if_false, reduceCtorEq, Bool.false_eq_true] <;> omega
  · simp [hn]

theorem held_eq_zero (h : ∀ a ∈ attempts, window a ≠ n) : held window n attempts = 0 := by
  rw [held, List.countP_eq_zero]
  intro a ha
  simp [h a ha]

end Held

/-- A window in use counts the slots that attempts granted in it hold, and no window had more than `cap`. -/
structure WindowInv (window : Attempt → ℕ) (cap : ℕ) (inUse : Bool) (count : ℤ) (current : ℕ)
    (attempts : List Attempt) : Prop where
  le : ∀ a ∈ attempts, window a ≤ current
  capped : ∀ n, 1 ≤ n → held window n attempts ≤ cap
  counts : inUse = true → 1 ≤ current → count = held window current attempts

section WindowInv
variable {window : Attempt → ℕ} {cap current : ℕ} {inUse inUse' : Bool} {count count' : ℤ} {attempts : List Attempt}

/-- A window that starts again, with one attempt. -/
theorem WindowInv.restart (h : WindowInv window cap inUse count current attempts) (hcap : 1 ≤ cap) {a : Attempt}
    (ha : a.outcome = none) (hwindow : window a = current + 1) :
    WindowInv window cap true 1 (current + 1) (attempts ++ [a]) := by
  have hzero : held window (current + 1) attempts = 0 := by
    apply held_eq_zero
    intro b hb
    have := h.le b hb
    omega
  constructor
  · intro b hb
    rcases List.mem_append.1 hb with hb | hb
    · have := h.le b hb
      omega
    · rw [List.mem_singleton.1 hb]
      omega
  · intro n hn
    rw [held_append a ha, hwindow]
    split
    · rename_i heq
      rw [← heq, hzero]
      exact hcap
    · exact h.capped n hn
  · intro _ _
    rw [held_append a ha, hzero, if_pos hwindow]
    rfl

/-- One more attempt in a window that is not full. -/
theorem WindowInv.grant (h : WindowInv window cap true count current attempts) (hroom : count < cap) {a : Attempt}
    (ha : a.outcome = none) (hwindow : window a = current) :
    WindowInv window cap true (count + 1) current (attempts ++ [a]) := by
  constructor
  · intro b hb
    rcases List.mem_append.1 hb with hb | hb
    · exact h.le b hb
    · rw [List.mem_singleton.1 hb]
      omega
  · intro n hn
    rw [held_append a ha, hwindow]
    split
    · rename_i heq
      subst heq
      have := h.counts rfl hn
      omega
    · exact h.capped n hn
  · intro _ hcurrent
    have := h.counts rfl hcurrent
    rw [held_append a ha, if_pos hwindow]
    push_cast
    omega

/-- An attempt is granted: the window is over and starts again, or it is in use and not full. -/
theorem WindowInv.reserve (h : WindowInv window cap inUse count current attempts) (hcap : 1 ≤ cap) {ended : Bool}
    (hopen : ended = false → inUse = true ∧ count < cap) {a : Attempt} (ha : a.outcome = none)
    (hwindow : window a = if ended then current + 1 else current) :
    WindowInv window cap true (if ended then 1 else count + 1) (if ended then current + 1 else current)
      (attempts ++ [a]) := by
  cases ended with
  | true => exact h.restart hcap ha hwindow
  | false =>
      obtain ⟨rfl, hroom⟩ := hopen rfl
      exact h.grant hroom ha hwindow

/-- An attempt is settled, and the window counts one less exactly where it gave back a slot of it. -/
theorem WindowInv.settle (h : WindowInv window cap inUse count current attempts) {i : ℕ} {a b : Attempt}
    (hi : attempts[i]? = some a) (ha : a.outcome = none) (hwindow : window b = window a)
    (hcount : inUse' = true → inUse = true ∧
      (1 ≤ current → count' + (if window a = current ∧ b.holds = false then 1 else 0) = count)) :
    WindowInv window cap inUse' count' current (attempts.set i b) := by
  constructor
  · intro c hc
    rcases List.mem_or_eq_of_mem_set hc with hc | rfl
    · exact h.le c hc
    · rw [hwindow]
      exact h.le a (List.mem_of_getElem? hi)
  · intro n hn
    have hheld := held_settle (n := n) hi ha hwindow
    have := h.capped n hn
    omega
  · intro huse hcurrent
    obtain ⟨huse, hcount⟩ := hcount huse
    have hheld := held_settle (n := current) hi ha hwindow
    have hcounts := h.counts huse hcurrent
    have := hcount hcurrent
    split at hheld <;> simp_all
    omega

/-- The slot that is given back is one of the window, or there is none to give back. -/
theorem count_giveBack (h : WindowInv window cap inUse count current attempts) {i : ℕ} {a : Attempt}
    (hi : attempts[i]? = some a) (ha : a.outcome = none) (hown : 0 < count → window a = current)
    (huse : inUse = true) (hcurrent : 1 ≤ current) :
    max (count - 1) 0 + (if window a = current then 1 else 0) = count := by
  have hcounts := h.counts huse hcurrent
  by_cases hcur : window a = current
  · have hpos : 0 < held window current attempts := by
      apply List.countP_pos_iff.2
      exact ⟨a, List.mem_of_getElem? hi, by simp [hcur, Attempt.holds, ha]⟩
    rw [if_pos hcur]
    omega
  · rw [if_neg hcur]
    have : ¬ 0 < count := fun hpos => hcur (hown hpos)
    omega

end WindowInv

/-! ## Requests in any order -/

def ThrottleState.windowUsed (s : ThrottleState) : Bool := s.row.any (·.windowStart.isSome)
def ThrottleState.dayUsed (s : ThrottleState) : Bool := s.row.any (·.dayStart.isSome)

def ThrottleState.windowFailures (s : ThrottleState) : ℤ := (s.row.map ThrottleRow.windowFailures).getD 0
def ThrottleState.dayFailures (s : ThrottleState) : ℤ := (s.row.map ThrottleRow.dayFailures).getD 0

structure ThrottleInv (s : ThrottleState) : Prop where
  window : WindowInv Attempt.window codeWindowMax s.windowUsed s.windowFailures s.windows s.attempts
  day : WindowInv Attempt.day codeDayMax s.dayUsed s.dayFailures s.days s.attempts

section Steps
variable {s t : ThrottleState}

theorem windowStart_of_not_over {t : ThrottleRow} {now : ℤ} (h : t.windowOver now = false) :
    t.windowStart.isSome = true := by
  unfold ThrottleRow.windowOver at h
  cases hstart : t.windowStart with
  | none => simp [hstart] at h
  | some start => rfl

theorem dayStart_of_not_over {t : ThrottleRow} {now : ℤ} (h : t.dayOver now = false) : t.dayStart.isSome = true := by
  unfold ThrottleRow.dayOver at h
  cases hstart : t.dayStart with
  | none => simp [hstart] at h
  | some start => rfl

theorem ThrottleInv.reserve (h : ThrottleInv s) (now : ℤ) (hs : grantAttempt s now = some t) : ThrottleInv t := by
  unfold grantAttempt at hs
  cases hrow : s.row with
  | none =>
      simp only [hrow, reserveCodeAttempt, Option.all_none, if_true, Option.some.injEq] at hs
      subst hs
      exact ⟨h.window.restart (by decide) rfl rfl, h.day.restart (by decide) rfl rfl⟩
  | some row =>
      obtain ⟨hwindow, hday⟩ := h
      have hused : s.windowUsed = row.windowStart.isSome := by simp [ThrottleState.windowUsed, hrow]
      have hused' : s.dayUsed = row.dayStart.isSome := by simp [ThrottleState.dayUsed, hrow]
      have hcount : s.windowFailures = row.windowFailures := by simp [ThrottleState.windowFailures, hrow]
      have hcount' : s.dayFailures = row.dayFailures := by simp [ThrottleState.dayFailures, hrow]
      rw [hused, hcount] at hwindow
      rw [hused', hcount'] at hday
      simp only [hrow, reserveCodeAttempt, Option.all_some] at hs
      split at hs
      · cases hs
        exact ⟨by rw [hused, hcount]; exact hwindow, by rw [hused', hcount']; exact hday⟩
      · rename_i row' hgranted
        split at hgranted
        · rename_i hroom
          simp only [Bool.and_eq_true, Bool.or_eq_true, decide_eq_true_eq] at hroom
          obtain ⟨⟨-, hwroom⟩, hdroom⟩ := hroom
          rw [Option.some.injEq] at hgranted hs
          subst hgranted hs
          constructor
          · have hstart : (if row.windowOver now then some now else row.windowStart).isSome = true := by
              cases hover : row.windowOver now with
              | true => rfl
              | false => exact windowStart_of_not_over hover
            simp only [ThrottleState.windowUsed, Option.any_some, hstart]
            exact hwindow.reserve (by decide)
              (fun hover => ⟨windowStart_of_not_over hover, hwroom.resolve_left (by simp [hover])⟩) rfl rfl
          · have hstart : (if row.dayOver now then some now else row.dayStart).isSome = true := by
              cases hover : row.dayOver now with
              | true => rfl
              | false => exact dayStart_of_not_over hover
            simp only [ThrottleState.dayUsed, Option.any_some, hstart]
            exact hday.reserve (by decide)
              (fun hover => ⟨dayStart_of_not_over hover, hdroom.resolve_left (by simp [hover])⟩) rfl rfl
        · cases hgranted

theorem ThrottleInv.settle (h : ThrottleInv s) {i : ℕ} {outcome : Outcome} {email : Bool}
    (hown : OwnSlot s (.settle i outcome email)) (hs : settleCodeAttempt s i outcome email = some t) :
    ThrottleInv t := by
  unfold settleCodeAttempt at hs
  split at hs
  · rename_i a hi
    split at hs
    · rename_i hopen
      have ha : a.outcome = none := by simpa using hopen
      dsimp only at hs
      split at hs
      · rename_i hfailure
        cases hs
        subst hfailure
        refine ⟨h.window.settle hi ha rfl ?_, h.day.settle hi ha rfl ?_⟩ <;>
          exact fun huse => ⟨huse, fun _ => by simp [Attempt.holds, ThrottleState.windowFailures, ThrottleState.dayFailures]⟩
      · rename_i hback
        cases hs
        cases hrow : s.row with
        | none =>
            refine ⟨h.window.settle hi ha rfl ?_, h.day.settle hi ha rfl ?_⟩ <;>
              simp [ThrottleState.windowUsed, ThrottleState.dayUsed, hrow]
        | some row =>
            obtain ⟨hvoid, hdayOwn⟩ := hown a hi row hrow
            have hcount : s.windowFailures = row.windowFailures := by simp [ThrottleState.windowFailures, hrow]
            have hcount' : s.dayFailures = row.dayFailures := by simp [ThrottleState.dayFailures, hrow]
            constructor
            · refine h.window.settle hi ha rfl fun huse => ?_
              cases outcome with
              | success => simp [ThrottleState.windowUsed, giveBack] at huse
              | void =>
                  have huse' : s.windowUsed = true := by
                    simpa [ThrottleState.windowUsed, hrow, giveBack] using huse
                  refine ⟨huse', fun hcurrent => ?_⟩
                  have hless := count_giveBack h.window hi ha (hcount ▸ hvoid rfl) huse' hcurrent
                  simpa [ThrottleState.windowFailures, hrow, giveBack, Attempt.holds] using hless
              | failure => exact absurd rfl hback
            · refine h.day.settle hi ha rfl fun huse => ?_
              have huse' : s.dayUsed = true := by
                cases outcome <;> simpa [ThrottleState.dayUsed, hrow, giveBack] using huse
              refine ⟨huse', fun hcurrent => ?_⟩
              have hless := count_giveBack h.day hi ha (hcount' ▸ hdayOwn hback) huse' hcurrent
              cases outcome with
              | success => simpa [ThrottleState.dayFailures, hrow, giveBack, Attempt.holds] using hless
              | void => simpa [ThrottleState.dayFailures, hrow, giveBack, Attempt.holds] using hless
              | failure => exact absurd rfl hback
    · cases hs
  · cases hs

/-- The lock and the notice leave the windows alone. -/
theorem ThrottleInv.of_row (h : ThrottleInv s) {f : ThrottleRow → ThrottleRow}
    (hf : ∀ r, (f r).windowStart = r.windowStart ∧ (f r).windowFailures = r.windowFailures ∧
      (f r).dayStart = r.dayStart ∧ (f r).dayFailures = r.dayFailures) (settling : List Settling) :
    ThrottleInv { s with settling := settling, row := s.row.map f } := by
  have hsame : (s.row.map f).any (·.windowStart.isSome) = s.windowUsed ∧
      ((s.row.map f).map ThrottleRow.windowFailures).getD 0 = s.windowFailures ∧
      (s.row.map f).any (·.dayStart.isSome) = s.dayUsed ∧
      ((s.row.map f).map ThrottleRow.dayFailures).getD 0 = s.dayFailures := by
    unfold ThrottleState.windowUsed ThrottleState.windowFailures ThrottleState.dayUsed ThrottleState.dayFailures
    cases s.row with
    | none => exact ⟨rfl, rfl, rfl, rfl⟩
    | some r =>
        obtain ⟨h₁, h₂, h₃, h₄⟩ := hf r
        simp [h₁, h₂, h₃, h₄]
  obtain ⟨h₁, h₂, h₃, h₄⟩ := hsame
  exact ⟨by rw [ThrottleState.windowUsed, ThrottleState.windowFailures, h₁, h₂]; exact h.window,
    by rw [ThrottleState.dayUsed, ThrottleState.dayFailures, h₃, h₄]; exact h.day⟩

theorem ThrottleInv.statement (h : ThrottleInv s) {j : ℕ} {now : ℤ} (hs : runSettling s j now = some t) :
    ThrottleInv t := by
  unfold runSettling at hs
  split at hs
  · cases hs
    split
    · refine h.of_row (fun r => ?_) _
      unfold lockStatement
      split <;> exact ⟨rfl, rfl, rfl, rfl⟩
    · exact ⟨h.window, h.day⟩
  · cases hs
    split
    · refine h.of_row (fun r => ?_) _
      unfold noticeStatement
      split <;> exact ⟨rfl, rfl, rfl, rfl⟩
    · exact ⟨h.window, h.day⟩
  · cases hs

theorem ThrottleInv.init (h : throttleMachine.init s) : ThrottleInv s := by
  obtain ⟨hattempts, -, hwindows, hdays⟩ := h
  have hstart (window : Attempt → ℕ) (cap : ℕ) (inUse : Bool) (count : ℤ) :
      WindowInv window cap inUse count 0 [] :=
    ⟨fun _ ha => absurd ha List.not_mem_nil, fun _ _ => Nat.zero_le _, fun _ hone => absurd hone (by decide)⟩
  exact ⟨by rw [hattempts, hwindows]; exact hstart _ _ _ _, by rw [hattempts, hdays]; exact hstart _ _ _ _⟩

/-- **No window has more failures than its cap**, in every run in which slots are given back to the windows they
were taken from. -/
theorem code_attempts_capped (h : Reach throttleMachine OwnSlot s) : Capped s := by
  have hinv : ThrottleInv s := by
    refine h.invariant (fun _ => ThrottleInv.init) fun s op t hi hown hs => ?_
    cases op with
    | reserve now => exact hi.reserve now hs
    | settle i outcome email => exact hi.settle hown hs
    | statement j now => exact hi.statement hs
  intro n hn
  exact ⟨Nat.le_trans failures_le_held (hinv.window.capped n hn), Nat.le_trans failures_le_held (hinv.day.capped n hn)⟩

end Steps

/-! ## A slot of the window before -/

def newUser : ThrottleState := ⟨none, [], [], 0, 0⟩

/-- A void attempt and a failure, within a window. -/
theorem window_counts_failures : ∃ s, Reach throttleMachine OwnSlot s ∧
    failures Attempt.window 1 s.attempts = 1 ∧ Capped s := by
  have hadmits : throttleMachine.Admits OwnSlot newUser
      [.reserve 0, .reserve 1, .settle 0 .void false, .settle 1 .failure false] := by decide
  obtain ⟨s, hexec, hone⟩ : ∃ s, throttleMachine.exec newUser
      [.reserve 0, .reserve 1, .settle 0 .void false, .settle 1 .failure false] = some s ∧
      failures Attempt.window 1 s.attempts = 1 := ⟨_, rfl, by decide⟩
  have hinit : throttleMachine.init newUser := ⟨rfl, rfl, rfl, rfl⟩
  have hreach := (Reach.start hinit).of_exec _ hadmits hexec
  exact ⟨s, hreach, hone, code_attempts_capped hreach⟩

/-- An attempt of the first window is void in the second, where eleven attempts fail. -/
def lateVoidOps : List ThrottleOp :=
  [.reserve 0, .reserve windowMs, .settle 0 .void false] ++ List.replicate 10 (.reserve windowMs) ++
    (List.range 11).map fun k => .settle (k + 1) .failure false

theorem late_void_exceeds_cap : ¬ ∀ s, Reach throttleMachine anyStep s → Capped s := by
  have hinit : throttleMachine.init newUser := ⟨rfl, rfl, rfl, rfl⟩
  apply not_forall_reach hinit lateVoidOps
  have hrun : (throttleMachine.exec newUser lateVoidOps).map (fun s => failures Attempt.window 2 s.attempts) =
      some 11 := by decide
  obtain ⟨s, hs, hfailures⟩ := Option.map_eq_some_iff.1 hrun
  refine ⟨s, hs, fun hcapped => ?_⟩
  have := (hcapped 2 (by decide)).1
  rw [hfailures] at this
  exact absurd this (by decide)

end Obliance.StepUp
