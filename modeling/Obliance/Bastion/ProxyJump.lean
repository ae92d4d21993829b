import Mathlib.Logic.Function.Basic
import Obliance.Js.Number
import Obliance.Lib.GuardedRun

/-!
# ProxyJump channels (`services/sshBastion/proxyJump.ts`)

`handleProxyJump` compares the user's open channels with `MAX_JUMPS_PER_USER` when a request arrives and counts
the channel when it is accepted, several awaited steps later.

* `versionAtLeast`, `begin`, `resume` : the handler, cut where it awaits;
* `jumpMachine` : any number of requests of any users, in any order of their steps;
* `Lawful` : no user has more open channels than the limit, and the counter is their number;
* `counted_of_reach` : the counter is right in every run;
* `lawful_of_reach` : the limit holds in every run that starts no request while the user's channels and
  requests in preparation fill it;
* `twenty_one_channels` : without that it does not.
-/

namespace Obliance.Bastion
open GuardedRun

def maxJumpsPerUser : ℕ := 20

def proxyJumpMinAgent : List Char := "4.5.79".toList

/-- `String(v || '').split(/[.+-]/).map((x) => parseInt(x, 10) || 0)` -/
def versionNumbers (v : List Char) : List ℕ :=
  (v.splitOnP fun c => c = '.' || c = '+' || c = '-').map fun x =>
    ((x.dropWhile Js.isJsSpace).takeWhile Char.isDigit).foldl (fun n c => n * 10 + (c.toNat - 48)) 0

/-- The loop over the first three numbers. -/
def atLeast : ℕ → List ℕ → List ℕ → Bool
  | 0, _, _ => true
  | n + 1, a, b =>
      if a.head?.getD 0 ≠ b.head?.getD 0 then decide (b.head?.getD 0 < a.head?.getD 0) else atLeast n a.tail b.tail

def versionAtLeast (v : Option (List Char)) (min : List Char) : Bool :=
  atLeast 3 (versionNumbers (v.getD [])) (versionNumbers min)

example : versionAtLeast (some "4.5.100-beta".toList) proxyJumpMinAgent = true := by decide +kernel

/-! ## The handler -/

/-- What `resolveMachine` finds. -/
structure JumpDevice where
  osType : String
  agentVersion : Option (List Char)

/-- A `direct-tcpip` channel that a client asks for; `target` is cleaned. -/
structure JumpRequest where
  userId : ℕ
  target : List Char
  /-- `authorizedKeyFromBlob` makes a key line of the user's key. -/
  usableKey : Bool

/-- Where a request is: the step it awaits, an open channel, or a closed one that is still counted. -/
inductive Phase where
  | resolveMachine
  | resolveAlias
  | authorizeJump
  | importUserKeys
  | insertGrant
  | requestGrant
  | markError
  | markActive
  | createSession
  | revokeUnopened
  | opened
  | closing
  | revokeGrant
  | finished
  deriving DecidableEq, Repr

/-- How an awaited step ends. -/
inductive Answer where
  | rejects
  | resolves
  | machines (found : List JumpDevice)
  | decision (ok connected : Bool)
  | grant (success : Bool)
  | session (accepted : Bool)

/-- Up to the first awaited step, with the user's count. -/
def begin (active : ℕ) (r : JumpRequest) : Phase :=
  if r.target = [] then .finished
  else if maxJumpsPerUser ≤ active then .finished
  else .resolveMachine

/-- The only machine found, with its checks. -/
def checkMachines : List JumpDevice → Phase
  | [dev] =>
      if dev.osType ≠ "linux" then .finished
      else if versionAtLeast dev.agentVersion proxyJumpMinAgent = false then .finished
      else .authorizeJump
  | _ => .finished

/-- From one awaited step to the next, `none` for an answer that the step does not give. -/
def resume (r : JumpRequest) : Phase → Answer → Option Phase
  | .resolveMachine, .machines found =>
      if found.length = 0 ∧ '.' ∈ r.target then some .resolveAlias else some (checkMachines found)
  | .resolveAlias, .machines found => some (checkMachines found)
  | .authorizeJump, .decision ok connected =>
      some (if ok && connected && r.usableKey then .importUserKeys else .finished)
  | .importUserKeys, .resolves => some .insertGrant
  | .insertGrant, .resolves => some .requestGrant
  | .requestGrant, .grant success => some (if success then .markActive else .markError)
  | .markError, .resolves => some .finished
  | .markError, .rejects => some .finished
  | .markActive, .resolves => some .createSession
  | .markActive, .rejects => some .createSession
  | .createSession, .session accepted => some (if accepted then .opened else .revokeGrant)
  | .createSession, .rejects => some .revokeUnopened
  | .revokeUnopened, .resolves => some .finished
  | .revokeGrant, .resolves => some .finished
  | .resolveMachine, .rejects => some .finished
  | .resolveAlias, .rejects => some .finished
  | .authorizeJump, .rejects => some .finished
  | .importUserKeys, .rejects => some .finished
  | .insertGrant, .rejects => some .finished
  | .requestGrant, .rejects => some .finished
  | .revokeUnopened, .rejects => some .finished
  | .revokeGrant, .rejects => some .finished
  | _, _ => none

/-! ## The machine -/

structure Jump where
  request : JumpRequest
  phase : Phase

structure JumpState where
  activeJumps : ℕ → Option ℕ
  jumps : List Jump

inductive JumpEvent where
  | request (r : JumpRequest)
  | answer (i : ℕ) (a : Answer)
  /-- The bridge of an open channel is done. -/
  | close (i : ℕ)
  /-- The handler goes on behind it. -/
  | settle (i : ℕ)

def JumpState.count (s : JumpState) (userId : ℕ) : ℕ := (s.activeJumps userId).getD 0

/-- `set(userId, (get(userId) || 0) + 1)` -/
def countUp (m : ℕ → Option ℕ) (userId : ℕ) : ℕ → Option ℕ :=
  Function.update m userId (some ((m userId).getD 0 + 1))

/-- `(get(userId) || 1) - 1`, deleted at zero. -/
def countDown (m : ℕ → Option ℕ) (userId : ℕ) : ℕ → Option ℕ :=
  let n := (if (m userId).getD 0 = 0 then 1 else (m userId).getD 0) - 1
  Function.update m userId (if n = 0 then none else some n)

def JumpState.setPhase (s : JumpState) (i : ℕ) (j : Jump) (p : Phase) : JumpState :=
  { s with jumps := s.jumps.set i { j with phase := p } }

def jumpStep (s : JumpState) : JumpEvent → Option JumpState
  | .request r => some { s with jumps := s.jumps ++ [⟨r, begin (s.count r.userId) r⟩] }
  | .answer i a =>
      match s.jumps[i]? with
      | none => none
      | some j =>
          (resume j.request j.phase a).map fun p =>
            let s := s.setPhase i j p
            if p = .opened then { s with activeJumps := countUp s.activeJumps j.request.userId } else s
  | .close i =>
      match s.jumps[i]? with
      | none => none
      | some j => if j.phase = .opened then some (s.setPhase i j .closing) else none
  | .settle i =>
      match s.jumps[i]? with
      | none => none
      | some j =>
          if j.phase = .closing then
            let s := s.setPhase i j .revokeGrant
            some { s with activeJumps := countDown s.activeJumps j.request.userId }
          else none

def jumpMachine : Machine JumpState JumpEvent where
  init s := s.activeJumps = (fun _ => none) ∧ s.jumps = []
  step := jumpStep

/-- The requests of a user in some phases. -/
def JumpState.inPhase (s : JumpState) (userId : ℕ) (phases : List Phase) : ℕ :=
  s.jumps.countP fun j => decide (j.request.userId = userId ∧ j.phase ∈ phases)

def JumpState.openJumps (s : JumpState) (userId : ℕ) : ℕ := s.inPhase userId [.opened]

/-- The phases of a request that may still be accepted. -/
def preparing : List Phase :=
  [.resolveMachine, .resolveAlias, .authorizeJump, .importUserKeys, .insertGrant, .requestGrant, .markActive,
    .createSession]

def Lawful (s : JumpState) : Prop :=
  ∀ userId, s.openJumps userId ≤ maxJumpsPerUser ∧
    ((∀ j ∈ s.jumps, j.request.userId = userId → j.phase ≠ .closing) → s.count userId = s.openJumps userId)

/-- A request does not pass the check while the user's open channels and requests in preparation fill the
limit. -/
def hasRoom (s : JumpState) : JumpEvent → Prop
  | .request r => s.count r.userId < maxJumpsPerUser →
      s.count r.userId + s.inPhase r.userId preparing < maxJumpsPerUser
  | _ => True

/-! ## The counter -/

section Counter
variable {s t : JumpState} {i : ℕ} {j : Jump} {p : Phase} {phases : List Phase}

theorem inPhase_append (r : JumpRequest) (p : Phase) (userId : ℕ) :
    JumpState.inPhase { s with jumps := s.jumps ++ [⟨r, p⟩] } userId phases =
      s.inPhase userId phases + if r.userId = userId ∧ p ∈ phases then 1 else 0 := by
  simp only [JumpState.inPhase, List.countP_append, List.countP_singleton, decide_eq_true_eq]

/-- A new phase takes a request of its user out of the old one. -/
theorem inPhase_setPhase (phases : List Phase) (hj : s.jumps[i]? = some j) (p : Phase) (userId : ℕ) :
    (s.setPhase i j p).inPhase userId phases + (if j.request.userId = userId ∧ j.phase ∈ phases then 1 else 0) =
      s.inPhase userId phases + if j.request.userId = userId ∧ p ∈ phases then 1 else 0 := by
  obtain ⟨hi, rfl⟩ := List.getElem?_eq_some_iff.1 hj
  have hset : (s.setPhase i s.jumps[i] p).inPhase userId phases =
      s.inPhase userId phases - (if s.jumps[i].request.userId = userId ∧ s.jumps[i].phase ∈ phases then 1 else 0) +
        if s.jumps[i].request.userId = userId ∧ p ∈ phases then 1 else 0 := by
    unfold JumpState.inPhase JumpState.setPhase
    rw [List.countP_set hi]
    simp only [decide_eq_true_eq]
  have hpos : s.jumps[i].request.userId = userId ∧ s.jumps[i].phase ∈ phases → 0 < s.inPhase userId phases :=
    fun hold => List.countP_pos_iff.2 ⟨_, List.getElem_mem hi, decide_eq_true hold⟩
  rw [hset]
  by_cases hold : s.jumps[i].request.userId = userId ∧ s.jumps[i].phase ∈ phases
  · have := hpos hold
    rw [if_pos hold]
    omega
  · rw [if_neg hold]
    omega

/-- The counter has the channels that are open, or closed and not yet settled. -/
def Counted (s : JumpState) : Prop := ∀ userId, s.count userId = s.inPhase userId [.opened, .closing]

theorem count_countUp (s : JumpState) (jumps : List Jump) (user userId : ℕ) :
    JumpState.count ⟨countUp s.activeJumps user, jumps⟩ userId =
      s.count userId + if user = userId then 1 else 0 := by
  unfold JumpState.count countUp
  dsimp only
  by_cases h : user = userId
  · subst h
    simp
  · rw [Function.update_of_ne (Ne.symm h), if_neg h, Nat.add_zero]

theorem count_countDown (s : JumpState) (jumps : List Jump) (user userId : ℕ) :
    JumpState.count ⟨countDown s.activeJumps user, jumps⟩ userId =
      s.count userId - if user = userId then 1 else 0 := by
  unfold JumpState.count countDown
  dsimp only
  by_cases h : user = userId
  · subst h
    rw [Function.update_self, if_pos rfl]
    split_ifs with hzero hone <;> simp at * <;> omega
  · rw [Function.update_of_ne (Ne.symm h), if_neg h, Nat.sub_zero]

theorem checkMachines_phase (found : List JumpDevice) :
    checkMachines found = .finished ∨ checkMachines found = .authorizeJump := by
  unfold checkMachines
  split
  · split_ifs <;> simp
  · exact .inl rfl

/-- A step that is awaited goes on to a step of the same part of the handler, or the channel is accepted. -/
theorem resume_phases {r : JumpRequest} {p q : Phase} {a : Answer} (h : resume r p a = some q) :
    p ∉ [.opened, .closing] ∧ q ≠ .closing ∧ (q ∈ preparing ∨ q = .opened → p ∈ preparing) := by
  unfold resume at h
  split at h
  case h_1 found =>
    split_ifs at h
    · obtain rfl := Option.some.inj h
      decide
    · obtain rfl := Option.some.inj h
      rcases checkMachines_phase found with hc | hc <;> rw [hc] <;> decide
  case h_2 found =>
    obtain rfl := Option.some.inj h
    rcases checkMachines_phase found with hc | hc <;> rw [hc] <;> decide
  all_goals
    first
    | (obtain rfl := Option.some.inj h; first | decide | (split_ifs <;> decide))
    | cases h

/-- An answered step goes to a phase, which opens the channel or not. -/
theorem answer_cases {a : Answer} (h : jumpStep s (.answer i a) = some t) :
    ∃ j p, s.jumps[i]? = some j ∧ resume j.request j.phase a = some p ∧
      t = { s.setPhase i j p with
            activeJumps := if p = .opened then countUp s.activeJumps j.request.userId else s.activeJumps } := by
  cases hj : s.jumps[i]? with
  | none =>
      rw [jumpStep, hj] at h
      cases h
  | some j =>
      rw [jumpStep, hj] at h
      obtain ⟨p, hp, rfl⟩ := Option.map_eq_some_iff.1 h
      refine ⟨j, p, rfl, hp, ?_⟩
      split_ifs <;> rfl

theorem close_cases (h : jumpStep s (.close i) = some t) :
    ∃ j, s.jumps[i]? = some j ∧ j.phase = .opened ∧ t = s.setPhase i j .closing := by
  cases hj : s.jumps[i]? with
  | none =>
      rw [jumpStep, hj] at h
      cases h
  | some j =>
      rw [jumpStep, hj] at h
      dsimp only at h
      split_ifs at h with hopen
      exact ⟨j, rfl, hopen, (Option.some.inj h).symm⟩

theorem settle_cases (h : jumpStep s (.settle i) = some t) :
    ∃ j, s.jumps[i]? = some j ∧ j.phase = .closing ∧
      t = { s.setPhase i j .revokeGrant with activeJumps := countDown s.activeJumps j.request.userId } := by
  cases hj : s.jumps[i]? with
  | none =>
      rw [jumpStep, hj] at h
      cases h
  | some j =>
      rw [jumpStep, hj] at h
      dsimp only at h
      split_ifs at h with hclosing
      exact ⟨j, rfl, hclosing, (Option.some.inj h).symm⟩

theorem begin_phase (n : ℕ) (r : JumpRequest) :
    begin n r = .finished ∨ begin n r = .resolveMachine ∧ n < maxJumpsPerUser := by
  unfold begin
  split_ifs with h1 h2
  · exact .inl rfl
  · exact .inl rfl
  · exact .inr ⟨rfl, Nat.lt_of_not_le h2⟩

theorem counted_step {e : JumpEvent} (h : Counted s) (hstep : jumpStep s e = some t) : Counted t := by
  intro userId
  have hold := h userId
  cases e with
  | request r =>
      obtain rfl := Option.some.inj hstep
      have hbegin : begin (s.count r.userId) r ∉ [.opened, .closing] := by
        rcases begin_phase (s.count r.userId) r with hb | ⟨hb, -⟩ <;> rw [hb] <;> decide
      rw [inPhase_append, if_neg fun hin => hbegin hin.2]
      exact hold
  | answer i a =>
      obtain ⟨j, p, hj, hp, rfl⟩ := answer_cases hstep
      obtain ⟨hfrom, hto, -⟩ := resume_phases hp
      have hmove := inPhase_setPhase [.opened, .closing] hj p userId
      rw [if_neg fun hin => hfrom hin.2, Nat.add_zero] at hmove
      by_cases hopen : p = .opened
      · rw [if_pos hopen]
        refine (count_countUp s _ _ _).trans ?_
        rw [hold]
        exact (hmove.trans (by simp [hopen])).symm
      · rw [if_neg hopen]
        refine hold.trans ?_
        exact (hmove.trans (by simp [hopen, hto])).symm
  | close i =>
      obtain ⟨j, hj, hopen, rfl⟩ := close_cases hstep
      have hmove := inPhase_setPhase [.opened, .closing] hj .closing userId
      simp only [hopen, List.mem_cons, true_or, or_true, and_true] at hmove
      exact hold.trans (by omega)
  | settle i =>
      obtain ⟨j, hj, hclosing, rfl⟩ := settle_cases hstep
      have hmove := inPhase_setPhase [.opened, .closing] hj .revokeGrant userId
      simp [hclosing] at hmove
      refine (count_countDown s _ _ _).trans ?_
      rw [hold]
      exact Nat.sub_eq_of_eq_add hmove.symm

theorem counted_of_reach {ok : JumpState → JumpEvent → Prop} (h : Reach jumpMachine ok s) : Counted s := by
  refine h.invariant (I := Counted) ?_ fun _ _ _ hs _ hstep => counted_step hs hstep
  rintro s ⟨hmap, hjumps⟩ userId
  simp [JumpState.count, JumpState.inPhase, hmap, hjumps]

end Counter

/-! ## The limit -/

section Limit
variable {s t : JumpState}

/-- What is counted or may still be counted. -/
def Booked (s : JumpState) : Prop :=
  ∀ userId, s.count userId + s.inPhase userId preparing ≤ maxJumpsPerUser

theorem booked_step {e : JumpEvent} (h : Booked s) (hok : hasRoom s e) (hstep : jumpStep s e = some t) :
    Booked t := by
  intro userId
  have hold := h userId
  cases e with
  | request r =>
      obtain rfl := Option.some.inj hstep
      rw [inPhase_append]
      show s.count userId + _ ≤ _
      rcases begin_phase (s.count r.userId) r with hb | ⟨hb, hlt⟩
      · rw [hb, if_neg fun hin => absurd hin.2 (by decide)]
        exact hold
      · by_cases huser : r.userId = userId
        · have hroom := hok hlt
          rw [huser] at hroom
          split_ifs <;> omega
        · rw [if_neg fun hin => huser hin.1]
          exact hold
  | answer i a =>
      obtain ⟨j, p, hj, hp, rfl⟩ := answer_cases hstep
      obtain ⟨-, -, hfrom⟩ := resume_phases hp
      have hmove := inPhase_setPhase preparing hj p userId
      by_cases hopen : p = .opened
      · -- the request leaves the preparation as its channel is counted
        have hprep := hfrom (.inr hopen)
        rw [hopen] at hmove
        have hout : Phase.opened ∉ preparing := by decide
        simp only [hprep, hout, and_true, and_false, if_false, Nat.add_zero] at hmove
        rw [if_pos hopen, count_countUp, hopen]
        show s.count userId + _ + (s.setPhase i j .opened).inPhase userId preparing ≤ _
        omega
      · rw [if_neg hopen]
        show s.count userId + (s.setPhase i j p).inPhase userId preparing ≤ _
        by_cases hprep : p ∈ preparing
        · simp only [hprep, hfrom (.inl hprep), and_true] at hmove
          omega
        · simp only [hprep, and_false, if_false] at hmove
          omega
  | close i =>
      obtain ⟨j, hj, hopen, rfl⟩ := close_cases hstep
      have hmove := inPhase_setPhase preparing hj .closing userId
      have hout : Phase.opened ∉ preparing ∧ Phase.closing ∉ preparing := by decide
      simp only [hopen, hout.1, hout.2, and_false, if_false, Nat.add_zero] at hmove
      rw [hmove]
      exact hold
  | settle i =>
      obtain ⟨j, hj, hclosing, rfl⟩ := settle_cases hstep
      have hmove := inPhase_setPhase preparing hj .revokeGrant userId
      have hout : Phase.closing ∉ preparing ∧ Phase.revokeGrant ∉ preparing := by decide
      simp only [hclosing, hout.1, hout.2, and_false, if_false, Nat.add_zero] at hmove
      rw [count_countDown]
      show s.count userId - _ + (s.setPhase i j .revokeGrant).inPhase userId preparing ≤ _
      omega

theorem booked_of_reach (h : Reach jumpMachine hasRoom s) : Booked s := by
  refine h.invariant (I := Booked) ?_ fun _ _ _ hs hok hstep => booked_step hs hok hstep
  rintro s ⟨hmap, hjumps⟩ userId
  simp [JumpState.count, JumpState.inPhase, hmap, hjumps]

theorem openJumps_le_count (h : Counted s) (userId : ℕ) : s.openJumps userId ≤ s.count userId := by
  rw [h userId]
  refine List.countP_mono_left fun j _ hj => ?_
  obtain ⟨huser, hphase⟩ := of_decide_eq_true hj
  exact decide_eq_true ⟨huser, List.mem_cons.2 (.inl (List.mem_singleton.1 hphase))⟩

/-- In a run whose requests find room no user goes over the limit, and the counter is right. -/
theorem lawful_of_reach (h : Reach jumpMachine hasRoom s) : Lawful s := by
  intro userId
  have hcounted := counted_of_reach h
  have hbooked := booked_of_reach h userId
  refine ⟨(openJumps_le_count hcounted userId).trans (by omega), fun hsettled => ?_⟩
  rw [hcounted userId]
  refine List.countP_congr fun j hj => ?_
  have hne := hsettled j hj
  simp only [decide_eq_true_eq, List.mem_cons, List.not_mem_nil, or_false]
  constructor
  · rintro ⟨huser, hphase⟩
    exact ⟨huser, hphase.resolve_right (hne huser)⟩
  · rintro ⟨huser, hphase⟩
    exact ⟨huser, .inl hphase⟩

/-! ### Runs -/

/-- A request for a machine that is found, granted and accepted. -/
def openingAnswers : List Answer :=
  [.machines [⟨"linux", some "4.6.0".toList⟩], .decision true true, .resolves, .resolves, .grant true, .resolves,
    .session true]

def oneRequest : JumpRequest := ⟨7, "web01".toList, true⟩

def noJumps : JumpState := ⟨fun _ => none, []⟩

/-- One channel, opened and closed. -/
theorem one_channel_lawful : ∃ s, Lawful s ∧ s.openJumps 7 = 0 ∧ s.count 7 = 0 := by
  have h0 : Reach jumpMachine hasRoom noJumps := .start ⟨rfl, rfl⟩
  have h1 := h0.next (.request oneRequest) (by intro; decide) rfl
  have h2 := h1.next (.answer 0 (.machines [⟨"linux", some "4.6.0".toList⟩])) (by trivial) rfl
  have h3 := h2.next (.answer 0 (.decision true true)) (by trivial) rfl
  have h4 := h3.next (.answer 0 .resolves) (by trivial) rfl
  have h5 := h4.next (.answer 0 .resolves) (by trivial) rfl
  have h6 := h5.next (.answer 0 (.grant true)) (by trivial) rfl
  have h7 := h6.next (.answer 0 .resolves) (by trivial) rfl
  have h8 := h7.next (.answer 0 (.session true)) (by trivial) rfl
  have h9 := h8.next (.close 0) (by trivial) rfl
  have h10 := h9.next (.settle 0) (by trivial) rfl
  exact ⟨_, lawful_of_reach h10, by decide +kernel, by decide +kernel⟩

/-- Twenty-one requests that arrive before the first is accepted. -/
theorem twenty_one_channels : ¬ ∀ s, Reach jumpMachine anyStep s → Lawful s := by
  have hopen : (jumpMachine.exec noJumps (List.replicate 21 (.request oneRequest) ++
      (List.range 21).flatMap fun i => openingAnswers.map (.answer i))).any
        (fun s => decide (maxJumpsPerUser < s.openJumps 7)) = true := by decide +kernel
  obtain ⟨s, hs, hlt⟩ := (Option.any_eq_true _ _).1 hopen
  exact not_forall_reach (s := noJumps) ⟨rfl, rfl⟩ _
    ⟨s, hs, fun h => absurd (h 7).1 (Nat.not_le.2 (of_decide_eq_true hlt))⟩

end Limit

end Obliance.Bastion
