import Obliance.Agent.Execution
import Obliance.Lib.GuardedRun

/-!
# The privacy gate (`agent/privacy_gate.go`)

The calls run side by side; a locked section and a read or a write of the stored password is one step. The
unlock sessions are those of the gate of the command handlers, `kdf` is `scrypt`.

* `GateCall`, `advanceCall` : where a call stands, and its next step;
* `gateMachine` : calls begun and advanced in any order, checks of tokens, the passing of time;
* `Grounded` : what a positive answer of `CheckUnlockToken` stands on;
* `Lasting` : every positive answer has its grounds, now and for as long as the password is not touched;
* `unlocks_grounded_iff` : that holds along a run exactly when the password is only touched while no unlock
  is in force or on its way.
-/

namespace Obliance.Agent.PrivacyGate
open KeyedTable GuardedRun
open Execution (UnlockSession checkUnlockToken unlockTTL unlockMax checkUnlockToken_eq_true checkUnlockToken_of_session)

/-! ## The stored password and the calls -/

structure GateRecord where
  salt : String
  hash : String
  deriving DecidableEq, Repr

/-- A stored password; `serial` tells the writes apart, nothing reads it. -/
structure StoredPassword where
  record : GateRecord
  serial : ℕ
  deriving DecidableEq, Repr

inductive GateRequest where
  | setPrivacyPassword (password : String)
  | changePrivacyPassword (oldPassword newPassword : String)
  | removePrivacyPassword (password : String)
  | verifyPrivacyPassword (password feature : String)
  | purgeExpiredUnlocks
  deriving DecidableEq, Repr

/-- What `randomToken` returns. -/
abbrev Token := { token : String // token ≠ "" }

/-- Where a call stands: the step it does next. -/
inductive GateCall where
  | begun (request : GateRequest)
  | setRead (password : String)
  | setWrite (password : String)
  | changeRead (oldPassword newPassword : String)
  | changeVerify (oldPassword newPassword : String)
  | changeWrite (newPassword : String)
  | removeRead (password : String)
  | removeVerify (password : String)
  | removeClear
  | removeDelete
  | verifyCompare (password feature : String)
  /-- The password was right; `serial` is that of the one it was compared with. -/
  | verifyPassed (feature : String) (serial : ℕ)
  /-- `time.Now()` is read, the session is inserted next. -/
  | verifyInsert (feature : String) (serial : ℕ) (token : Token) (now : ℤ)
  | purgeLocked (now : ℤ)
  | done
  deriving DecidableEq, Repr

/-- A token that was returned, and when. -/
structure Issue where
  token : String
  feature : String
  issuedAt : ℤ
  serial : ℕ
  deriving DecidableEq, Repr

structure GateState where
  now : ℤ
  privacyMode : Bool
  stored : Option StoredPassword
  nextSerial : ℕ
  activeUnlocks : List UnlockSession
  calls : List GateCall
  /-- The tokens returned, and the checks that were answered with true. Nothing reads these. -/
  issued : List Issue
  used : List (String × ℤ)
  deriving DecidableEq, Repr

/-- What the surroundings answer a step: whether the read, the write or the random source works, and the
random values. -/
structure GateReply where
  ok : Bool
  salt : String
  token : Token

variable (kdf : String → String → String)

/-- `IsPrivacyPasswordSet` -/
def isPasswordSet (s : GateState) (ok : Bool) : Bool :=
  ok && s.stored.any fun p => decide (p.record.hash ≠ "" ∧ p.record.salt ≠ "")

/-- `verifyStoredPassword`, with the serial of the password it read. -/
def verifyStoredPassword (s : GateState) (ok : Bool) (password : String) : Option ℕ :=
  if ok then (s.stored.filter fun p => kdf password p.record.salt = p.record.hash).map StoredPassword.serial
  else none

def writeGate (s : GateState) (record : GateRecord) : GateState :=
  { s with stored := some ⟨record, s.nextSerial⟩, nextSerial := s.nextSerial + 1 }

def hashPassword (password salt : String) : GateRecord := ⟨salt, kdf password salt⟩

/-- Neither limit is over. -/
def InForce (now : ℤ) (u : UnlockSession) : Prop :=
  now - u.createdAt ≤ unlockMax ∧ now - u.lastUsed ≤ unlockTTL

instance (now : ℤ) (u : UnlockSession) : Decidable (InForce now u) := inferInstanceAs (Decidable (_ ∧ _))

/-- `activeUnlocks[token] = &unlockSession{…}` -/
def putSession (activeUnlocks : List UnlockSession) (u : UnlockSession) : List UnlockSession :=
  remove UnlockSession.token activeUnlocks u.token ++ [u]

/-- The next step of a call. -/
def advanceCall (s : GateState) (reply : GateReply) : GateCall → GateState × GateCall
  | .begun (.setPrivacyPassword password) => (s, if s.privacyMode then .done else .setRead password)
  | .setRead password =>
      (s, if isPasswordSet s reply.ok then .done else if password = "" then .done else .setWrite password)
  | .setWrite password =>
      (if reply.ok then writeGate s (hashPassword kdf password reply.salt) else s, .done)
  | .begun (.changePrivacyPassword old new) => (s, if s.privacyMode then .done else .changeRead old new)
  | .changeRead old new => (s, if isPasswordSet s reply.ok then .changeVerify old new else .done)
  | .changeVerify old new =>
      (s, if (verifyStoredPassword kdf s reply.ok old).isSome then
            if new = "" then .done else .changeWrite new
          else .done)
  | .changeWrite new => (if reply.ok then writeGate s (hashPassword kdf new reply.salt) else s, .done)
  | .begun (.removePrivacyPassword password) => (s, if s.privacyMode then .done else .removeRead password)
  | .removeRead password => (s, if isPasswordSet s reply.ok then .removeVerify password else .done)
  | .removeVerify password =>
      (s, if (verifyStoredPassword kdf s reply.ok password).isSome then .removeClear else .done)
  | .removeClear => ({ s with activeUnlocks := [] }, .removeDelete)
  | .removeDelete => (if reply.ok then { s with stored := none } else s, .done)
  | .begun (.verifyPrivacyPassword password feature) =>
      (s, if isPasswordSet s reply.ok then .verifyCompare password feature else .done)
  | .verifyCompare password feature =>
      (s, match verifyStoredPassword kdf s reply.ok password with
        | some serial => .verifyPassed feature serial
        | none => .done)
  | .verifyPassed feature serial =>
      (s, if reply.ok then .verifyInsert feature serial reply.token s.now else .done)
  | .verifyInsert feature serial token now =>
      ({ s with
          activeUnlocks := putSession s.activeUnlocks ⟨token, feature, now, now⟩
          issued := s.issued ++ [⟨token, feature, s.now, serial⟩] }, .done)
  | .begun .purgeExpiredUnlocks => (s, .purgeLocked s.now)
  | .purgeLocked now => ({ s with activeUnlocks := s.activeUnlocks.filter fun u => decide (InForce now u) }, .done)
  | .done => (s, .done)

/-- `CheckUnlockToken`, one locked section. -/
def check (s : GateState) (token feature : String) : GateState :=
  let answer := checkUnlockToken s.now s.activeUnlocks token feature
  { s with
    activeUnlocks := answer.2
    used := if answer.1 then s.used ++ [(token, s.now)] else s.used }

inductive GateOp where
  | call (request : GateRequest)
  | advance (i : ℕ) (reply : GateReply)
  | check (token feature : String)
  | setPrivacyMode (enabled : Bool)
  | elapse (time : ℕ)

def setCall (s : GateState) (i : ℕ) (c : GateCall) : GateState := { s with calls := s.calls.set i c }

def gateStep (s : GateState) : GateOp → Option GateState
  | .call request => some { s with calls := s.calls ++ [.begun request] }
  | .advance i reply => s.calls[i]?.map fun c =>
      let next := advanceCall kdf s reply c
      setCall next.1 i next.2
  | .check token feature => some (check s token feature)
  | .setPrivacyMode enabled => some { s with privacyMode := enabled }
  | .elapse time => some { s with now := s.now + time }

/-- An agent that was just started. -/
structure Fresh (s : GateState) : Prop where
  noUnlocks : s.activeUnlocks = []
  noCalls : s.calls = []
  noIssues : s.issued = []
  noUses : s.used = []
  serial : ∀ p ∈ s.stored, p.serial < s.nextSerial

def gateMachine : Machine GateState GateOp := ⟨Fresh, gateStep kdf⟩

/-! ## The grounds of an unlock -/

/-- The stored password is the one of this serial. -/
def GateState.Holds (s : GateState) (serial : ℕ) : Prop := ∃ p ∈ s.stored, p.serial = serial

/-- **The grounds of an unlock**: the token was returned for the feature or for no feature at most two hours
ago, it was returned or used at most 15 minutes ago, and the password it was verified against is stored. -/
def Grounded (s : GateState) (token feature : String) : Prop :=
  ∃ i ∈ s.issued, i.token = token ∧ (i.feature = feature ∨ i.feature = "") ∧
    i.issuedAt ≤ s.now ∧ s.now - i.issuedAt ≤ unlockMax ∧
    (s.now - i.issuedAt ≤ unlockTTL ∨ ∃ t ≤ s.now, s.now - t ≤ unlockTTL ∧ (token, t) ∈ s.used) ∧
    s.Holds i.serial

def GrantsGrounded (s : GateState) : Prop :=
  ∀ token feature, feature ≠ "" → (checkUnlockToken s.now s.activeUnlocks token feature).1 = true →
    Grounded s token feature

/-- The next step writes or deletes the stored password. -/
def GateCall.touches : GateCall → Bool
  | .setWrite _ | .changeWrite _ | .removeDelete => true
  | _ => false

def touchesPassword (s : GateState) : GateOp → Bool
  | .advance i reply => reply.ok && s.calls[i]?.any GateCall.touches
  | _ => false

/-- Every positive answer has its grounds, in this state and in those that follow while the password is not
touched. -/
def Lasting (s : GateState) : Prop :=
  ∀ t, Reach ((gateMachine kdf).startingAt s) (fun s op => touchesPassword s op = false) t → GrantsGrounded t

/-- A verification that has compared the password and is to insert a session that will be in force. -/
def GateCall.Unlocking (now : ℤ) : GateCall → Prop
  | .verifyPassed _ _ => True
  | .verifyInsert _ _ _ t => now - t ≤ unlockTTL
  | _ => False

instance (now : ℤ) : (c : GateCall) → Decidable (c.Unlocking now)
  | .verifyPassed _ _ => .isTrue trivial
  | .verifyInsert _ _ _ t => inferInstanceAs (Decidable (now - t ≤ unlockTTL))
  | .begun _ | .setRead _ | .setWrite _ | .changeRead _ _ | .changeVerify _ _ | .changeWrite _ | .removeRead _
  | .removeVerify _ | .removeClear | .removeDelete | .verifyCompare _ _ | .purgeLocked _ | .done => .isFalse id

/-- **The steps that leave the unlocks their grounds**: the password is written or deleted only while no
unlock is in force or on its way. -/
def KeepsGrounds (s : GateState) (op : GateOp) : Prop :=
  touchesPassword s op = true →
    (∀ u ∈ s.activeUnlocks, ¬ InForce s.now u) ∧ ∀ c ∈ s.calls, ¬ c.Unlocking s.now

instance (s : GateState) (op : GateOp) : Decidable (KeepsGrounds s op) :=
  inferInstanceAs (Decidable (_ → _ ∧ _))

/-! ## What holds of every state -/

/-- A session goes back to a token that was returned, with the use its second clock counts from; while it is
in force the password is there. -/
def Backed (s : GateState) (u : UnlockSession) : Prop :=
  ∃ i ∈ s.issued, i.token = u.token ∧ i.feature = u.feature ∧ u.createdAt ≤ i.issuedAt ∧
    (u.lastUsed ≤ i.issuedAt ∨ (u.token, u.lastUsed) ∈ s.used) ∧ (InForce s.now u → s.Holds i.serial)

/-- The password a call goes on from is there. -/
def Vouched (s : GateState) : GateCall → Prop
  | .verifyPassed _ serial => serial < s.nextSerial ∧ s.Holds serial
  | .verifyInsert _ serial _ t => serial < s.nextSerial ∧ t ≤ s.now ∧ (s.now - t ≤ unlockTTL → s.Holds serial)
  | _ => True

structure Inv (s : GateState) : Prop where
  keyed : Keyed UnlockSession.token s.activeUnlocks
  named : ∀ u ∈ s.activeUnlocks, u.token ≠ ""
  sessions : ∀ u ∈ s.activeUnlocks, Backed s u
  calls : ∀ c ∈ s.calls, Vouched s c
  stored : ∀ p ∈ s.stored, p.serial < s.nextSerial
  issues : ∀ i ∈ s.issued, i.issuedAt ≤ s.now ∧ i.serial < s.nextSerial
  uses : ∀ e ∈ s.used, e.2 ≤ s.now

variable {kdf} {s t : GateState} {u : UnlockSession} {c : GateCall}

theorem inv_of_fresh (h : Fresh s) : Inv s := by
  refine ⟨?_, ?_, ?_, ?_, h.serial, ?_, ?_⟩
  · rw [h.noUnlocks]
    exact List.nodup_nil
  · simp [h.noUnlocks]
  · simp [h.noUnlocks]
  · simp [h.noCalls]
  · simp [h.noIssues]
  · simp [h.noUses]

theorem InForce.earlier {now later : ℤ} (h : InForce later u) (hle : now ≤ later) : InForce now u := by
  obtain ⟨hmax, httl⟩ := h
  exact ⟨by omega, by omega⟩

theorem unlockTTL_le : unlockTTL ≤ unlockMax := by decide

/-- **A positive answer has its grounds.** -/
theorem Inv.grounded (h : Inv s) : GrantsGrounded s := by
  intro token feature hfeature hcheck
  obtain ⟨-, u, hget, hmax, httl, hallowed⟩ := checkUnlockToken_eq_true hcheck
  rw [gt_iff_lt, Int.not_lt] at hmax httl
  obtain ⟨i, hi, htoken, hfor, hcreated, hlast, hholds⟩ := h.sessions u (mem_of_get hget)
  have hkey : u.token = token := key_of_get hget
  refine ⟨i, hi, htoken.trans hkey, ?_, (h.issues i hi).1, by omega, ?_, hholds ⟨hmax, httl⟩⟩
  · rw [hfor]
    by_contra hne
    rw [not_or] at hne
    exact hallowed ⟨hfeature, hne⟩
  · rcases hlast with hlast | hused
    · exact .inl (by omega)
    · exact .inr ⟨u.lastUsed, h.uses _ hused, httl, hkey ▸ hused⟩

theorem Backed.mono (h : Backed s u) (hnow : s.now ≤ t.now) (hissued : s.issued ⊆ t.issued)
    (hused : s.used ⊆ t.used) (hholds : InForce t.now u → ∀ n, s.Holds n → t.Holds n) : Backed t u := by
  obtain ⟨i, hi, htoken, hfor, hcreated, hlast, hin⟩ := h
  exact ⟨i, hissued hi, htoken, hfor, hcreated, hlast.imp_right fun hmem => hused hmem,
    fun hforce => hholds hforce _ (hin (hforce.earlier hnow))⟩

theorem Vouched.elapse (h : Vouched s c) (time : ℕ) : Vouched { s with now := s.now + time } c := by
  cases c with
  | verifyPassed feature serial => exact h
  | verifyInsert feature serial token t =>
      obtain ⟨hserial, hle, hholds⟩ := h
      exact ⟨hserial, by simp only; omega, fun hfresh => hholds (by simp only at hfresh; omega)⟩
  | _ => exact trivial

/-! ## One step -/

theorem Inv.withCalls (h : Inv s) {calls : List GateCall} (hcalls : ∀ c ∈ calls, Vouched s c) :
    Inv { s with calls := calls } :=
  ⟨h.keyed, h.named, h.sessions, hcalls, h.stored, h.issues, h.uses⟩

theorem Inv.setCall (h : Inv s) (hc : Vouched s c) (i : ℕ) : Inv (setCall s i c) :=
  h.withCalls fun c' hc' => (List.mem_or_eq_of_mem_set hc').elim (h.calls c') fun heq => heq ▸ hc

theorem Inv.elapse (h : Inv s) (time : ℕ) : Inv { s with now := s.now + time } := by
  have hnow : s.now ≤ s.now + time := by omega
  refine ⟨h.keyed, h.named, fun u hu => ?_, fun c hc => (h.calls c hc).elapse time, h.stored, fun i hi => ?_,
    fun e he => Int.le_trans (h.uses e he) hnow⟩
  · exact (h.sessions u hu).mono hnow (List.Subset.refl _) (List.Subset.refl _) fun _ _ => id
  · exact ⟨Int.le_trans (h.issues i hi).1 hnow, (h.issues i hi).2⟩

/-- Sessions may go at any time. -/
theorem Inv.dropSessions (h : Inv s) {unlocks : List UnlockSession} (hsub : unlocks.Sublist s.activeUnlocks) :
    Inv { s with activeUnlocks := unlocks } :=
  ⟨h.keyed.sublist (hsub.map _), fun u hu => h.named u (hsub.subset hu), fun u hu => h.sessions u (hsub.subset hu),
    h.calls, h.stored, h.issues, h.uses⟩

/-- The password may change when no session is in force or on its way. -/
theorem Inv.replace (h : Inv s) (hnone : ∀ u ∈ s.activeUnlocks, ¬ InForce s.now u)
    (hcalls : ∀ c ∈ s.calls, ¬ c.Unlocking s.now) {stored : Option StoredPassword} {next : ℕ}
    (hnext : s.nextSerial ≤ next) (hstored : ∀ p ∈ stored, p.serial < next) :
    Inv { s with stored := stored, nextSerial := next } := by
  refine ⟨h.keyed, h.named, fun u hu => ?_, fun c hc => ?_, hstored, fun i hi => ?_, h.uses⟩
  · exact (h.sessions u hu).mono (Int.le_refl _) (List.Subset.refl _) (List.Subset.refl _)
      fun hforce => absurd hforce (hnone u hu)
  · have hvouched := h.calls c hc
    have hidle := hcalls c hc
    cases c with
    | verifyPassed feature serial => exact absurd trivial hidle
    | verifyInsert feature serial token t =>
        exact ⟨hvouched.1.trans_le hnext, hvouched.2.1, fun hfresh => absurd hfresh hidle⟩
    | _ => exact trivial
  · exact ⟨(h.issues i hi).1, (h.issues i hi).2.trans_le hnext⟩

theorem Inv.insert (h : Inv s) {feature : String} {serial : ℕ} {token : Token} {t : ℤ}
    (hc : Vouched s (.verifyInsert feature serial token t)) :
    Inv { s with
      activeUnlocks := putSession s.activeUnlocks ⟨token, feature, t, t⟩
      issued := s.issued ++ [⟨token, feature, s.now, serial⟩] } := by
  obtain ⟨hserial, hle, hholds⟩ := hc
  refine ⟨nodup_append (nodup_remove h.keyed) get_remove_self, fun u hu => ?_, fun u hu => ?_, h.calls, h.stored,
    fun i hi => ?_, h.uses⟩
  · rcases List.mem_append.1 hu with hu | hu
    · exact h.named u (mem_remove.1 hu).1
    · rw [List.mem_singleton.1 hu]
      exact token.2
  · rcases List.mem_append.1 hu with hu | hu
    · exact (h.sessions u (mem_remove.1 hu).1).mono (Int.le_refl _) (List.subset_append_left _ _) (List.Subset.refl _)
        fun _ _ => id
    · rw [List.mem_singleton.1 hu]
      exact ⟨_, List.mem_append_right _ (List.mem_singleton_self _), rfl, rfl, hle, .inl hle,
        fun hforce => hholds hforce.2⟩
  · rcases List.mem_append.1 hi with hi | hi
    · exact h.issues i hi
    · rw [List.mem_singleton.1 hi]
      exact ⟨Int.le_refl _, hserial⟩

theorem checkUnlockToken_cases (now : ℤ) (activeUnlocks : List UnlockSession) (token feature : String) :
    (∃ unlocks, unlocks.Sublist activeUnlocks ∧
        checkUnlockToken now activeUnlocks token feature = (false, unlocks)) ∨
      ∃ u, get UnlockSession.token activeUnlocks token = some u ∧ InForce now u ∧
        checkUnlockToken now activeUnlocks token feature =
          (true, modify UnlockSession.token activeUnlocks token fun u => { u with lastUsed := now }) := by
  cases hanswer : (checkUnlockToken now activeUnlocks token feature).1 with
  | true =>
      obtain ⟨htoken, u, hget, hmax, httl, hfeature⟩ := checkUnlockToken_eq_true hanswer
      exact .inr ⟨u, hget, ⟨Int.not_lt.1 hmax, Int.not_lt.1 httl⟩,
        checkUnlockToken_of_session htoken hget hmax httl hfeature⟩
  | false =>
      left
      unfold checkUnlockToken at hanswer ⊢
      split_ifs at hanswer ⊢ with htoken
      · exact ⟨_, List.Sublist.refl _, rfl⟩
      · cases hget : get UnlockSession.token activeUnlocks token with
        | none => exact ⟨_, List.Sublist.refl _, rfl⟩
        | some u =>
            simp only [hget] at hanswer ⊢
            split_ifs at hanswer ⊢
            · exact ⟨_, List.filter_sublist, rfl⟩
            · exact ⟨_, List.filter_sublist, rfl⟩
            · exact ⟨_, List.Sublist.refl _, rfl⟩

theorem Inv.check (h : Inv s) (token feature : String) : Inv (check s token feature) := by
  unfold PrivacyGate.check
  rcases checkUnlockToken_cases s.now s.activeUnlocks token feature with ⟨unlocks, hsub, hanswer⟩ | ⟨u, hget, hin, hanswer⟩
  · rw [hanswer]
    exact h.dropSessions hsub
  · rw [hanswer]
    have hkey (u : UnlockSession) : ({ u with lastUsed := s.now } : UnlockSession).token = u.token := rfl
    refine ⟨nodup_modify hkey h.keyed, fun v hv => ?_, fun v hv => ?_, h.calls, h.stored, h.issues, fun e he => ?_⟩
    · obtain ⟨v₀, hv₀, rfl⟩ := mem_modify.1 hv
      rw [key_ite hkey]
      exact h.named v₀ hv₀
    · obtain ⟨v₀, hv₀, rfl⟩ := mem_modify.1 hv
      have hback : Backed s v₀ := h.sessions v₀ hv₀
      split_ifs with hv
      · -- the session that was used counts from now
        have hsame : v₀ = u := h.keyed.eq_of_key hv₀ (mem_of_get hget) (hv.trans (key_of_get hget).symm)
        obtain ⟨i, hi, htoken, hfor, hcreated, -, hholds⟩ := hback
        exact ⟨i, hi, htoken, hfor, hcreated, .inr (List.mem_append_right _ (by simp [hv])),
          fun _ => hholds (hsame ▸ hin)⟩
      · exact hback.mono (Int.le_refl _) (List.Subset.refl _) (List.subset_append_left _ _) fun _ _ => id
    · rcases List.mem_append.1 he with he | he
      · exact h.uses e he
      · obtain rfl := List.mem_singleton.1 he
        exact Int.le_refl _

theorem holds_of_verify {ok : Bool} {password : String} {serial : ℕ}
    (h : verifyStoredPassword kdf s ok password = some serial) : s.Holds serial := by
  unfold verifyStoredPassword at h
  split_ifs at h
  obtain ⟨p, hp, rfl⟩ := Option.map_eq_some_iff.1 h
  exact ⟨p, (Option.filter_eq_some_iff.1 hp).1, rfl⟩

variable (kdf) in
/-- A call goes on from a password that is there. -/
theorem vouched_next (h : Inv s) (hc : Vouched s c) (reply : GateReply) : Vouched s (advanceCall kdf s reply c).2 := by
  cases c with
  | begun request =>
      cases request with
      | purgeExpiredUnlocks => exact trivial
      | _ =>
          dsimp only [advanceCall]
          split_ifs <;> exact trivial
  | verifyCompare password feature =>
      dsimp only [advanceCall]
      split
      · rename_i serial hverify
        obtain ⟨p, hp, rfl⟩ := holds_of_verify hverify
        exact ⟨h.stored p hp, p, hp, rfl⟩
      · exact trivial
  | verifyPassed feature serial =>
      dsimp only [advanceCall]
      split_ifs
      · exact ⟨hc.1, Int.le_refl _, fun _ => hc.2⟩
      · exact trivial
  | setWrite _ | changeWrite _ | removeClear | removeDelete | verifyInsert _ _ _ _ | purgeLocked _ | done =>
      exact trivial
  | setRead _ | changeRead _ _ | changeVerify _ _ | removeRead _ | removeVerify _ =>
      dsimp only [advanceCall]
      split_ifs <;> exact trivial

/-- A step that does not touch the password. -/
theorem inv_advance (h : Inv s) (hc : Vouched s c) (reply : GateReply)
    (hidle : c.touches = true → reply.ok = false) (i : ℕ) :
    Inv (setCall (advanceCall kdf s reply c).1 i (advanceCall kdf s reply c).2) := by
  have hnext := h.setCall (vouched_next kdf h hc reply) i
  cases c with
  | begun request => cases request <;> exact hnext
  | setWrite _ | changeWrite _ | removeDelete =>
      simp only [advanceCall, hidle rfl, Bool.false_eq_true, if_false]
      exact hnext
  | removeClear => exact (h.dropSessions (List.nil_sublist _)).setCall (c := .removeDelete) trivial i
  | verifyInsert feature serial token t => exact (h.insert hc).setCall (c := .done) trivial i
  | purgeLocked now => exact (h.dropSessions List.filter_sublist).setCall (c := .done) trivial i
  | setRead _ | changeRead _ _ | changeVerify _ _ | removeRead _ | removeVerify _ | verifyCompare _ _
  | verifyPassed _ _ | done => exact hnext

variable (kdf s) in
/-- A step that touches the password: another one is stored under a new serial, or none. -/
theorem advanceCall_of_touches {reply : GateReply} (hc : c.touches = true) (hok : reply.ok = true) :
    ∃ stored next, s.nextSerial ≤ next ∧ (∀ p ∈ stored, p.serial = s.nextSerial ∧ p.serial < next) ∧
      advanceCall kdf s reply c = ({ s with stored := stored, nextSerial := next }, .done) := by
  cases c <;> try cases hc
  case setWrite password =>
    refine ⟨some ⟨hashPassword kdf password reply.salt, s.nextSerial⟩, s.nextSerial + 1, Nat.le_succ _, ?_, ?_⟩
    · simp
    · rw [advanceCall, if_pos hok]
      rfl
  case changeWrite new =>
    refine ⟨some ⟨hashPassword kdf new reply.salt, s.nextSerial⟩, s.nextSerial + 1, Nat.le_succ _, ?_, ?_⟩
    · simp
    · rw [advanceCall, if_pos hok]
      rfl
  case removeDelete =>
    refine ⟨none, s.nextSerial, Nat.le_refl _, by simp, ?_⟩
    rw [advanceCall, if_pos hok]

theorem touches_of_op {op : GateOp} (h : touchesPassword s op = true) :
    ∃ i reply c, op = .advance i reply ∧ s.calls[i]? = some c ∧ c.touches = true ∧ reply.ok = true := by
  cases op with
  | advance i reply =>
      rw [touchesPassword, Bool.and_eq_true, Option.any_eq_true] at h
      obtain ⟨hok, c, hc, htouches⟩ := h
      exact ⟨i, reply, c, rfl, hc, htouches, hok⟩
  | _ => cases h

/-- **What holds of every state** is kept by the steps that leave the unlocks their grounds. -/
theorem inv_step {op : GateOp} (h : Inv s) (hok : KeepsGrounds s op) (hs : gateStep kdf s op = some t) : Inv t := by
  cases op with
  | call request =>
      obtain rfl := Option.some.inj hs
      refine h.withCalls fun c hc => ?_
      rcases List.mem_append.1 hc with hc | hc
      · exact h.calls c hc
      · rw [List.mem_singleton.1 hc]
        trivial
  | advance i reply =>
      obtain ⟨c, hc, rfl⟩ := Option.map_eq_some_iff.1 hs
      by_cases htouches : reply.ok = true ∧ c.touches = true
      · obtain ⟨hreply, htouches⟩ := htouches
        obtain ⟨hnone, hcalls⟩ := hok (by rw [touchesPassword, hreply, hc, Option.any_some, htouches]; rfl)
        obtain ⟨stored, next, hnext, hstored, heq⟩ := advanceCall_of_touches kdf s htouches hreply
        rw [heq]
        exact (h.replace hnone hcalls hnext fun p hp => (hstored p hp).2).setCall (c := .done) trivial i
      · refine inv_advance h (h.calls c (List.mem_of_getElem? hc)) reply (fun hc' => ?_) i
        rw [← Bool.not_eq_true]
        exact fun hreply => htouches ⟨hreply, hc'⟩
  | check token feature =>
      obtain rfl := Option.some.inj hs
      exact h.check token feature
  | setPrivacyMode enabled =>
      obtain rfl := Option.some.inj hs
      exact ⟨h.keyed, h.named, h.sessions, h.calls, h.stored, h.issues, h.uses⟩
  | elapse time =>
      obtain rfl := Option.some.inj hs
      exact h.elapse time

theorem lasting_of_inv (h : Inv s) : Lasting kdf s := by
  intro t ht
  refine (Reach.invariant (I := Inv) ?_ ?_ ht).grounded
  · rintro s' rfl
    exact h
  · intro s' op t' hs' hquiet hstep
    exact inv_step hs' (fun htouches => by rw [hquiet] at htouches; cases htouches) hstep

/-! ## When the password is touched under an unlock -/

theorem not_unlocking_of_touches {now : ℤ} (h : c.touches = true) : ¬ c.Unlocking now := by
  cases c <;> first | exact id | cases h

/-- A session in force whose token was never returned for the stored password. -/
theorem not_granted (hkeyed : Keyed UnlockSession.token s.activeUnlocks) (hu : u ∈ s.activeUnlocks)
    (hname : u.token ≠ "") (hforce : InForce s.now u) (hgone : ∀ i ∈ s.issued, ¬ s.Holds i.serial) :
    ¬ GrantsGrounded s := by
  intro hall
  have hget : get UnlockSession.token s.activeUnlocks u.token = some u := (get_eq_some_iff hkeyed).2 ⟨hu, rfl⟩
  have hgrant : ∀ feature, u.feature = feature ∨ u.feature = "" →
      (checkUnlockToken s.now s.activeUnlocks u.token feature).1 = true := by
    intro feature hfeature
    rw [checkUnlockToken_of_session hname hget (Int.not_lt.2 hforce.1) (Int.not_lt.2 hforce.2)
      (fun hno => hfeature.elim hno.2.1 hno.2.2)]
  have hdenied : ∀ feature, ¬ Grounded s u.token feature := by
    rintro feature ⟨i, hi, -, -, -, -, -, hholds⟩
    exact hgone i hi hholds
  by_cases hfeature : u.feature = ""
  · exact hdenied _ (hall u.token "remote" (by decide) (hgrant _ (.inr hfeature)))
  · exact hdenied _ (hall u.token u.feature hfeature (hgrant _ (.inl rfl)))

theorem setCall_calls {i : ℕ} (h : s.calls[i]? = some c) (c' : GateCall) :
    (setCall s i c').calls[i]? = some c' := by
  obtain ⟨hlt, -⟩ := List.getElem?_eq_some_iff.1 h
  exact List.getElem?_set_self hlt

/-- A verification on its way inserts its session. -/
theorem not_lasting_of_insert {j : ℕ} {feature : String} {serial : ℕ} {token : Token} {time : ℤ}
    (hkeyed : Keyed UnlockSession.token s.activeUnlocks)
    (hcall : s.calls[j]? = some (.verifyInsert feature serial token time)) (hfresh : s.now - time ≤ unlockTTL)
    (hgone : ∀ i ∈ s.issued, ¬ s.Holds i.serial) (hserial : ¬ s.Holds serial) : ¬ Lasting kdf s := by
  intro hall
  have hquiet : touchesPassword s (.advance j ⟨true, "", token⟩) = false := by
    rw [touchesPassword, hcall]
    rfl
  have hstep : gateStep kdf s (.advance j ⟨true, "", token⟩) = some (setCall { s with
      activeUnlocks := putSession s.activeUnlocks ⟨token, feature, time, time⟩
      issued := s.issued ++ [⟨token, feature, s.now, serial⟩] } j .done) := by
    rw [gateStep, hcall]
    rfl
  refine not_granted (u := ⟨token, feature, time, time⟩) ?_ ?_ token.2 ?_ ?_ (hall _ (.next _ (.start rfl) hquiet hstep))
  · exact nodup_append (nodup_remove hkeyed) get_remove_self
  · exact List.mem_append_right _ (List.mem_singleton_self _)
  · exact ⟨Int.le_trans hfresh unlockTTL_le, hfresh⟩
  · intro i hi
    rcases List.mem_append.1 hi with hi | hi
    · exact hgone i hi
    · rw [List.mem_singleton.1 hi]
      exact hserial

theorem not_lasting_of_passed {j : ℕ} {feature : String} {serial : ℕ}
    (hkeyed : Keyed UnlockSession.token s.activeUnlocks)
    (hcall : s.calls[j]? = some (.verifyPassed feature serial))
    (hgone : ∀ i ∈ s.issued, ¬ s.Holds i.serial) (hserial : ¬ s.Holds serial) : ¬ Lasting kdf s := by
  intro hall
  let token : Token := ⟨"token", by decide⟩
  have hstep : gateStep kdf s (.advance j ⟨true, "", token⟩) =
      some (setCall s j (.verifyInsert feature serial token s.now)) := by
    rw [gateStep, hcall]
    rfl
  have hnot : ¬ Lasting kdf (setCall s j (.verifyInsert feature serial token s.now)) :=
    not_lasting_of_insert (j := j) hkeyed (setCall_calls hcall _) (by rw [setCall, Int.sub_self]; decide) hgone hserial
  refine hnot fun t ht => hall t ?_
  have hquiet : touchesPassword s (.advance j ⟨true, "", token⟩) = false := by
    rw [touchesPassword, hcall]
    rfl
  clear hall hnot
  induction ht with
  | start heq =>
      obtain rfl := heq
      exact .next _ (.start rfl) hquiet hstep
  | next op _ hop hs ih => exact ih.next op hop hs

/-- Touching the password under an unlock leaves answers without grounds. -/
theorem not_lasting {op : GateOp} (h : Inv s) (hno : ¬ KeepsGrounds s op) (hs : gateStep kdf s op = some t) :
    ¬ Lasting kdf t := by
  rw [KeepsGrounds, Classical.not_imp] at hno
  obtain ⟨htouches, hunder⟩ := hno
  obtain ⟨i, reply, c, rfl, hc, hc', hreply⟩ := touches_of_op htouches
  obtain ⟨stored, next, hnext, hstored, heq⟩ := advanceCall_of_touches kdf s hc' hreply
  rw [gateStep, hc, Option.map_some, heq, Option.some.injEq] at hs
  obtain rfl := hs
  have hgone : ∀ n < s.nextSerial, ¬ (setCall { s with stored := stored, nextSerial := next } i .done).Holds n := by
    rintro n hn ⟨p, hp, rfl⟩
    exact absurd (hstored p hp).1 hn.ne
  have hissued : ∀ i' ∈ s.issued,
      ¬ (setCall { s with stored := stored, nextSerial := next } i .done).Holds i'.serial :=
    fun i' hi' => hgone _ (h.issues i' hi').2
  rw [not_and_or] at hunder
  rcases hunder with hforce | hcall
  · obtain ⟨u, hu, hin⟩ := by simpa only [not_forall, not_not] using hforce
    intro hall
    exact not_granted (s := setCall { s with stored := stored, nextSerial := next } i .done) h.keyed hu
      (h.named u hu) hin hissued (hall _ (.start rfl))
  · obtain ⟨c₁, hc₁, hin⟩ := by simpa only [not_forall, not_not] using hcall
    obtain ⟨j, hj⟩ := List.getElem?_of_mem hc₁
    have hne : i ≠ j := by
      rintro rfl
      obtain rfl := Option.some.inj (hc.symm.trans hj)
      exact not_unlocking_of_touches hc' hin
    have hj' : (setCall { s with stored := stored, nextSerial := next } i .done).calls[j]? = some c₁ :=
      (List.getElem?_set_ne hne).trans hj
    have hvouched := h.calls c₁ hc₁
    cases c₁ with
    | verifyPassed feature serial => exact not_lasting_of_passed h.keyed hj' hissued (hgone _ hvouched.1)
    | verifyInsert feature serial token time =>
        exact not_lasting_of_insert h.keyed hj' hin hissued (hgone _ hvouched.1)
    | _ => cases hin

/-- **The unlocks have their grounds** along a run, and keep them, exactly when the password is only touched
while no unlock is in force or on its way. -/
theorem unlocks_grounded_iff (kdf : String → String → String) {s : GateState} (hs : Fresh s) (ops : List GateOp) :
    (gateMachine kdf).Along (fun _ t => Lasting kdf t) s ops ↔ (gateMachine kdf).Admits KeepsGrounds s ops := by
  refine Machine.along_iff_admits_of (I := Inv) ?_ ?_ ?_ ops s (inv_of_fresh hs)
  · intro s op hnone htouches
    obtain ⟨i, reply, c, rfl, hc, -⟩ := touches_of_op htouches
    change (s.calls[i]?).map _ = none at hnone
    rw [hc] at hnone
    cases hnone
  · intro s op t h hstep
    exact ⟨fun hlasting => of_not_not fun hno => not_lasting h hno hstep hlasting,
      fun hok => lasting_of_inv (inv_step h hok hstep)⟩
  · exact fun s op t h hok hstep => inv_step h hok hstep

/-! ## A change under an unlock -/

def newGate : GateState := ⟨0, false, none, 0, [], [], [], []⟩

theorem fresh_newGate : Fresh newGate := ⟨rfl, rfl, rfl, rfl, by simp [newGate]⟩

/-- The hash is the password. -/
def plainKdf (password _salt : String) : String := password

def works : GateReply := ⟨true, "salt", ⟨"token", by decide⟩⟩

/-- A password is set and verified for a feature. -/
def setAndVerify : List GateOp :=
  [.call (.setPrivacyPassword "a"), .advance 0 works, .advance 0 works, .advance 0 works,
    .call (.verifyPrivacyPassword "a" "remote"), .advance 1 works, .advance 1 works, .advance 1 works,
    .advance 1 works]

def changeGate : List GateOp :=
  [.call (.changePrivacyPassword "a" "b"), .advance 2 works, .advance 2 works, .advance 2 works, .advance 2 works]

/-- The change comes 16 minutes later. -/
theorem unlocks_grounded_late_change : (gateMachine plainKdf).Along (fun _ t => Lasting plainKdf t) newGate
    (setAndVerify ++ .elapse 960000000000 :: changeGate) :=
  (unlocks_grounded_iff plainKdf fresh_newGate _).2 (by decide +kernel)

/-- The token of the old password still opens the feature. -/
theorem change_keeps_unlock : ¬ ∀ kdf s, Reach (gateMachine kdf) anyStep s → GrantsGrounded s := by
  intro hall
  refine not_forall_reach (M := gateMachine plainKdf) fresh_newGate (setAndVerify ++ changeGate) ?_ (hall plainKdf)
  refine ⟨_, rfl, fun hgrants => ?_⟩
  obtain ⟨i, hi, -, -, -, -, -, p, hp, hserial⟩ := hgrants "token" "remote" (by decide) (by decide +kernel)
  obtain rfl := List.mem_singleton.1 hi
  obtain rfl := Option.some.inj hp
  cases hserial

end Obliance.Agent.PrivacyGate
