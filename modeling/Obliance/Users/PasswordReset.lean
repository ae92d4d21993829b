import Mathlib.Data.List.Sort
import Mathlib.Logic.Function.Basic
import Obliance.Lib.GuardedRun

/-!
# Password resets by e-mail (`passwordReset.service.ts`)

* `User`, `TokenRow`, `ResetState` : the two tables, and the calls between their awaits;
* `selectUser`, `findUsableToken` : the two reads;
* `ResetOp`, `resetMachine` : requests and resets in any order, with the changes others make to users;
* `Kept`, `step_kept` : what every step keeps;
* `writes_spec` : a reset writes for a token that was live when it was found, and two resets with one token
  overlap.
-/

namespace Obliance.Users.PasswordReset
open GuardedRun

/-! ## The tables -/

structure User where
  id : ℕ
  email : String
  foreignSource : Option String
  passwordHash : String
  deriving DecidableEq, Repr

/-- `notSso` -/
def User.notSso (u : User) : Bool := decide (u.foreignSource ≠ some "obligate")

structure TokenRow where
  id : ℕ
  userId : ℕ
  tokenHash : String
  expiresAt : ℤ
  usedAt : Option ℤ
  deriving DecidableEq, Repr

/-- One hour. -/
def TOKEN_EXPIRY_MS : ℤ := 60 * 60 * 1000

/-- A reset that has found its token: the row and the user it read, when, and at which turn. -/
structure Found where
  row : TokenRow
  user : User
  time : ℤ
  turn : ℕ
  deriving DecidableEq, Repr

/-- A reset that has written. -/
structure Write where
  found : Found
  turn : ℕ
  deriving DecidableEq, Repr

/-- Where a request stands: the user it has read, and whether the unused tokens are deleted. -/
inductive RequestPc where
  | idle
  | selected (userId : ℕ)
  | cleared (userId : ℕ)
  deriving DecidableEq, Repr

structure ResetState where
  users : List User
  tokens : List TokenRow
  nextId : ℕ
  now : ℤ
  requests : ℕ → RequestPc
  resets : ℕ → Option Found
  /-- The rows inserted so far, and when. -/
  issued : List (TokenRow × ℤ)
  /-- The resets that have written so far. -/
  writes : List Write
  turn : ℕ

namespace ResetState

/-- The first user with the address that is no SSO account. -/
def selectUser (s : ResetState) (email : String) : Option User :=
  (s.users.insertionSort fun a b => a.id ≤ b.id).find? fun u => decide (u.email = email) && u.notSso

def findUsableToken (s : ResetState) (tokenHash : String) : Option (TokenRow × User) :=
  s.tokens.findSome? fun row =>
    if row.tokenHash = tokenHash ∧ row.usedAt = none ∧ s.now < row.expiresAt then
      (s.users.find? fun u => decide (u.id = row.userId) && u.notSso).map fun u => (row, u)
    else none

end ResetState

/-! ## The steps -/

inductive ResetOp where
  /-- `requestReset`: the user, the delete of the unused tokens, the insert. -/
  | select (call : ℕ) (email : String)
  | clear (call : ℕ)
  | insert (call : ℕ) (tokenHash : String)
  /-- `resetPassword`: the check, and the transaction. -/
  | find (call : ℕ) (tokenHash : String)
  | write (call : ℕ) (passwordHash : String)
  /-- What happens besides. -/
  | wait (ms : ℕ)
  | change (user : User)
  | delete (userId : ℕ)
  deriving DecidableEq, Repr

namespace ResetState

def step (s : ResetState) : ResetOp → Option ResetState
  | .select call email =>
      if s.requests call = .idle then
        match s.selectUser email with
        | some u => some
            { s with
              requests := Function.update s.requests call (.selected u.id)
              turn := s.turn + 1 }
        | none => some { s with turn := s.turn + 1 }
      else none
  | .clear call =>
      match s.requests call with
      | .selected userId => some
          { s with
            tokens := s.tokens.filter fun row => !(decide (row.userId = userId) && row.usedAt.isNone)
            requests := Function.update s.requests call (.cleared userId)
            turn := s.turn + 1 }
      | _ => none
  | .insert call tokenHash =>
      match s.requests call with
      | .cleared userId =>
          let row : TokenRow := ⟨s.nextId, userId, tokenHash, s.now + TOKEN_EXPIRY_MS, none⟩
          -- the key of the user, and the hash that no other row has
          if userId ∈ s.users.map User.id ∧ tokenHash ∉ s.tokens.map TokenRow.tokenHash then
            some
              { s with
                tokens := s.tokens ++ [row]
                nextId := s.nextId + 1
                requests := Function.update s.requests call .idle
                issued := (row, s.now) :: s.issued
                turn := s.turn + 1 }
          else some
            { s with
              nextId := s.nextId + 1
              requests := Function.update s.requests call .idle
              turn := s.turn + 1 }
      | _ => none
  | .find call tokenHash =>
      if s.resets call = none then
        match s.findUsableToken tokenHash with
        | some (row, u) => some
            { s with
              resets := Function.update s.resets call (some ⟨row, u, s.now, s.turn⟩)
              turn := s.turn + 1 }
        | none => some { s with turn := s.turn + 1 }
      else none
  | .write call passwordHash =>
      match s.resets call with
      | some f => some
          { s with
            users := s.users.map fun u => if u.id = f.row.userId then { u with passwordHash } else u
            tokens := s.tokens.map fun row => if row.id = f.row.id then { row with usedAt := some s.now } else row
            resets := Function.update s.resets call none
            writes := ⟨f, s.turn⟩ :: s.writes
            turn := s.turn + 1 }
      | none => none
  | .wait ms => some { s with now := s.now + ms, turn := s.turn + 1 }
  | .change user => some
      { s with
        users := user :: s.users.filter fun u => decide (u.id ≠ user.id)
        turn := s.turn + 1 }
  | .delete userId => some
      { s with
        users := s.users.filter fun u => decide (u.id ≠ userId)
        tokens := s.tokens.filter fun row => decide (row.userId ≠ userId)
        turn := s.turn + 1 }

end ResetState

/-- Any users, no token and no call. -/
def resetMachine : Machine ResetState ResetOp where
  init s := s.tokens = [] ∧ (∀ call, s.resets call = none) ∧ s.issued = [] ∧ s.writes = []
  step := ResetState.step

/-! ## What every step keeps -/

/-- A token that was found was issued within the hour before, unused, for an account that is no SSO account. -/
structure Live (issued : List (TokenRow × ℤ)) (f : Found) : Prop where
  unused : f.row.usedAt = none
  inTime : ∃ t, (f.row, t) ∈ issued ∧ f.time < t + TOKEN_EXPIRY_MS
  owner : f.user.id = f.row.userId
  notSso : f.user.notSso = true

structure Kept (s : ResetState) : Prop where
  rows : ∀ row ∈ s.tokens, row.id < s.nextId ∧
    (row.usedAt = none → ∃ t, (row, t) ∈ s.issued ∧ row.expiresAt = t + TOKEN_EXPIRY_MS)
  /-- The row of a write is used, or gone for good. -/
  spent : ∀ w ∈ s.writes, w.found.row.id < s.nextId ∧
    ∀ row ∈ s.tokens, row.id = w.found.row.id → row.usedAt ≠ none
  found : ∀ call f, s.resets call = some f → Live s.issued f ∧ f.row.id < s.nextId ∧ f.turn < s.turn ∧
    ∀ w ∈ s.writes, w.found.row.id = f.row.id → f.turn < w.turn
  written : ∀ w ∈ s.writes, Live s.issued w.found ∧ w.found.turn < w.turn ∧ w.turn < s.turn ∧
    ∀ w' ∈ s.writes, w'.found.row.id = w.found.row.id → w.found.turn < w'.turn

section Steps
variable {s t : ResetState}

theorem Live.mono {issued issued' : List (TokenRow × ℤ)} {f : Found} (h : Live issued f)
    (hsub : issued ⊆ issued') : Live issued' f := by
  obtain ⟨t, ht, hlt⟩ := h.inTime
  exact ⟨h.unused, ⟨t, hsub ht, hlt⟩, h.owner, h.notSso⟩

/-- A step that only moves time, users or requests. -/
theorem Kept.same (h : Kept s) (htokens : t.tokens = s.tokens) (hnext : s.nextId ≤ t.nextId)
    (hresets : t.resets = s.resets) (hissued : t.issued = s.issued) (hwrites : t.writes = s.writes)
    (hturn : s.turn ≤ t.turn) : Kept t := by
  refine ⟨?_, ?_, ?_, ?_⟩
  · rw [htokens, hissued]
    exact fun row hrow => ⟨Nat.lt_of_lt_of_le (h.rows row hrow).1 hnext, (h.rows row hrow).2⟩
  · rw [hwrites, htokens]
    exact fun w hw => ⟨Nat.lt_of_lt_of_le (h.spent w hw).1 hnext, (h.spent w hw).2⟩
  · rw [hresets, hissued, hwrites]
    intro call f hf
    obtain ⟨hlive, hid, hlt, hbefore⟩ := h.found call f hf
    exact ⟨hlive, Nat.lt_of_lt_of_le hid hnext, Nat.lt_of_lt_of_le hlt hturn, hbefore⟩
  · rw [hwrites, hissued]
    intro w hw
    obtain ⟨hlive, hfound, hlt, hother⟩ := h.written w hw
    exact ⟨hlive, hfound, Nat.lt_of_lt_of_le hlt hturn, hother⟩

/-- A step that takes rows away. -/
theorem Kept.fewer (h : Kept s) (htokens : ∀ row ∈ t.tokens, row ∈ s.tokens) (hnext : t.nextId = s.nextId)
    (hresets : t.resets = s.resets) (hissued : t.issued = s.issued) (hwrites : t.writes = s.writes)
    (hturn : s.turn ≤ t.turn) : Kept t := by
  have hfiltered : Kept { t with tokens := s.tokens } :=
    h.same rfl (Nat.le_of_eq hnext.symm) hresets hissued hwrites hturn
  refine ⟨fun row hrow => hfiltered.rows row (htokens row hrow), fun w hw => ?_, hfiltered.found, hfiltered.written⟩
  exact ⟨(hfiltered.spent w hw).1, fun row hrow => (hfiltered.spent w hw).2 row (htokens row hrow)⟩

theorem find_spec {tokenHash : String} {row : TokenRow} {u : User} (h : s.findUsableToken tokenHash = some (row, u)) :
    row ∈ s.tokens ∧ row.usedAt = none ∧ s.now < row.expiresAt ∧ u.id = row.userId ∧ u.notSso = true := by
  obtain ⟨row', hrow, hfound⟩ := List.exists_of_findSome?_eq_some h
  split_ifs at hfound with hlive
  obtain ⟨u', hu, hpair⟩ := Option.map_eq_some_iff.1 hfound
  obtain ⟨rfl, rfl⟩ := Prod.mk.inj hpair
  have huser := List.find?_some hu
  rw [Bool.and_eq_true, decide_eq_true_eq] at huser
  exact ⟨hrow, hlive.2.1, hlive.2.2, huser.1, huser.2⟩

theorem kept_insert (h : Kept s) {userId : ℕ} {tokenHash : String} {requests : ℕ → RequestPc} :
    Kept { s with
      tokens := s.tokens ++ [⟨s.nextId, userId, tokenHash, s.now + TOKEN_EXPIRY_MS, none⟩]
      nextId := s.nextId + 1
      requests
      issued := (⟨s.nextId, userId, tokenHash, s.now + TOKEN_EXPIRY_MS, none⟩, s.now) :: s.issued
      turn := s.turn + 1 } := by
  refine ⟨fun row hrow => ?_, fun w hw => ?_, fun call f hf => ?_, fun w hw => ?_⟩
  · rcases List.mem_append.1 hrow with hold | hnew
    · obtain ⟨hid, hissued⟩ := h.rows row hold
      refine ⟨Nat.lt_succ_of_lt hid, fun hunused => ?_⟩
      obtain ⟨t, ht, hexpires⟩ := hissued hunused
      exact ⟨t, List.mem_cons_of_mem _ ht, hexpires⟩
    · obtain rfl := List.mem_singleton.1 hnew
      exact ⟨Nat.lt_succ_self _, fun _ => ⟨s.now, List.mem_cons_self, rfl⟩⟩
  · obtain ⟨hid, hused⟩ := h.spent w hw
    refine ⟨Nat.lt_succ_of_lt hid, fun row hrow heq => ?_⟩
    rcases List.mem_append.1 hrow with hold | hnew
    · exact hused row hold heq
    · obtain rfl := List.mem_singleton.1 hnew
      exact absurd heq (Nat.ne_of_gt hid)
  · obtain ⟨hlive, hid, hlt, hbefore⟩ := h.found call f hf
    exact ⟨hlive.mono (List.subset_cons_self _ _), Nat.lt_succ_of_lt hid, Nat.lt_succ_of_lt hlt, hbefore⟩
  · obtain ⟨hlive, hfound, hlt, hother⟩ := h.written w hw
    exact ⟨hlive.mono (List.subset_cons_self _ _), hfound, Nat.lt_succ_of_lt hlt, hother⟩

theorem kept_find (h : Kept s) {call : ℕ} {tokenHash : String} {row : TokenRow} {u : User}
    (hfind : s.findUsableToken tokenHash = some (row, u)) :
    Kept { s with resets := Function.update s.resets call (some ⟨row, u, s.now, s.turn⟩), turn := s.turn + 1 } := by
  obtain ⟨hrow, hunused, hlive, howner, hsso⟩ := find_spec hfind
  obtain ⟨hid, hissued⟩ := h.rows row hrow
  obtain ⟨t, ht, hexpires⟩ := hissued hunused
  refine ⟨h.rows, h.spent, fun c f hf => ?_, fun w hw => ?_⟩
  · by_cases hc : c = call
    · dsimp only at hf
      rw [hc, Function.update_self] at hf
      obtain rfl := Option.some.inj hf
      have hfound : Live s.issued ⟨row, u, s.now, s.turn⟩ := ⟨hunused, ⟨t, ht, hexpires ▸ hlive⟩, howner, hsso⟩
      refine ⟨hfound, hid, Nat.lt_succ_self _, fun w hw heq => ?_⟩
      -- a row that was written for is used, and this one was not
      exact absurd hunused ((h.spent w hw).2 row hrow heq.symm)
    · dsimp only at hf
      rw [Function.update_of_ne hc] at hf
      obtain ⟨hflive, hfid, hlt, hbefore⟩ := h.found c f hf
      exact ⟨hflive, hfid, Nat.lt_succ_of_lt hlt, hbefore⟩
  · obtain ⟨hwlive, hfound, hlt, hother⟩ := h.written w hw
    exact ⟨hwlive, hfound, Nat.lt_succ_of_lt hlt, hother⟩

theorem kept_write (h : Kept s) {call : ℕ} {f : Found} (hf : s.resets call = some f) (users : List User) :
    Kept { s with
      users
      tokens := s.tokens.map fun row => if row.id = f.row.id then { row with usedAt := some s.now } else row
      resets := Function.update s.resets call none
      writes := ⟨f, s.turn⟩ :: s.writes
      turn := s.turn + 1 } := by
  obtain ⟨hlive, hid, hlt, hbefore⟩ := h.found call f hf
  refine ⟨fun row hrow => ?_, fun w hw => ⟨?_, fun row hrow heq => ?_⟩, fun c g hg => ?_, fun w hw => ?_⟩
  · obtain ⟨old, hold, rfl⟩ := List.mem_map.1 hrow
    split_ifs
    · exact ⟨(h.rows old hold).1, fun hnone => nomatch hnone⟩
    · exact h.rows old hold
  · rcases List.mem_cons.1 hw with rfl | hw
    · exact hid
    · exact (h.spent w hw).1
  · obtain ⟨old, hold, rfl⟩ := List.mem_map.1 hrow
    split_ifs at heq ⊢ with hsame
    · exact fun hnone => nomatch hnone
    · rcases List.mem_cons.1 hw with rfl | hw
      · exact absurd heq hsame
      · exact (h.spent w hw).2 old hold heq
  · have hg' : s.resets c = some g := by
      by_cases hc : c = call
      · dsimp only at hg
        rw [hc, Function.update_self] at hg
        cases hg
      · dsimp only at hg
        rwa [Function.update_of_ne hc] at hg
    obtain ⟨hglive, hgid, hglt, hgbefore⟩ := h.found c g hg'
    refine ⟨hglive, hgid, Nat.lt_succ_of_lt hglt, fun w hw heq => ?_⟩
    rcases List.mem_cons.1 hw with rfl | hw
    · exact hglt
    · exact hgbefore w hw heq
  · rcases List.mem_cons.1 hw with rfl | hw
    · refine ⟨hlive, hlt, Nat.lt_succ_self _, fun w' hw' heq => ?_⟩
      rcases List.mem_cons.1 hw' with rfl | hw'
      · exact hlt
      · exact hbefore w' hw' heq
    · obtain ⟨hwlive, hfound, hwlt, hother⟩ := h.written w hw
      refine ⟨hwlive, hfound, Nat.lt_succ_of_lt hwlt, fun w' hw' heq => ?_⟩
      rcases List.mem_cons.1 hw' with rfl | hw'
      · exact Nat.lt_trans hfound hwlt
      · exact hother w' hw' heq

theorem step_kept (h : Kept s) (op : ResetOp) (hstep : s.step op = some t) : Kept t := by
  have hle : s.turn ≤ s.turn + 1 := Nat.le_succ _
  cases op with
  | select call email =>
      rw [ResetState.step] at hstep
      split_ifs at hstep
      split at hstep <;>
        (obtain rfl := Option.some.inj hstep; exact h.same rfl (Nat.le_refl _) rfl rfl rfl hle)
  | clear call =>
      rw [ResetState.step] at hstep
      split at hstep
      · obtain rfl := Option.some.inj hstep
        exact h.fewer (fun row hrow => (List.mem_filter.1 hrow).1) rfl rfl rfl rfl hle
      · cases hstep
  | insert call tokenHash =>
      rw [ResetState.step] at hstep
      split at hstep
      · dsimp only at hstep
        split_ifs at hstep
        · obtain rfl := Option.some.inj hstep
          exact kept_insert h
        · obtain rfl := Option.some.inj hstep
          exact h.same rfl (Nat.le_succ _) rfl rfl rfl hle
      · cases hstep
  | find call tokenHash =>
      rw [ResetState.step] at hstep
      split_ifs at hstep
      split at hstep
      · rename_i row u hfind
        obtain rfl := Option.some.inj hstep
        exact kept_find h hfind
      · obtain rfl := Option.some.inj hstep
        exact h.same rfl (Nat.le_refl _) rfl rfl rfl hle
  | write call passwordHash =>
      rw [ResetState.step] at hstep
      split at hstep
      · rename_i f hf
        obtain rfl := Option.some.inj hstep
        exact kept_write h hf _
      · cases hstep
  | wait ms =>
      obtain rfl := Option.some.inj hstep
      exact h.same rfl (Nat.le_refl _) rfl rfl rfl hle
  | change user =>
      obtain rfl := Option.some.inj hstep
      exact h.same rfl (Nat.le_refl _) rfl rfl rfl hle
  | delete userId =>
      obtain rfl := Option.some.inj hstep
      exact h.fewer (fun row hrow => (List.mem_filter.1 hrow).1) rfl rfl rfl rfl hle

theorem kept_init (h : resetMachine.init s) : Kept s := by
  obtain ⟨htokens, hresets, hissued, hwrites⟩ := h
  refine ⟨fun row hrow => ?_, fun w hw => ?_, fun call f hf => ?_, fun w hw => ?_⟩
  · rw [htokens] at hrow
    cases hrow
  · rw [hwrites] at hw
    cases hw
  · rw [hresets] at hf
    cases hf
  · rw [hwrites] at hw
    cases hw

end Steps

/-- **Every reset that writes** had found a live token: one issued within the hour before, unused, whose account was no
SSO account. Two resets that write with one token overlap: each found it before the other wrote. -/
theorem writes_spec {s : ResetState} (h : Reach resetMachine anyStep s) {w : Write} (hw : w ∈ s.writes) :
    Live s.issued w.found ∧ ∀ w' ∈ s.writes, w'.found.row.id = w.found.row.id → w.found.turn < w'.turn := by
  have hkept : Kept s := h.invariant (fun _ => kept_init) fun _ op _ hs _ => step_kept hs op
  obtain ⟨hlive, -, -, hother⟩ := hkept.written w hw
  exact ⟨hlive, hother⟩

/-- One user, no token. -/
def oneUser : ResetState :=
  ⟨[⟨1, "ada@example.com", none, "old"⟩], [], 1, 0, fun _ => .idle, fun _ => none, [], [], 0⟩

def resetRun : List ResetOp :=
  [.select 0 "ada@example.com", .clear 0, .insert 0 "h", .wait 1000,
    .find 1 "h", .find 2 "h", .write 1 "new", .write 2 "newer"]

theorem writes_spec_overlapping : ∃ s w, s ∈ resetMachine.exec oneUser resetRun ∧ w ∈ s.writes ∧
    Live s.issued w.found ∧ ∀ w' ∈ s.writes, w'.found.row.id = w.found.row.id → w.found.turn < w'.turn := by
  have hinit : resetMachine.init oneUser := ⟨rfl, fun _ => rfl, rfl, rfl⟩
  have hruns : (resetMachine.exec oneUser resetRun).isSome = true := by decide +kernel
  obtain ⟨s, hs⟩ := Option.isSome_iff_exists.1 hruns
  have hmem : ⟨⟨⟨1, 1, "h", 3600000, none⟩, ⟨1, "ada@example.com", none, "old"⟩, 1000, 4⟩, 6⟩ ∈ s.writes := by
    obtain rfl := Option.some.inj hs
    decide +kernel
  exact ⟨s, _, hs, hmem, writes_spec (reach_of_exec hinit resetRun hs) hmem⟩

end Obliance.Users.PasswordReset
