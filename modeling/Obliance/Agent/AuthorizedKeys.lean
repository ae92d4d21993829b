import Mathlib.Algebra.Group.Int.Defs
import Mathlib.Algebra.Group.Nat.Defs
import Obliance.Agent.KeyLine
import Obliance.Lib.InPlace

/-!
# The key file of the jump account (`agent/sshjump_linux.go`)

Grants, revocations and the janitor rewrite one `authorized_keys` file. A line of a grant ends in a marker with
the grant's id and its expiry.

* `grantExpiry`, `rewriteKeyFile` : a line read, and the file filtered in place;
* `handleSshJumpGrant`, `handleSshJumpRevoke`, `sweep` : the three writers;
* `grantExpiry_entry` : a written line is read as its grant and its expiry;
* `step_lines` : what a writer does to the lines of the file;
* `key_file_discipline` : what holds of the file after any run.
-/

namespace Obliance.Agent
open Numerals InPlace

/-! ## Lines -/

def sshJumpMarker : List Char := "obliance-grant:".toList

/-- The text behind the first marker. -/
def afterMarker : List Char → Option (List Char)
  | [] => none
  | c :: cs =>
      if sshJumpMarker <+: c :: cs then some ((c :: cs).drop sshJumpMarker.length) else afterMarker cs

def isMarked (line : List Char) : Bool := (afterMarker line).isSome

/-- `strconv.ParseInt(s, 10, 64)` -/
def parseInt64 (s : List Char) : Option ℤ :=
  let (negative, digits) := splitSign s
  if digits = [] then none
  else (readDigits 10 0 digits).bind fun n =>
    if -2 ^ 63 ≤ signed negative n ∧ signed negative n < 2 ^ 63 then some (signed negative n) else none

/-- The id and the unix expiry carried by one of our lines, or -1. -/
def grantExpiry (line : List Char) : List Char × ℤ :=
  match afterMarker line with
  | none => ([], -1)
  | some text =>
      match fields text with
      | [] => ([], -1)
      | word :: _ =>
          match word.dropWhile (· ≠ ':') with
          | [] => (word, 0) -- malformed = expired
          | _ :: exp => (word.takeWhile (· ≠ ':'), (parseInt64 exp).getD 0)

example : grantExpiry "ssh-rsa AAAA obliance-grant:0f0f0f0f:1700000000".toList =
    ("0f0f0f0f".toList, 1700000000) := by decide +kernel

/-! ## The file -/

/-- The text of the file, if there is one. -/
abbrev KeyFile := Option (List Char)

def isBlank (line : List Char) : Bool := decide (strip isGoSpace line = [])

/-- The lines that are not blank. -/
def keyLines (file : KeyFile) : List (List Char) := ((file.getD []).splitOn '\n').filter (!isBlank ·)

def fileBody (lines : List (List Char)) : List Char :=
  let body := ['\n'].intercalate lines
  if body ≠ [] then body ++ ['\n'] else []

/-- What the operating system answers to a rewriting; a missing file is no error. -/
structure Disk where
  readError : Option String
  writeError : Option String

def Disk.works (disk : Disk) : Prop := disk.readError = none ∧ disk.writeError = none

/-- An error leaves the file as it was, and so does an edit that changes nothing. -/
def rewriteKeyFile (disk : Disk) (edit : List (List Char) → List (List Char)) (file : KeyFile) :
    Except String KeyFile :=
  match disk.readError with
  | some err => .error err
  | none =>
      let lines := keyLines file
      let next := edit lines
      if lines ≠ [] ∧ next = lines then .ok file
      else
        match disk.writeError with
        | some err => .error err
        | none => .ok (some (fileBody next))

def rewriteIfPresent (disk : Disk) (edit : List (List Char) → List (List Char)) (file : KeyFile) :
    Except String KeyFile :=
  if file.isNone then .ok file else rewriteKeyFile disk edit file

/-! ## Grants -/

/-- `^[0-9a-fA-F-]{8,64}$` -/
def sshJumpGrantRe (id : List Char) : Bool :=
  decide (8 ≤ id.length ∧ id.length ≤ 64) && id.all fun c => (digitOf 16 c).isSome || decide (c = '-')

/-- `time.Now()`, with the nanoseconds of the second. -/
structure Now where
  unix : ℕ
  nanos : ℕ

/-- The seconds of `time.Unix(sec, 0)`, which counts from the year 1 in 64 bits. -/
def timeUnix (sec : ℤ) : ℤ := Int.bmod (sec + 62135596800) (2 ^ 64) - 62135596800

/-- The expiry of a grant, at least 30 seconds away and capped at `sshJumpMaxTTL`. -/
def grantTTL (now : Now) (expiresAt : ℤ) : Option ℤ :=
  let exp := timeUnix expiresAt
  if exp < now.unix + 30 ∨ exp = now.unix + 30 ∧ 0 < now.nanos then none
  else if now.unix + 15 * 60 < exp then some (now.unix + 15 * 60)
  else some exp

/-- An address that sshd answered on: it has neither a line break nor the marker. -/
structure SshdHost where
  text : List Char
  noBreak : '\n' ∉ text
  noMarker : ¬ sshJumpMarker <:+: text

/-- A time to the minute in the machine's local time, in digits. -/
structure LocalTime where
  format : ℤ → List Char
  digits : ∀ t, ∀ c ∈ format t, c.isDigit = true

/-- What a grant meets on the machine: the checks of sshd and of the account, and the files. -/
structure GrantEnv where
  now : Now
  prepared : Except String SshdHost
  expiryOption : Bool
  localTime : LocalTime
  keyFile : String
  disk : Disk

/-- `expiresAt` is the payload's number as an `int64`. -/
structure GrantPayload where
  grantId : List Char
  publicKey : List Char
  expiresAt : ℤ

def grantFrom (host : SshdHost) : List Char :=
  "127.0.0.1,::1".toList ++
    if host.text ≠ "127.0.0.1".toList ∧ host.text ≠ "::1".toList then ',' :: host.text else []

def grantOpts (env : GrantEnv) (host : SshdHost) (exp : ℤ) : List Char :=
  "from=\"".toList ++ (grantFrom host ++ ("\",no-agent-forwarding,no-X11-forwarding".toList ++
    if env.expiryOption then ",expiry-time=\"".toList ++ (env.localTime.format (exp + 60) ++ ['"']) else []))

/-- `"%s %s %s %s%s:%d"` -/
def grantEntry (opts keyType keyB64 grantId : List Char) (exp : ℤ) : List Char :=
  opts ++ ' ' :: (keyType ++ ' ' :: (keyB64 ++ ' ' :: (sshJumpMarker ++ (grantId ++ ':' :: (toString exp).toList))))

/-- Drop expired grants and any previous line of this grant. -/
def grantKeeps (now : ℕ) (grantId : List Char) (line : List Char) : Bool :=
  !decide (0 ≤ (grantExpiry line).2 ∧ ((grantExpiry line).2 ≤ now ∨ (grantExpiry line).1 = grantId))

def handleSshJumpGrant (env : GrantEnv) (payload : GrantPayload) (file : KeyFile) : Except String KeyFile :=
  if sshJumpGrantRe payload.grantId = false then .error "ssh_jump_grant: invalid grantId"
  else
    match validateKeyLine payload.publicKey with
    | .error err => .error ("ssh_jump_grant: " ++ err)
    | .ok (keyType, keyB64) =>
        match grantTTL env.now payload.expiresAt with
        | none => .error "ssh_jump_grant: expiry too short or in the past (clock skew?)"
        | some exp =>
            match env.prepared with
            | .error err => .error err
            | .ok host =>
                let entry := grantEntry (grantOpts env host exp) keyType keyB64 payload.grantId exp
                let edit := fun lines =>
                  filterInPlace (grantKeeps env.now.unix payload.grantId) lines ++ [entry]
                match rewriteKeyFile env.disk edit file with
                | .error err => .error ("ssh_jump_grant: write " ++ env.keyFile ++ ": " ++ err)
                | .ok file => .ok file

/-! ## Revocations and sweeps -/

/-- The lines of a grant; a negative expiry is the sign of a line that is not ours. -/
def isLineOf (grantId : List Char) (line : List Char) : Bool :=
  decide (0 ≤ (grantExpiry line).2 ∧ (grantExpiry line).1 = grantId)

/-- The count of removed lines, and the file. -/
def handleSshJumpRevoke (disk : Disk) (grantId : List Char) (file : KeyFile) : Except String (ℕ × KeyFile) :=
  if sshJumpGrantRe grantId = false then .error "ssh_jump_revoke: invalid grantId"
  else
    let removed := if file.isNone ∨ disk.readError.isSome then 0 else (keyLines file).countP (isLineOf grantId)
    match rewriteIfPresent disk (filterInPlace (!isLineOf grantId ·)) file with
    | .error _ => .ok (removed, file)
    | .ok file => .ok (removed, file)

def isExpired (now : ℕ) (line : List Char) : Bool :=
  decide (0 ≤ (grantExpiry line).2 ∧ (grantExpiry line).2 ≤ now)

/-- The janitor's pass; `account` is false while the account was never provisioned. -/
def sweep (account : Bool) (disk : Disk) (now : ℕ) (file : KeyFile) : KeyFile :=
  if account then
    match rewriteIfPresent disk (filterInPlace (!isExpired now ·)) file with
    | .error _ => file
    | .ok file => file
  else file

/-! ## Runs -/

inductive KeyFileOp where
  | grant (env : GrantEnv) (payload : GrantPayload)
  | revoke (disk : Disk) (grantId : List Char)
  | sweep (account : Bool) (disk : Disk) (now : ℕ)

def step (file : KeyFile) : KeyFileOp → KeyFile
  | .grant env payload => (handleSshJumpGrant env payload file).toOption.getD file
  | .revoke disk grantId => ((handleSshJumpRevoke disk grantId file).toOption.map Prod.snd).getD file
  | .sweep account disk now => sweep account disk now file

def run (file : KeyFile) (ops : List KeyFileOp) : KeyFile := ops.foldl step file

/-- A grant of the id that succeeds. -/
def Grants (grantId : List Char) (file : KeyFile) : KeyFileOp → Prop
  | .grant env payload => payload.grantId = grantId ∧ ∃ file', handleSshJumpGrant env payload file = .ok file'
  | _ => False

/-- No grant of the id succeeds in the run. -/
def NeverGranted (grantId : List Char) : KeyFile → List KeyFileOp → Prop
  | _, [] => True
  | file, op :: ops => ¬ Grants grantId file op ∧ NeverGranted grantId (step file op) ops

/-! ## The text of the file -/

section Text
variable {file : KeyFile} {lines : List (List Char)} {line : List Char}

theorem notMem_of_mem_splitOn {c : Char} {text : List Char} : ∀ piece ∈ text.splitOn c, c ∉ piece := by
  induction text with
  | nil => simp [List.splitOn_eq_singleton]
  | cons x text ih =>
      intro piece hpiece
      rw [List.splitOn_cons_eq_if_modifyHead] at hpiece
      split_ifs at hpiece with hx
      · rcases List.mem_cons.1 hpiece with rfl | hmem
        · exact List.not_mem_nil
        · exact ih piece hmem
      · obtain ⟨first, rest, hsplit⟩ := List.exists_cons_of_ne_nil (List.splitOn_ne_nil c text)
        rw [hsplit] at hpiece ih
        rcases List.mem_cons.1 hpiece with rfl | hmem
        · have hne : c ≠ x := fun heq => hx (by simp [heq])
          simpa [hne] using ih first (.head _)
        · exact ih piece (.tail _ hmem)

/-- A line of the file: not blank, and without a line break. -/
def IsLine (line : List Char) : Prop := isBlank line = false ∧ '\n' ∉ line

theorem isLine_of_mem (h : line ∈ keyLines file) : IsLine line := by
  obtain ⟨hmem, hblank⟩ := List.mem_filter.1 h
  exact ⟨by simpa using hblank, notMem_of_mem_splitOn line hmem⟩

theorem isLine_of_char {c : Char} (hc : c ∈ line) (hspace : isGoSpace c = false) (hbreak : '\n' ∉ line) :
    IsLine line := by
  refine ⟨decide_eq_false fun hnil => ?_, hbreak⟩
  obtain ⟨a, b, ha, hb, hline⟩ := strip_between isGoSpace line
  rw [hnil, List.nil_append] at hline
  rw [hline] at hc
  have hall : isGoSpace c = true := (List.mem_append.1 hc).elim (ha c) (hb c)
  rw [hspace] at hall
  cases hall

/-- The lines that were written are the lines that are read. -/
theorem keyLines_fileBody (h : ∀ line ∈ lines, IsLine line) : keyLines (some (fileBody lines)) = lines := by
  cases lines with
  | nil => decide
  | cons first rest =>
      have hfirst : first ≠ [] := by
        rintro rfl
        exact absurd (h [] (.head _)).1 (by decide)
      have hbody : ['\n'].intercalate (first :: rest) ≠ [] := by
        cases rest with
        | nil => simpa using hfirst
        | cons second rest => simp [List.intercalate_cons_cons]
      have hsplit : (['\n'].intercalate (first :: rest)).splitOn '\n' = first :: rest :=
        List.splitOn_intercalate '\n' (fun line hline => (h line hline).2) (by simp)
      have hempty : ([] : List Char).splitOn '\n' = [[]] := rfl
      have hblank : isBlank [] = true := by decide
      rw [keyLines, fileBody, if_pos hbody, Option.getD_some, List.splitOn_append_cons_self, hsplit, hempty,
        List.filter_append, List.filter_eq_self.2 fun line hline => by simp [(h line hline).1]]
      simp [hblank]

/-- A rewriting that succeeds leaves the edited lines. -/
theorem keyLines_rewriteKeyFile {disk : Disk} {edit : List (List Char) → List (List Char)} {file' : KeyFile}
    (hedit : ∀ line ∈ edit (keyLines file), IsLine line) (h : rewriteKeyFile disk edit file = .ok file') :
    keyLines file' = edit (keyLines file) := by
  unfold rewriteKeyFile at h
  split at h
  · cases h
  · dsimp only at h
    split_ifs at h with hsame
    · obtain rfl := Except.ok.inj h
      exact hsame.2.symm
    · split at h
      · cases h
      · obtain rfl := Except.ok.inj h
        exact keyLines_fileBody hedit

end Text

/-! ## The marker -/

section Marker
variable {p a b line before rest : List Char} {c : Char}

theorem prefix_split (hc : c ∉ p) (h : p <+: a ++ c :: b) : p <+: a := by
  rcases List.prefix_or_prefix_of_prefix h (List.prefix_append a _) with hpre | ⟨r, rfl⟩
  · exact hpre
  · rw [List.prefix_append_right_inj] at h
    cases r with
    | nil => simp
    | cons x r =>
        obtain ⟨rfl, -⟩ := List.cons_prefix_cons.1 h
        simp at hc

/-- A text without a character occurs on one side of it. -/
theorem infix_split (hc : c ∉ p) (h : p <:+: a ++ c :: b) : p <:+: a ∨ p <:+: b := by
  induction a with
  | nil =>
      rcases List.infix_cons_iff.1 h with hpre | hb
      · exact .inl (prefix_split hc (a := []) hpre).isInfix
      · exact .inr hb
  | cons x a ih =>
      rcases List.infix_cons_iff.1 h with hpre | hb
      · exact .inl (prefix_split hc (a := x :: a) hpre).isInfix
      · exact (ih hb).imp (List.infix_cons) id

/-- A line without the marker has no expiry. -/
theorem grantExpiry_unmarked (h : isMarked line = false) : grantExpiry line = ([], -1) := by
  rw [isMarked, Option.isSome_eq_false_iff, Option.isNone_iff_eq_none] at h
  rw [grantExpiry, h]

theorem afterMarker_behind (hbefore : ¬ sshJumpMarker <:+: before) (hc : c ∉ sshJumpMarker) :
    afterMarker (before ++ c :: (sshJumpMarker ++ rest)) = some rest := by
  induction before with
  | nil =>
      have hne : ¬ sshJumpMarker <+: c :: (sshJumpMarker ++ rest) := by
        intro hpre
        have hnil := prefix_split hc (a := []) hpre
        exact absurd (List.prefix_nil.1 hnil) (by decide)
      have hhere : afterMarker (sshJumpMarker ++ rest) = some rest := by
        have hcons : sshJumpMarker ++ rest = 'o' :: ("bliance-grant:".toList ++ rest) := rfl
        rw [hcons, afterMarker, ← hcons, if_pos (List.prefix_append _ _), List.drop_left]
      rw [List.nil_append, afterMarker, if_neg hne, hhere]
  | cons x before ih =>
      have hne : ¬ sshJumpMarker <+: x :: before ++ c :: (sshJumpMarker ++ rest) :=
        fun hpre => hbefore (prefix_split hc hpre).isInfix
      rw [List.cons_append] at hne ⊢
      rw [afterMarker, if_neg hne, ih fun hin => hbefore (List.infix_cons hin)]

theorem parseInt64_decimal {n : ℕ} (hn : n < 2 ^ 63) : parseInt64 (toString n).toList = some (n : ℤ) := by
  have hread := readDigits_decimal n
  have hsign : splitSign (toString n).toList = (false, (toString n).toList) := by
    have hminus := notMem_decimal (c := '-') (by decide) n
    have hplus := notMem_decimal (c := '+') (by decide) n
    unfold splitSign
    split
    · rename_i heq
      exact absurd (heq ▸ List.mem_cons_self) hminus
    · rename_i heq
      exact absurd (heq ▸ List.mem_cons_self) hplus
    · rfl
  have hne : (toString n).toList ≠ [] := by
    rw [Nat.toString_eq_repr, Nat.toList_repr]
    exact Nat.toDigits_ne_nil
  rw [parseInt64, hsign]
  dsimp only
  rw [if_neg hne, hread, Option.bind_some, if_pos ⟨by simp [signed], by simp [signed]; omega⟩]
  rfl

theorem noMarker_of_notMem (hc : c ∈ sshJumpMarker) (h : c ∉ line) : ¬ sshJumpMarker <:+: line :=
  fun hin => h (hin.subset hc)

theorem word_of_key (h : validateKeyLine line = .ok (a, b)) :
    a ∈ sshJumpTypes ∧ '-' ∉ b ∧ '\n' ∉ b := by
  unfold validateKeyLine at h
  split at h
  · rename_i type b64 hfields
    have hb64 : sshJumpB64Re b64 = true → '-' ∉ b64 ∧ '\n' ∉ b64 := by
      intro hre
      obtain ⟨-, hdrop⟩ := Bool.and_eq_true_iff.1 hre
      have hchars : ∀ c ∈ b64, Base64.isDigit c = true ∨ c = '=' := by
        intro c hc
        rw [← List.takeWhile_append_dropWhile (p := Base64.isDigit) (l := b64)] at hc
        rcases List.mem_append.1 hc with hc | hc
        · exact .inl (List.mem_takeWhile_imp hc)
        · right
          have hpads : ∀ pad ∈ [[], ['='], ['=', '=']], (pad.all fun c => decide (c = '=')) = true := by decide
          exact of_decide_eq_true (List.all_eq_true.1 (hpads _ (of_decide_eq_true hdrop)) c hc)
      exact ⟨fun hc => by rcases hchars _ hc with h | h <;> exact absurd h (by decide +kernel),
        fun hc => by rcases hchars _ hc with h | h <;> exact absurd h (by decide +kernel)⟩
    split_ifs at h with hnot
    push Not at hnot
    obtain ⟨htype, hre⟩ := hnot
    split at h
    · cases h
    · split_ifs at h
      obtain ⟨rfl, rfl⟩ := Prod.mk.inj (Except.ok.inj h)
      exact ⟨htype, hb64 (by simpa using hre)⟩
  · cases h

end Marker

/-! ## The line of a grant -/

section Entry
variable {env : GrantEnv} {host : SshdHost} {keyType keyB64 grantId : List Char} {exp : ℤ} {n : ℕ}

theorem grantOpts_eq : grantOpts env host exp = "from=".toList ++ '"' :: (grantFrom host ++ '"' ::
    (",no-agent-forwarding,no-X11-forwarding".toList ++ if env.expiryOption then
      ",expiry-time=".toList ++ '"' :: (env.localTime.format (exp + 60) ++ ['"']) else [])) := by
  have hfrom : "from=\"".toList = "from=".toList ++ ['"'] := by decide
  have hflags : "\",no-agent-forwarding,no-X11-forwarding".toList =
      '"' :: ",no-agent-forwarding,no-X11-forwarding".toList := by decide
  have htime : ",expiry-time=\"".toList = ",expiry-time=".toList ++ ['"'] := by decide
  unfold grantOpts
  simp only [hfrom, hflags, htime, List.append_assoc, List.cons_append, List.nil_append]

theorem grantFrom_noMarker : ¬ sshJumpMarker <:+: grantFrom host := by
  have hloop : ¬ sshJumpMarker <:+: "127.0.0.1,::1".toList :=
    noMarker_of_notMem (show '-' ∈ sshJumpMarker by decide) (by decide)
  unfold grantFrom
  split_ifs
  · intro h
    exact (infix_split (by decide) h).elim hloop host.noMarker
  · rwa [List.append_nil]

theorem grantOpts_noMarker : ¬ sshJumpMarker <:+: grantOpts env host exp := by
  have hcolon : ':' ∈ sshJumpMarker := by decide
  rw [grantOpts_eq]
  intro h
  rcases infix_split (by decide) h with h | h
  · exact noMarker_of_notMem hcolon (by decide) h
  rcases infix_split (by decide) h with h | h
  · exact grantFrom_noMarker h
  split_ifs at h
  · rw [← List.append_assoc] at h
    rcases infix_split (by decide) h with h | h
    · exact noMarker_of_notMem hcolon (by decide) h
    rcases infix_split (by decide) h with h | h
    · refine noMarker_of_notMem hcolon (fun hmem => ?_) h
      exact absurd (env.localTime.digits _ _ hmem) (by decide)
    · exact noMarker_of_notMem hcolon List.not_mem_nil h
  · rw [List.append_nil] at h
    exact noMarker_of_notMem hcolon (by decide) h

theorem grantOpts_noBreak : '\n' ∉ grantOpts env host exp := by
  have hfrom : '\n' ∉ grantFrom host := by
    have hloop : '\n' ∉ "127.0.0.1,::1".toList := by decide
    unfold grantFrom
    split_ifs
    · exact List.not_mem_append hloop (List.not_mem_cons_of_ne_of_not_mem (by decide) host.noBreak)
    · exact List.not_mem_append hloop List.not_mem_nil
  have hword : ∀ word ∈ ["from=\"".toList, "\",no-agent-forwarding,no-X11-forwarding".toList,
      ",expiry-time=\"".toList, ['"']], '\n' ∉ word := by decide
  have htime : '\n' ∉ env.localTime.format (exp + 60) :=
    fun hmem => absurd (env.localTime.digits _ _ hmem) (by decide)
  simp only [List.mem_cons, List.not_mem_nil, or_false, forall_eq_or_imp, forall_eq] at hword
  obtain ⟨hstart, hflags, hexpiry, hquote⟩ := hword
  refine List.not_mem_append hstart (List.not_mem_append hfrom (List.not_mem_append hflags ?_))
  split_ifs
  · exact List.not_mem_append hexpiry (List.not_mem_append htime (by simp))
  · exact List.not_mem_nil

theorem grantEntry_eq : grantEntry (grantOpts env host exp) keyType keyB64 grantId exp =
    (grantOpts env host exp ++ ' ' :: (keyType ++ ' ' :: keyB64)) ++
      ' ' :: (sshJumpMarker ++ (grantId ++ ':' :: (toString exp).toList)) := by
  simp [grantEntry]

theorem toNat_of_hex {c : Char} (h : (digitOf 16 c).isSome = true) : 48 ≤ c.toNat ∧ c.toNat ≤ 102 := by
  have hbetween : ∀ {lo hi : Char}, 48 ≤ lo.toNat → hi.toNat ≤ 102 → lo ≤ c ∧ c ≤ hi →
      48 ≤ c.toNat ∧ c.toNat ≤ 102 :=
    fun hlo hhi hc => ⟨Nat.le_trans hlo hc.1, Nat.le_trans hc.2 hhi⟩
  by_contra hout
  have hdigit : ¬ ('0' ≤ c ∧ c ≤ '9') := mt (hbetween (by decide) (by decide)) hout
  have hsmall : ¬ ('a' ≤ c ∧ c ≤ 'f') := mt (hbetween (by decide) (by decide)) hout
  have hcapital : ¬ ('A' ≤ c ∧ c ≤ 'F') := mt (hbetween (by decide) (by decide)) hout
  simp [digitOf, hdigit, hsmall, hcapital] at h

theorem noSpace_of_hex {c : Char} (h : (digitOf 16 c).isSome = true) : isGoSpace c = false := by
  obtain ⟨hlo, hhi⟩ := toNat_of_hex h
  by_contra hspace
  rw [Bool.not_eq_false, isGoSpace, Bool.or_eq_true] at hspace
  rcases hspace with hmem | hrange
  · have hcode := List.mem_map_of_mem (f := Char.toNat) (of_decide_eq_true hmem)
    simp at hcode
    omega
  · have hlow : 0x2000 ≤ c.toNat := of_decide_eq_true (Bool.and_eq_true_iff.1 hrange).1
    omega

theorem hex_of_isDigit {c : Char} (h : c.isDigit = true) : (digitOf 16 c).isSome = true := by
  simp only [Char.isDigit, ge_iff_le, Bool.and_eq_true, decide_eq_true_eq] at h
  have hzero : '0' ≤ c := h.1
  have hnine : c ≤ '9' := h.2
  have hlt : c.toNat - 48 < 16 := by
    have hle : c.toNat ≤ 57 := hnine
    omega
  unfold digitOf
  simp [hzero, hnine, hlt]

/-- An id has no blank and no colon. -/
theorem chars_of_grantRe (h : sshJumpGrantRe grantId = true) :
    grantId ≠ [] ∧ ∀ c ∈ grantId, isGoSpace c = false ∧ c ≠ ':' := by
  obtain ⟨hlen, hall⟩ := Bool.and_eq_true_iff.1 h
  refine ⟨?_, fun c hc => ?_⟩
  · rintro rfl
    exact absurd hlen (by decide)
  · have hchar := List.all_eq_true.1 hall c hc
    rw [Bool.or_eq_true, decide_eq_true_eq] at hchar
    rcases hchar with hhex | rfl
    · refine ⟨noSpace_of_hex hhex, ?_⟩
      rintro rfl
      exact absurd hhex (by decide)
    · decide

/-- The line of a grant is read as its id and its expiry. -/
theorem grantExpiry_entry (hid : sshJumpGrantRe grantId = true) (htype : keyType ∈ sshJumpTypes)
    (hb64 : '-' ∉ keyB64) (hn : n < 2 ^ 63) :
    grantExpiry (grantEntry (grantOpts env host n) keyType keyB64 grantId n) = (grantId, (n : ℤ)) := by
  have htypes : ∀ type ∈ sshJumpTypes, ':' ∉ type := by decide
  have hcolon : ':' ∈ sshJumpMarker := by decide
  have hbefore : ¬ sshJumpMarker <:+: grantOpts env host n ++ ' ' :: (keyType ++ ' ' :: keyB64) := by
    intro h
    rcases infix_split (by decide) h with h | h
    · exact grantOpts_noMarker h
    rcases infix_split (by decide) h with h | h
    · exact noMarker_of_notMem hcolon (htypes keyType htype) h
    · exact noMarker_of_notMem (show '-' ∈ sshJumpMarker by decide) hb64 h
  obtain ⟨-, hchars⟩ := chars_of_grantRe hid
  have hdecimal : (toString (n : ℤ)).toList = (toString n).toList := rfl
  have hword : fields (grantId ++ ':' :: (toString n).toList) = [grantId ++ ':' :: (toString n).toList] := by
    have hspace : ∀ c ∈ grantId ++ ':' :: (toString n).toList, isGoSpace c = false := by
      intro c hc
      rcases List.mem_append.1 hc with hc | hc
      · exact (hchars c hc).1
      · rcases List.mem_cons.1 hc with rfl | hc
        · decide
        · exact noSpace_of_hex (hex_of_isDigit (isDigit_of_mem_decimal hc))
    rw [fields, List.splitOnP_eq_singleton hspace]
    simp
  have hid : ∀ c ∈ grantId, decide (c ≠ ':') = true := fun c hc => by simpa using (hchars c hc).2
  rw [grantEntry_eq, grantExpiry, afterMarker_behind hbefore (by decide), hdecimal]
  dsimp only
  rw [hword]
  dsimp only
  rw [List.dropWhile_append_of_pos hid, List.dropWhile_cons_of_neg (by simp)]
  dsimp only
  rw [List.takeWhile_append_of_pos hid, List.takeWhile_cons_of_neg (by simp), parseInt64_decimal hn]
  simp

theorem isLine_entry (hid : sshJumpGrantRe grantId = true) (htype : keyType ∈ sshJumpTypes)
    (hb64 : '\n' ∉ keyB64) :
    IsLine (grantEntry (grantOpts env host n) keyType keyB64 grantId n) := by
  have htypes : ∀ type ∈ sshJumpTypes, '\n' ∉ type := by decide
  have hmarker : '\n' ∉ sshJumpMarker := by decide
  have hgrant : '\n' ∉ grantId := fun hmem => absurd ((chars_of_grantRe hid).2 _ hmem).1 (by decide)
  have hexp : '\n' ∉ (n : ℤ).repr.toList := notMem_decimal (by decide) n
  refine isLine_of_char (c := 'f') (List.mem_append_left _ (.head _)) (by decide) ?_
  simp [grantEntry, grantOpts_noBreak, htypes keyType htype, hmarker, hgrant, hexp, hb64]

end Entry

/-! ## One writer -/

section Writers
variable {env : GrantEnv} {payload : GrantPayload} {disk : Disk} {file file' : KeyFile} {grantId line : List Char}
  {now : ℕ} {exp : ℤ} {removed : ℕ}

/-- A grant lasts from 30 seconds to 15 minutes. -/
theorem grantTTL_bounds {t : Now} {expiresAt : ℤ} (h : grantTTL t expiresAt = some exp) :
    ∃ n : ℕ, exp = n ∧ t.unix + 30 ≤ n ∧ n ≤ t.unix + 15 * 60 ∧ n < 2 ^ 63 := by
  have hlt : timeUnix expiresAt < 2 ^ 63 := by
    have hmod := Int.bmod_lt (x := expiresAt + 62135596800) (m := 2 ^ 64) (by decide)
    unfold timeUnix
    omega
  unfold grantTTL at h
  dsimp only at h
  split_ifs at h with hshort hlong
  · obtain rfl := Option.some.inj h
    exact ⟨t.unix + 15 * 60, by omega, by omega, by omega, by omega⟩
  · obtain rfl := Option.some.inj h
    obtain ⟨n, hn⟩ := Int.eq_ofNat_of_zero_le (show 0 ≤ timeUnix expiresAt by omega)
    exact ⟨n, hn, by omega, by omega, by omega⟩

/-- The line that a grant writes. -/
def IsLineFor (env : GrantEnv) (payload : GrantPayload) (line : List Char) : Prop :=
  IsLine line ∧ ∃ n : ℕ, grantExpiry line = (payload.grantId, (n : ℤ)) ∧ n ≤ env.now.unix + 15 * 60

theorem keyLines_filter (keep : List Char → Bool) {added : List (List Char)} (hadded : ∀ line ∈ added, IsLine line)
    (h : rewriteKeyFile disk (fun lines => filterInPlace keep lines ++ added) file = .ok file') :
    keyLines file' = (keyLines file).filter keep ++ added := by
  refine (keyLines_rewriteKeyFile (fun line hline => ?_) h).trans (by rw [filterInPlace_eq])
  rw [filterInPlace_eq] at hline
  rcases List.mem_append.1 hline with hline | hline
  · exact isLine_of_mem (List.mem_of_mem_filter hline)
  · exact hadded line hline

/-- A grant that succeeds drops the expired lines and its own earlier ones and adds one. -/
theorem grant_lines (h : handleSshJumpGrant env payload file = .ok file') :
    ∃ line, IsLineFor env payload line ∧ keyLines file' =
      (keyLines file).filter (grantKeeps env.now.unix payload.grantId) ++ [line] := by
  unfold handleSshJumpGrant at h
  split_ifs at h with hid
  rw [Bool.not_eq_false] at hid
  split at h
  · cases h
  rename_i keyType keyB64 hkey
  obtain ⟨htype, hdash, hbreak⟩ := word_of_key hkey
  split at h
  · cases h
  rename_i exp hexp
  obtain ⟨n, rfl, -, hmax, hlt⟩ := grantTTL_bounds hexp
  split at h
  · cases h
  rename_i host hprepared
  dsimp only at h
  split at h
  · cases h
  rename_i file'' hfile
  obtain rfl := Except.ok.inj h
  have hline := @isLine_entry env host keyType keyB64 payload.grantId n hid htype hbreak
  refine ⟨_, ⟨hline, n, grantExpiry_entry hid htype hdash hlt, hmax⟩, keyLines_filter _ ?_ hfile⟩
  intro line hmem
  rw [List.mem_singleton.1 hmem]
  exact hline

/-- A writer of a file that is there keeps some of its lines, or fails. -/
theorem rewriteIfPresent_lines (keep : List Char → Bool)
    (h : rewriteIfPresent disk (filterInPlace keep) file = .ok file') :
    keyLines file' = (keyLines file).filter keep := by
  unfold rewriteIfPresent at h
  split_ifs at h with hnone
  · obtain rfl := Except.ok.inj h
    rw [Option.isNone_iff_eq_none.1 hnone]
    rfl
  · have hedit : filterInPlace keep = fun lines => filterInPlace keep lines ++ [] := by
      funext lines
      exact (List.append_nil _).symm
    rw [hedit] at h
    rw [keyLines_filter keep (by simp) h, List.append_nil]

theorem rewriteIfPresent_works (hworks : disk.works) (edit : List (List Char) → List (List Char))
    (file : KeyFile) : ∃ file', rewriteIfPresent disk edit file = .ok file' := by
  unfold rewriteIfPresent rewriteKeyFile
  rw [hworks.1, hworks.2]
  dsimp only
  split_ifs <;> exact ⟨_, rfl⟩

theorem revoke_lines (h : handleSshJumpRevoke disk grantId file = .ok (removed, file')) :
    (keyLines file' = (keyLines file).filter (!isLineOf grantId ·)) ∨ file' = file ∧ ¬ disk.works := by
  unfold handleSshJumpRevoke at h
  by_cases hid : sshJumpGrantRe grantId = false
  · rw [if_pos hid] at h
    cases h
  rw [if_neg hid] at h
  dsimp only at h
  cases hfile : rewriteIfPresent disk (filterInPlace (!isLineOf grantId ·)) file with
  | error err =>
      rw [hfile] at h
      refine .inr ⟨(Prod.mk.inj (Except.ok.inj h)).2.symm, fun hworks => ?_⟩
      obtain ⟨file'', hok⟩ := rewriteIfPresent_works hworks (filterInPlace (!isLineOf grantId ·)) file
      rw [hok] at hfile
      cases hfile
  | ok file'' =>
      rw [hfile] at h
      obtain ⟨-, rfl⟩ := Prod.mk.inj (Except.ok.inj h)
      exact .inl (rewriteIfPresent_lines _ hfile)

theorem sweep_lines (account : Bool) :
    (keyLines (sweep account disk now file) = (keyLines file).filter (!isExpired now ·)) ∨
      sweep account disk now file = file ∧ ¬ (account = true ∧ disk.works) := by
  unfold sweep
  split_ifs with haccount
  · split
    · rename_i err herr
      refine .inr ⟨rfl, fun hworks => ?_⟩
      obtain ⟨file'', hok⟩ := rewriteIfPresent_works hworks.2 (filterInPlace (!isExpired now ·)) file
      rw [hok] at herr
      cases herr
    · rename_i file'' hok
      exact .inl (rewriteIfPresent_lines _ hok)
  · exact .inr ⟨rfl, fun h => haccount h.1⟩

end Writers

/-! ## Runs of the writers -/

section Discipline
variable {file : KeyFile} {op : KeyFileOp} {grantId : List Char}

/-- A step is a grant that succeeds, or it drops some marked lines. -/
theorem step_lines (file : KeyFile) (op : KeyFileOp) :
    (∃ env payload line, op = .grant env payload ∧ Grants payload.grantId file op ∧ IsLineFor env payload line ∧
      keyLines (step file op) = (keyLines file).filter (grantKeeps env.now.unix payload.grantId) ++ [line]) ∨
    ∃ keep : List Char → Bool, (∀ line, isMarked line = false → keep line = true) ∧
      keyLines (step file op) = (keyLines file).filter keep := by
  have hsame : ∃ keep : List Char → Bool, (∀ line, isMarked line = false → keep line = true) ∧
      keyLines file = (keyLines file).filter keep := ⟨fun _ => true, fun _ _ => rfl, by simp⟩
  cases op with
  | grant env payload =>
      cases hgrant : handleSshJumpGrant env payload file with
      | error err =>
          right
          rw [step, hgrant]
          exact hsame
      | ok file' =>
          obtain ⟨line, hline, hlines⟩ := grant_lines hgrant
          refine .inl ⟨env, payload, line, rfl, ⟨rfl, file', hgrant⟩, hline, ?_⟩
          rw [step, hgrant]
          exact hlines
  | revoke disk id =>
      right
      cases hrevoke : handleSshJumpRevoke disk id file with
      | error err =>
          rw [step, hrevoke]
          exact hsame
      | ok result =>
          rw [step, hrevoke]
          rcases revoke_lines hrevoke with hlines | ⟨heq, -⟩
          · refine ⟨_, fun line hline => ?_, hlines⟩
            simp [isLineOf, grantExpiry_unmarked hline]
          · show ∃ keep : List Char → Bool, _ ∧ keyLines result.2 = _
            rw [heq]
            exact hsame
  | sweep account disk now =>
      right
      rw [step]
      rcases @sweep_lines disk file now account with hlines | ⟨heq, -⟩
      · refine ⟨_, fun line hline => ?_, hlines⟩
        simp [isExpired, grantExpiry_unmarked hline]
      · rw [heq]
        exact hsame

theorem isLineOf_lineFor {env : GrantEnv} {payload : GrantPayload} {line : List Char}
    (h : IsLineFor env payload line) (grantId : List Char) :
    isLineOf grantId line = decide (payload.grantId = grantId) := by
  obtain ⟨-, n, hn, -⟩ := h
  simp [isLineOf, hn]

/-- A grant keeps no earlier line of its own. -/
theorem filter_isLineOf_grantKeeps (now : ℕ) (lines : List (List Char)) :
    (lines.filter (grantKeeps now grantId)).filter (isLineOf grantId) = [] := by
  rw [List.filter_filter, List.filter_eq_nil_iff]
  intro line _ h
  obtain ⟨hof, hkeep⟩ := Bool.and_eq_true_iff.1 h
  obtain ⟨hpos, hid⟩ := of_decide_eq_true hof
  rw [grantKeeps, Bool.not_eq_true', decide_eq_false_iff_not] at hkeep
  exact hkeep ⟨hpos, .inr hid⟩

theorem step_unmarked : (keyLines (step file op)).filter (!isMarked ·) = (keyLines file).filter (!isMarked ·) := by
  have hkeeps : ∀ keep : List Char → Bool, (∀ line, isMarked line = false → keep line = true) →
      ((keyLines file).filter keep).filter (!isMarked ·) = (keyLines file).filter (!isMarked ·) := by
    intro keep hkeep
    rw [List.filter_filter]
    refine List.filter_congr fun line _ => ?_
    cases hmarked : isMarked line with
    | true => rfl
    | false => simp [hkeep line hmarked]
  rcases step_lines file op with ⟨env, payload, line, -, -, hline, hlines⟩ | ⟨keep, hkeep, hlines⟩
  · have hmarked : isMarked line = true := by
      by_contra hnot
      obtain ⟨-, n, hn, -⟩ := hline
      rw [grantExpiry_unmarked (by simpa using hnot)] at hn
      have := (Prod.mk.inj hn).2
      omega
    rw [hlines, List.filter_append, hkeeps _ fun line hline => by simp [grantKeeps, grantExpiry_unmarked hline]]
    simp [hmarked]
  · rw [hlines, hkeeps keep hkeep]

theorem step_atMostOne (h : (keyLines file).countP (isLineOf grantId) ≤ 1) :
    (keyLines (step file op)).countP (isLineOf grantId) ≤ 1 := by
  have hfilter : ∀ keep : List Char → Bool, ((keyLines file).filter keep).countP (isLineOf grantId) ≤ 1 :=
    fun keep => (List.filter_sublist.countP_le).trans h
  rcases step_lines file op with ⟨env, payload, line, -, -, hline, hlines⟩ | ⟨keep, -, hlines⟩
  · rw [hlines, List.countP_append, List.countP_singleton, isLineOf_lineFor hline]
    by_cases hid : payload.grantId = grantId
    · have hnone := @filter_isLineOf_grantKeeps payload.grantId env.now.unix (keyLines file)
      rw [← hid, List.countP_eq_length_filter, hnone]
      simp
    · simpa [hid] using hfilter _
  · rw [hlines]
    exact hfilter keep

/-- Without a grant of the id no line of the id appears. -/
theorem step_revoked (hnot : ¬ Grants grantId file op) (h : ∀ line ∈ keyLines file, isLineOf grantId line = false) :
    ∀ line ∈ keyLines (step file op), isLineOf grantId line = false := by
  intro line hline
  rcases step_lines file op with ⟨env, payload, added, -, hgrants, hadded, hlines⟩ | ⟨keep, -, hlines⟩
  · rw [hlines] at hline
    rcases List.mem_append.1 hline with hline | hline
    · exact h line (List.mem_of_mem_filter hline)
    · rw [List.mem_singleton.1 hline, isLineOf_lineFor hadded, decide_eq_false_iff_not]
      rintro rfl
      exact hnot hgrants
  · rw [hlines] at hline
    exact h line (List.mem_of_mem_filter hline)

theorem run_append (file : KeyFile) (ops later : List KeyFileOp) :
    run file (ops ++ later) = run (run file ops) later := List.foldl_append

theorem run_cons (file : KeyFile) (op : KeyFileOp) (ops : List KeyFileOp) :
    run file (op :: ops) = run (step file op) ops := rfl

theorem run_revoked {ops : List KeyFileOp} (hnever : NeverGranted grantId file ops)
    (h : ∀ line ∈ keyLines file, isLineOf grantId line = false) :
    ∀ line ∈ keyLines (run file ops), isLineOf grantId line = false := by
  induction ops generalizing file with
  | nil => exact h
  | cons op ops ih => exact ih hnever.2 (step_revoked hnever.1 h)

/-- After any run: the unmarked lines are the initial ones in their order; an id with at most one line keeps at
most one; a grant writes the only line of its id, which expires within 15 minutes, and no other; a revoked id has
no line until it is granted; and after a sweep no expired line is left. Lines with a negative expiry count as
lines of no grant. -/
theorem key_file_discipline (file : KeyFile) (ops : List KeyFileOp) :
    ((keyLines (run file ops)).filter (!isMarked ·) = (keyLines file).filter (!isMarked ·)) ∧
    (∀ grantId, (keyLines file).countP (isLineOf grantId) ≤ 1 →
      (keyLines (run file ops)).countP (isLineOf grantId) ≤ 1) ∧
    (∀ env payload file', handleSshJumpGrant env payload (run file ops) = .ok file' →
      ∃ line, ∃ n : ℕ, (keyLines file').filter (isLineOf payload.grantId) = [line] ∧
        grantExpiry line = (payload.grantId, (n : ℤ)) ∧ n ≤ env.now.unix + 15 * 60 ∧
        ∀ other ∈ keyLines file', other ∈ keyLines (run file ops) ∨ other = line) ∧
    (∀ disk grantId later, disk.works → sshJumpGrantRe grantId = true →
      NeverGranted grantId (step (run file ops) (.revoke disk grantId)) later →
      ∀ line ∈ keyLines (run file (ops ++ .revoke disk grantId :: later)), isLineOf grantId line = false) ∧
    (∀ disk now, disk.works → ∀ line ∈ keyLines (run file (ops ++ [.sweep true disk now])),
      isExpired now line = false) := by
  refine ⟨?_, fun grantId hone => ?_, fun env payload file' hgrant => ?_,
    fun disk grantId later hworks hid hnever => ?_, fun disk now hworks line hline => ?_⟩
  · induction ops generalizing file with
    | nil => rfl
    | cons op ops ih => exact (ih (step file op)).trans step_unmarked
  · induction ops generalizing file with
    | nil => exact hone
    | cons op ops ih => exact ih (step file op) (step_atMostOne hone)
  · obtain ⟨line, hfor, hlines⟩ := grant_lines hgrant
    have hof := isLineOf_lineFor hfor payload.grantId
    obtain ⟨-, n, hn, hmax⟩ := hfor
    refine ⟨line, n, ?_, hn, hmax, fun other hother => ?_⟩
    · rw [hlines, List.filter_append, filter_isLineOf_grantKeeps]
      simp [hof]
    · rw [hlines] at hother
      exact (List.mem_append.1 hother).imp List.mem_of_mem_filter List.mem_singleton.1
  · rw [run_append, run_cons]
    refine run_revoked hnever fun line hline => ?_
    cases hrevoke : handleSshJumpRevoke disk grantId (run file ops) with
    | error err =>
        rw [handleSshJumpRevoke, if_neg (by simp [hid])] at hrevoke
        dsimp only at hrevoke
        split at hrevoke <;> cases hrevoke
    | ok result =>
        rw [step, hrevoke] at hline
        rcases revoke_lines hrevoke with hlines | ⟨-, hfails⟩
        · have hkeep := (List.mem_filter.1 (hlines ▸ hline)).2
          simpa using hkeep
        · exact absurd hworks hfails
  · rw [run_append] at hline
    have hline : line ∈ keyLines (sweep true disk now (run file ops)) := hline
    rcases sweep_lines true with hlines | ⟨-, hfails⟩
    · rw [hlines] at hline
      simpa using (List.mem_filter.1 hline).2
    · exact absurd ⟨rfl, hworks⟩ hfails

/-- The administrator's key and an old grant, swept. -/
theorem key_file_swept :
    (keyLines (run (some "ssh-rsa AAAA admin\n\nssh-rsa BBBB obliance-grant:0f0f0f0f:100\n".toList)
      [.revoke ⟨none, none⟩ "1e1e1e1e".toList])).filter (!isMarked ·) = ["ssh-rsa AAAA admin".toList] ∧
    ∀ line ∈ keyLines (run (some "ssh-rsa AAAA admin\n\nssh-rsa BBBB obliance-grant:0f0f0f0f:100\n".toList)
      ([.revoke ⟨none, none⟩ "1e1e1e1e".toList] ++ [.sweep true ⟨none, none⟩ 200])), isExpired 200 line = false := by
  obtain ⟨hunmarked, -, -, -, hswept⟩ := key_file_discipline
    (some "ssh-rsa AAAA admin\n\nssh-rsa BBBB obliance-grant:0f0f0f0f:100\n".toList)
    [.revoke ⟨none, none⟩ "1e1e1e1e".toList]
  exact ⟨hunmarked.trans (by decide +kernel), hswept ⟨none, none⟩ 200 ⟨rfl, rfl⟩⟩

/-- Two lines of one grant that were there from the start stay, and so does a line with a negative expiry. -/
theorem initial_lines_kept :
    (¬ ∀ (file : KeyFile) (ops : List KeyFileOp) (grantId : List Char),
      (keyLines (run file ops)).countP (fun line => isMarked line && (grantExpiry line).1 = grantId) ≤ 1) ∧
    ¬ ∀ (file : KeyFile) (now : ℕ), ∀ line ∈ keyLines (run file [.sweep true ⟨none, none⟩ now]),
      isMarked line = true → (now : ℤ) < (grantExpiry line).2 := by
  constructor
  · intro h
    have htwo := h (some "k obliance-grant:0f0f0f0f:900\nm obliance-grant:0f0f0f0f:900".toList)
      [.sweep true ⟨none, none⟩ 200] "0f0f0f0f".toList
    exact absurd htwo (by decide +kernel)
  · intro h
    have hkept := h (some "k obliance-grant:0f0f0f0f:-5".toList) 200 "k obliance-grant:0f0f0f0f:-5".toList
      (by decide +kernel) (by decide +kernel)
    exact absurd hkept (by decide +kernel)

end Discipline

end Obliance.Agent
