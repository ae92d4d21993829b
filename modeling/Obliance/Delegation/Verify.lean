import Mathlib.Algebra.GroupWithZero.Nat
import Mathlib.Algebra.Order.Group.Unbundled.Abs
import Mathlib.Data.Int.Order.Basic
import Obliance.Js.Json
import Obliance.Lib.Numerals

/-!
# Delegation tokens

`verifyToken` of the delegation service, at the instant of its `Date.now()`.

* `World` : the Obligate origin, the key cache and the users at the time of one verification;
* `readToken` : every check up to the claims; `checkTimes` : the clock; `resolveLocalSubject` : the user;
* `verify_ok_iff` : a token is accepted when all three let it pass;
* `checkTimes_iff` : the instants at which the clock lets a token pass;
* `never_standing_iff` : any two instants of acceptance are near, if and only if the lifetime from `nbf` to
  `exp` is short or the one from `iat` is too long;
* `standing_token` : a token accepted for decades.
-/

namespace Obliance.Delegation
open Js (Json)

def THIS_AUDIENCE : List Char := "obliance".toList

def ALLOWED_ALG : List Char := "EdDSA".toList

/-- In seconds. -/
def CLOCK_SKEW_SEC : ℤ := 30

def MAX_LIFETIME_SEC : ℤ := 300

def MAX_TOKEN_BYTES : ℕ := 4096

/-- In milliseconds. -/
def JWKS_MIN_REFETCH_MS : ℤ := 10000

inductive DelegationFailureReason where
  | not_configured
  | token_malformed
  | header_invalid
  | alg_not_allowed
  | typ_invalid
  | kid_missing
  | kid_unknown
  | jwks_unavailable
  | signature_invalid
  | payload_invalid
  | issuer_mismatch
  | audience_mismatch
  | azp_invalid
  | subject_invalid
  | tenant_slug_invalid
  | jti_invalid
  | token_not_yet_valid
  | token_expired
  | token_lifetime_excessive
  | subject_not_linked
  | subject_inactive
  | internal_error
  deriving DecidableEq, Repr

structure DelegationClaims where
  iss : List Char
  aud : List Char
  azp : List Char
  sub : List Char
  ost : List Char
  scp : List Char
  jti : List Char
  iat : ℤ
  nbf : ℤ
  exp : ℤ
  deriving DecidableEq

structure DelegationSubject where
  localUserId : ℕ
  username : String
  role : String
  deriving DecidableEq

/-- The refusal of a token. -/
structure Failure where
  reason : DelegationFailureReason
  kid : Option (List Char)
  claims : Option DelegationClaims
  detail : Option (List Char)

/-- A refusal raised before the claims are known. -/
def fail {α : Type} (reason : DelegationFailureReason) (kid : Option (List Char))
    (detail : Option (List Char)) : Except Failure α :=
  .error ⟨reason, kid, none, detail⟩

structure ObligateOrigin where
  base : List Char
  issuer : List Char

/-- A row of `users`. -/
structure UserRow where
  id : ℕ
  username : String
  role : String
  isActive : Bool
  foreignSource : Option String
  foreignId : Option ℕ

/-- A row of `sso_foreign_users`. -/
structure ForeignUser where
  foreignSource : String
  foreignUserId : ℕ
  localUserId : ℕ

structure Db where
  ssoForeignUsers : List ForeignUser
  users : List UserRow

/-- The pure functions of the platform; `none` where they throw. -/
structure Host (Key : Type) where
  /-- `JSON.parse(Buffer.from(segment, 'base64url').toString('utf8'))` -/
  parseSegment : List Char → Option Json
  /-- `crypto.verify` of a text, a key and a signature segment -/
  verify : List Char → Key → List Char → Option Bool

/-- What one verification finds: any caches, any answer of Obligate, any users; `db` is `none` where its
queries throw. -/
structure World (Key : Type) where
  origin : Option ObligateOrigin
  keyCache : List (List Char × Key)
  lastFetchAttemptAt : ℤ
  unknownKids : List (List Char × ℤ)
  /-- The keys that `refreshJwks` would leave in the cache, `none` when it throws. -/
  fetchJwks : Option (List (List Char × Key))
  db : Option Db

/-! ## The shapes of the claims -/

/-- `B64URL_RE` -/
def isBase64Url (s : List Char) : Bool := s ≠ [] && s.all fun c => c.isAlphanum || c = '-' || c = '_'

/-- `APP_TYPE_RE` -/
def isAppType : List Char → Bool
  | [] => false
  | c :: cs =>
      c.isLower && decide (1 ≤ cs.length ∧ cs.length ≤ 31) &&
        cs.all fun d => d.isLower || d.isDigit || d = '-'

/-- `TENANT_SLUG_RE` -/
def isTenantSlug : List Char → Bool
  | [] => false
  | c :: cs => c.isAlphanum && decide (cs.length ≤ 127) && cs.all fun d => d.isAlphanum || d = '_' || d = '-'

def isHex (c : Char) : Bool := (Numerals.digitOf 16 c).isSome

/-- `UUID_RE` -/
def isUuid (s : List Char) : Bool :=
  s.length = 36 && s.zipIdx.all fun (c, i) => if [8, 13, 18, 23].contains i then c = '-' else isHex c

/-- `Number(sub)` of a text of digits -/
def subjectId (sub : List Char) : ℕ := (Numerals.readDigits 10 0 sub).getD 0

def isSubject (sub : List Char) : Bool :=
  decide (1 ≤ sub.length ∧ sub.length ≤ 15) && sub.all Char.isDigit && decide (0 < subjectId sub)

/-- `iss.replace(/\/+$/, '')` -/
def trimSlashes (iss : List Char) : List Char := (iss.reverse.dropWhile (· = '/')).reverse

/-- `s.length`, in UTF-16 units -/
def jsLength (s : List Char) : ℕ := (s.map fun c => if c.toNat < 65536 then 1 else 2).sum

/-- `Buffer.byteLength(token, 'utf8')` -/
def byteLength (token : List Char) : ℕ := (token.map Char.utf8Size).sum

/-! ## One verification -/

variable {Key : Type}

/-- `decodeJson` : an object, or nothing. -/
def decodeJson (h : Host Key) (segment : List Char) : Option Json :=
  match h.parseSegment segment with
  | some (.obj fields) => some (.obj fields)
  | _ => none

/-- A key of the cache stays usable; an unknown one is looked for at most once an interval. -/
def resolveKey (w : World Key) (nowMs : ℤ) (kid : List Char) : Except DelegationFailureReason Key :=
  match w.keyCache.lookup kid with
  | some key => .ok key
  | none =>
      if nowMs < (w.unknownKids.lookup kid).getD 0 then .error .kid_unknown
      else if nowMs - w.lastFetchAttemptAt < JWKS_MIN_REFETCH_MS then
        .error (if w.keyCache = [] then .jwks_unavailable else .kid_unknown)
      else match w.fetchJwks with
        | none => .error .jwks_unavailable
        | some keys =>
            match keys.lookup kid with
            | some fresh => .ok fresh
            | none => .error .kid_unknown

/-- The three segments of a token; `token_malformed` otherwise. -/
def splitToken (token : List Char) : Option (List Char × List Char × List Char) :=
  match token.splitOn '.' with
  | [seg0, seg1, seg2] =>
      if isBase64Url seg0 && isBase64Url seg1 && isBase64Url seg2 then some (seg0, seg1, seg2) else none
  | _ => none

/-- The pinned header; the key id. -/
def readHeader (h : Host Key) (seg0 : List Char) : Except Failure (List Char) :=
  match decodeJson h seg0 with
  | none => fail .header_invalid none none
  | some header =>
      let kid := Json.str? (header.get "kid")
      let offered := (Json.str? (header.get "alg")).getD "missing".toList
      if Json.str? (header.get "alg") ≠ some ALLOWED_ALG then
        fail .alg_not_allowed kid (some
          (if decide (1 ≤ offered.length ∧ offered.length ≤ 16) && offered.all Char.isAlphanum then offered
            else "other".toList))
      else if Json.str? (header.get "typ") ≠ some "JWT".toList then fail .typ_invalid kid none
      else match kid with
        | none => fail .kid_missing none none
        | some kid =>
            if kid = [] ∨ jsLength kid > 200 then fail .kid_missing none none else .ok kid

def textField (p : Json) (field : String) : List Char := (Json.str? (p.get field)).getD []

/-- The claims with their three instants, when these are integers. -/
def claimsOf (p : Json) : Option DelegationClaims :=
  match Json.int? (p.get "iat"), Json.int? (p.get "nbf"), Json.int? (p.get "exp") with
  | some iat, some nbf, some exp =>
      some { iss := textField p "iss", aud := textField p "aud", azp := textField p "azp",
             sub := textField p "sub", ost := textField p "ost", scp := textField p "scp",
             jti := textField p "jti", iat, nbf, exp }
  | _, _, _ => none

/-- The claims of a verified payload, in the order of the checks. -/
def readClaims (h : Host Key) (issuer kid seg1 : List Char) : Except Failure DelegationClaims :=
  match decodeJson h seg1 with
  | none => fail .payload_invalid (some kid) none
  | some p =>
      let str := fun field => Json.str? (p.get field)
      if Json.isArr (p.get "aud") then fail .audience_mismatch (some kid) (some "array".toList)
      else if str "aud" ≠ some THIS_AUDIENCE then fail .audience_mismatch (some kid) none
      else if (str "iss").map trimSlashes ≠ some issuer then fail .issuer_mismatch (some kid) none
      else if ! (str "azp").any isAppType then fail .azp_invalid (some kid) none
      else if ! (str "sub").any isSubject then fail .subject_invalid (some kid) none
      else if ! (str "ost").any (fun s => isTenantSlug s && ! s.all Char.isDigit) then
        fail .tenant_slug_invalid (some kid) none
      else if ! (str "jti").any isUuid then fail .jti_invalid (some kid) none
      else match claimsOf p with
        | none => fail .payload_invalid (some kid) none
        | some claims => .ok claims

/-- Everything before the clock is read: the key id and the claims. -/
def readToken (h : Host Key) (w : World Key) (nowMs : ℤ) (token : List Char) :
    Except Failure (List Char × DelegationClaims) :=
  if token = [] ∨ byteLength token > MAX_TOKEN_BYTES then fail .token_malformed none none
  else match w.origin, splitToken token with
    | none, _ => fail .not_configured none none
    | _, none => fail .token_malformed none none
    | some origin, some (seg0, seg1, seg2) =>
        (readHeader h seg0).bind fun kid =>
        match resolveKey w nowMs kid with
        | .error reason => fail reason (some kid) none
        | .ok key =>
            if (h.verify (seg0 ++ '.' :: seg1) key seg2).getD false then
              (readClaims h origin.issuer kid seg1).map fun claims => (kid, claims)
            else fail .signature_invalid (some kid) none

/-- The clock, in milliseconds, against the claims. -/
def checkTimes (nowMs : ℤ) (claims : DelegationClaims) : Option DelegationFailureReason :=
  let now := nowMs / 1000
  if claims.nbf > now + CLOCK_SKEW_SEC then some .token_not_yet_valid
  else if claims.exp ≤ now - CLOCK_SKEW_SEC then some .token_expired
  else if claims.exp - claims.iat > MAX_LIFETIME_SEC then some .token_lifetime_excessive
  else none

def resolveLocalSubject (db : Db) (sub : List Char) : Except DelegationFailureReason DelegationSubject :=
  let obligateUserId := subjectId sub
  let link := db.ssoForeignUsers.find? fun l =>
    l.foreignSource = "obligate" && l.foreignUserId = obligateUserId
  let legacy := db.users.find? fun u =>
    u.foreignSource = some "obligate" && u.foreignId = some obligateUserId
  match ((link.map (·.localUserId)).filter (· ≠ 0)).or ((legacy.map (·.id)).filter (· ≠ 0)) with
  | none => .error .subject_not_linked
  | some localUserId =>
      match db.users.find? fun u => u.id = localUserId with
      | none => .error .subject_not_linked
      | some user =>
          if user.isActive then .ok ⟨user.id, user.username, user.role⟩ else .error .subject_inactive

/-- What an accepted token gives. -/
structure Accepted where
  kid : List Char
  claims : DelegationClaims
  subject : DelegationSubject

/-- `none` where it throws. -/
def verifyToken (h : Host Key) (w : World Key) (nowMs : ℤ) (token : List Char) :
    Option (Except Failure Accepted) :=
  match readToken h w nowMs token with
  | .error failure => some (.error failure)
  | .ok (kid, claims) =>
      match checkTimes nowMs claims with
      | some reason => some (.error ⟨reason, some kid, some claims, none⟩)
      | none => w.db.map fun db =>
          match resolveLocalSubject db claims.sub with
          | .error reason => .error ⟨reason, some kid, some claims, none⟩
          | .ok subject => .ok ⟨kid, claims, subject⟩

def verify (h : Host Key) (w : World Key) (nowMs : ℤ) (token : List Char) : Except Failure Accepted :=
  (verifyToken h w nowMs token).getD (fail .internal_error none (some "internal".toList))

/-! ## Acceptance -/

variable {h : Host Key} {w : World Key} {t : ℤ} {token : List Char}

theorem verify_ok_iff {a : Accepted} :
    verify h w t token = .ok a ↔ readToken h w t token = .ok (a.kid, a.claims) ∧
      checkTimes t a.claims = none ∧
      ∃ db, w.db = some db ∧ resolveLocalSubject db a.claims.sub = .ok a.subject := by
  unfold verify verifyToken
  constructor
  · intro ha
    split at ha
    · cases ha
    · next kid claims hr =>
      split at ha
      · cases ha
      · next hc =>
        cases hdb : w.db with
        | none =>
            rw [hdb] at ha
            cases ha
        | some db =>
            rw [hdb, Option.map_some, Option.getD_some] at ha
            split at ha
            · cases ha
            · next subject hs =>
              obtain rfl := Except.ok.inj ha
              exact ⟨hr, hc, db, rfl, hs⟩
  · rintro ⟨hr, hc, db, hdb, hs⟩
    simp only [hr, hc, hdb, hs, Option.map_some, Option.getD_some]

/-- **The clock lets a token pass from `nbf` to `exp`, 30 seconds more on both sides, unless its lifetime
from `iat` is too long.** -/
theorem checkTimes_iff {c : DelegationClaims} :
    checkTimes t c = none ↔ (c.nbf - CLOCK_SKEW_SEC) * 1000 ≤ t ∧ t < (c.exp + CLOCK_SKEW_SEC) * 1000 ∧
      c.exp - c.iat ≤ MAX_LIFETIME_SEC := by
  have hskew : CLOCK_SKEW_SEC = 30 := rfl
  dsimp only [checkTimes]
  split
  · next hnbf => exact ⟨nofun, fun _ => by omega⟩
  · split
    · next hexp => exact ⟨nofun, fun _ => by omega⟩
    · split
      · next hlife => exact ⟨nofun, fun _ => by omega⟩
      · exact ⟨fun _ => by omega, fun _ => rfl⟩

/-! ## What a token carries -/

theorem ite_fail_ok {α : Type} {p : Prop} [Decidable p] {reason : DelegationFailureReason}
    {kid detail : Option (List Char)} {next : Except Failure α} {a : α} :
    (if p then fail reason kid detail else next) = .ok a ↔ ¬ p ∧ next = .ok a := by
  split
  · next hp => exact ⟨nofun, fun hn => absurd hp hn.1⟩
  · next hp => exact ⟨fun hn => ⟨hp, hn⟩, fun hn => hn.2⟩

/-- The claims are those of the payload, whatever issuer is asked for. -/
theorem readClaims_ok {issuer kid seg1 : List Char} {c : DelegationClaims}
    (hc : readClaims h issuer kid seg1 = .ok c) : (decodeJson h seg1).bind claimsOf = some c := by
  unfold readClaims at hc
  split at hc
  · cases hc
  · next p hp =>
    simp only [ite_fail_ok] at hc
    obtain ⟨-, -, -, -, -, -, -, hc⟩ := hc
    split at hc
    · cases hc
    · next hclaims =>
      obtain rfl := Except.ok.inj hc
      rw [hp]
      exact hclaims

/-- What a token that passes says, and what it was checked with. -/
structure Passes (h : Host Key) (w : World Key) (t : ℤ) (token kid : List Char)
    (c : DelegationClaims) : Prop where
  size : ¬ (token = [] ∨ byteLength token > MAX_TOKEN_BYTES)
  checked : ∃ origin seg0 seg1 seg2 key, w.origin = some origin ∧
    splitToken token = some (seg0, seg1, seg2) ∧ readHeader h seg0 = .ok kid ∧
    resolveKey w t kid = .ok key ∧ (h.verify (seg0 ++ '.' :: seg1) key seg2).getD false = true ∧
    readClaims h origin.issuer kid seg1 = .ok c

theorem readToken_ok_iff {kid : List Char} {c : DelegationClaims} :
    readToken h w t token = .ok (kid, c) ↔ Passes h w t token kid c := by
  unfold readToken
  rw [ite_fail_ok]
  constructor
  · rintro ⟨hsize, hr⟩
    refine ⟨hsize, ?_⟩
    split at hr
    · cases hr
    · cases hr
    · next origin seg0 seg1 seg2 ho hsplit =>
      cases hh : readHeader h seg0 with
      | error failure =>
          rw [hh] at hr
          cases hr
      | ok kid' =>
          rw [hh] at hr
          change (match resolveKey w t kid' with | .error _ => _ | .ok _ => _) = _ at hr
          split at hr
          · cases hr
          · next key hkey =>
            split at hr
            · next hsig =>
              cases hc : readClaims h origin.issuer kid' seg1 with
              | error failure =>
                  rw [hc] at hr
                  cases hr
              | ok c' =>
                  rw [hc] at hr
                  cases hr
                  exact ⟨origin, seg0, seg1, seg2, key, ho, hsplit, hh, hkey, hsig, hc⟩
            · cases hr
  · rintro ⟨hsize, origin, seg0, seg1, seg2, key, ho, hsplit, hh, hkey, hsig, hc⟩
    refine ⟨hsize, ?_⟩
    simp only [ho, hsplit, hh, Except.bind, hkey, hsig, hc, if_true, Except.map]

/-- **The claims depend on the token alone.** -/
theorem Passes.claims_unique {w' : World Key} {t' : ℤ} {kid kid' : List Char} {c c' : DelegationClaims}
    (hp : Passes h w t token kid c) (hp' : Passes h w' t' token kid' c') : c = c' := by
  obtain ⟨-, _, _, seg1, _, _, -, hsplit, -, -, -, hc⟩ := hp
  obtain ⟨-, _, _, seg1', _, _, -, hsplit', -, -, -, hc'⟩ := hp'
  obtain rfl : seg1 = seg1' := by
    have := hsplit.symm.trans hsplit'
    simp only [Option.some.injEq, Prod.mk.injEq] at this
    exact this.2.1
  exact Option.some.inj ((readClaims_ok hc).symm.trans (readClaims_ok hc'))

/-- With its key in the cache a token passes at every instant. -/
theorem Passes.steady {kid : List Char} {c : DelegationClaims} (hp : Passes h w t token kid c) :
    ∃ key, ∀ t', Passes h { w with keyCache := [(kid, key)] } t' token kid c := by
  obtain ⟨hsize, origin, seg0, seg1, seg2, key, ho, hsplit, hh, -, hsig, hc⟩ := hp
  refine ⟨key, fun t' => ⟨hsize, origin, seg0, seg1, seg2, key, ho, hsplit, hh, ?_, hsig, hc⟩⟩
  simp only [resolveKey, List.lookup_cons, beq_self_eq_true]

/-! ## How long a token is accepted -/

/-- Two verifications that accept the token, at any instants and in any state of the keys and users, are
near; the instants are in milliseconds. -/
def NeverStanding (h : Host Key) (token : List Char) : Prop :=
  ∀ w₁ w₂ t₁ t₂ a₁ a₂, verify h w₁ t₁ token = .ok a₁ → verify h w₂ t₂ token = .ok a₂ →
    t₂ - t₁ ≤ (MAX_LIFETIME_SEC + 2 * CLOCK_SKEW_SEC) * 1000

/-- In some state, a token with these claims is refused for the time only. -/
def Presentable (h : Host Key) (token : List Char) (c : DelegationClaims) : Prop :=
  ∃ (w : World Key) (t : ℤ) (kid : List Char) (db : Db) (subject : DelegationSubject),
    readToken h w t token = .ok (kid, c) ∧ w.db = some db ∧
      resolveLocalSubject db c.sub = .ok subject

theorem verify_presentable {a : Accepted} (ha : verify h w t token = .ok a) :
    Presentable h token a.claims := by
  obtain ⟨hr, -, db, hdb, hs⟩ := verify_ok_iff.1 ha
  exact ⟨w, t, a.kid, db, a.subject, hr, hdb, hs⟩

theorem verify_claims_unique {w' : World Key} {t' : ℤ} {a a' : Accepted}
    (ha : verify h w t token = .ok a) (ha' : verify h w' t' token = .ok a') : a.claims = a'.claims :=
  (readToken_ok_iff.1 (verify_ok_iff.1 ha).1).claims_unique (readToken_ok_iff.1 (verify_ok_iff.1 ha').1)

/-- A token whose time alone decides is accepted at each instant of its window. -/
theorem Presentable.accepted {c : DelegationClaims} (hp : Presentable h token c) :
    ∃ w : World Key, ∀ t, checkTimes t c = none → ∃ a, verify h w t token = .ok a := by
  obtain ⟨w, t, kid, db, subject, hr, hdb, hs⟩ := hp
  obtain ⟨key, hsteady⟩ := (readToken_ok_iff.1 hr).steady
  refine ⟨{ w with keyCache := [(kid, key)] }, fun t' ht' => ⟨⟨kid, c, subject⟩, ?_⟩⟩
  exact verify_ok_iff.2 ⟨readToken_ok_iff.2 (hsteady t'), ht', db, hdb, hs⟩

/-- **Any two instants of acceptance are at most the longest lifetime and twice the skew apart, if and only
if the claims, where the token is presentable at all, have a lifetime from `iat` that is refused or one from
`nbf` that is short.** -/
theorem never_standing_iff :
    NeverStanding h token ↔ ∀ c, Presentable h token c →
      MAX_LIFETIME_SEC < c.exp - c.iat ∨ c.exp - c.nbf ≤ MAX_LIFETIME_SEC := by
  constructor
  · intro hnever c hp
    by_contra hcon
    obtain ⟨hiat, hnbf⟩ := not_or.1 hcon
    obtain ⟨w, hw⟩ := hp.accepted
    obtain ⟨a₁, h₁⟩ := hw ((c.nbf - CLOCK_SKEW_SEC) * 1000) (checkTimes_iff.2 (by
      simp only [CLOCK_SKEW_SEC, MAX_LIFETIME_SEC] at *; omega))
    obtain ⟨a₂, h₂⟩ := hw ((c.exp + CLOCK_SKEW_SEC) * 1000 - 1) (checkTimes_iff.2 (by
      simp only [CLOCK_SKEW_SEC, MAX_LIFETIME_SEC] at *; omega))
    have := hnever w w _ _ a₁ a₂ h₁ h₂
    simp only [CLOCK_SKEW_SEC, MAX_LIFETIME_SEC] at *
    omega
  · intro hcond w₁ w₂ t₁ t₂ a₁ a₂ h₁ h₂
    have hsame : a₁.claims = a₂.claims := verify_claims_unique h₁ h₂
    obtain ⟨hfrom, -, hlife⟩ := checkTimes_iff.1 (verify_ok_iff.1 h₁).2.1
    obtain ⟨-, hto, -⟩ := checkTimes_iff.1 (verify_ok_iff.1 h₂).2.1
    have := hcond _ (verify_presentable h₁)
    rw [← hsame] at hto
    simp only [CLOCK_SKEW_SEC, MAX_LIFETIME_SEC] at *
    omega

/-! ## A token issued in the future -/

def futureHeader : List Char :=
  ['e', 'y', 'J', 'h', 'b', 'G', 'c', 'i', 'O', 'i', 'J', 'F', 'Z', 'E', 'R', 'T', 'Q', 'S', 'I', 's', 'I',
   'n', 'R', '5', 'c', 'C', 'I', '6', 'I', 'k', 'p', 'X', 'V', 'C', 'I', 's', 'I', 'm', 't', 'p', 'Z', 'C',
   'I', '6', 'I', 'm', 's', 'x', 'I', 'n', '0']

/-- `iat` and `exp` in the year 2100, two minutes apart, and `nbf` in 2023. -/
def futurePayload : List Char :=
  ['e', 'y', 'J', 'h', 'd', 'W', 'Q', 'i', 'O', 'i', 'J', 'v', 'Y', 'm', 'x', 'p', 'Y', 'W', '5', 'j', 'Z',
   'S', 'I', 's', 'I', 'm', 'l', 'z', 'c', 'y', 'I', '6', 'I', 'm', 'h', '0', 'd', 'H', 'B', 'z', 'O', 'i',
   '8', 'v', 'c', '3', 'N', 'v', 'I', 'i', 'w', 'i', 'Y', 'X', 'p', 'w', 'I', 'j', 'o', 'i', 'b', '2', 'J',
   's', 'a', 'W', '1', 'h', 'c', 'C', 'I', 's', 'I', 'n', 'N', '1', 'Y', 'i', 'I', '6', 'I', 'j', 'c', 'i',
   'L', 'C', 'J', 'v', 'c', '3', 'Q', 'i', 'O', 'i', 'J', 'h', 'Y', '2', '1', 'l', 'I', 'i', 'w', 'i', 'a',
   'n', 'R', 'p', 'I', 'j', 'o', 'i', 'M', 'D', 'A', 'w', 'M', 'D', 'A', 'w', 'M', 'D', 'A', 't', 'M', 'D',
   'A', 'w', 'M', 'C', '0', '0', 'M', 'D', 'A', 'w', 'L', 'T', 'g', 'w', 'M', 'D', 'A', 't', 'M', 'D', 'A',
   'w', 'M', 'D', 'A', 'w', 'M', 'D', 'A', 'w', 'M', 'D', 'A', 'x', 'I', 'i', 'w', 'i', 'a', 'W', 'F', '0',
   'I', 'j', 'o', '0', 'M', 'T', 'A', 'y', 'N', 'D', 'Q', '0', 'N', 'j', 'g', 'w', 'L', 'C', 'J', 'u', 'Y',
   'm', 'Y', 'i', 'O', 'j', 'E', '3', 'M', 'D', 'A', 'w', 'M', 'D', 'A', 'w', 'M', 'D', 'A', 's', 'I', 'm',
   'V', '4', 'c', 'C', 'I', '6', 'N', 'D', 'E', 'w', 'M', 'j', 'Q', '0', 'N', 'D', 'g', 'w', 'M', 'H', '0']

def futureToken : List Char := futureHeader ++ '.' :: (futurePayload ++ '.' :: ['c', '2', 'l', 'n'])

def futureFields : List (List Char × Json) :=
  [("aud".toList, .str "obliance".toList), ("iss".toList, .str "https://sso".toList),
    ("azp".toList, .str "oblimap".toList), ("sub".toList, .str ['7']), ("ost".toList, .str "acme".toList),
    ("jti".toList, .str "00000000-0000-4000-8000-000000000001".toList),
    ("iat".toList, .num 4102444680), ("nbf".toList, .num 1700000000), ("exp".toList, .num 4102444800)]

def futureHost : Host Unit where
  parseSegment segment :=
    if segment = futureHeader then
      some (.obj [("alg".toList, .str "EdDSA".toList), ("typ".toList, .str "JWT".toList),
        ("kid".toList, .str ['k', '1'])])
    else if segment = futurePayload then some (.obj futureFields)
    else none
  verify message _ signature :=
    some (message = futureHeader ++ '.' :: futurePayload && signature = ['c', '2', 'l', 'n'])

def futureWorld : World Unit where
  origin := some ⟨"https://sso".toList, "https://sso".toList⟩
  keyCache := [(['k', '1'], ())]
  lastFetchAttemptAt := 0
  unknownKids := []
  fetchJwks := none
  db := some ⟨[⟨"obligate", 7, 3⟩], [⟨3, "anna", "user", true, none, none⟩]⟩

def futureClaims : DelegationClaims where
  iss := "https://sso".toList
  aud := "obliance".toList
  azp := "oblimap".toList
  sub := ['7']
  ost := "acme".toList
  scp := []
  jti := "00000000-0000-4000-8000-000000000001".toList
  iat := 4102444680
  nbf := 1700000000
  exp := 4102444800

theorem future_split : splitToken futureToken = some (futureHeader, futurePayload, ['c', '2', 'l', 'n']) := by
  decide +kernel

theorem future_header : readHeader futureHost futureHeader = .ok ['k', '1'] := by
  rfl

theorem future_ne : futurePayload ≠ futureHeader := by
  decide +kernel

theorem future_parse : futureHost.parseSegment futurePayload = some (.obj futureFields) := by
  simp only [futureHost, if_neg future_ne, if_true]

theorem future_claims :
    readClaims futureHost "https://sso".toList ['k', '1'] futurePayload = .ok futureClaims := by
  unfold readClaims decodeJson
  rw [future_parse]
  rfl

theorem future_presentable : Presentable futureHost futureToken futureClaims := by
  refine ⟨futureWorld, 0, ['k', '1'], ⟨[⟨"obligate", 7, 3⟩], [⟨3, "anna", "user", true, none, none⟩]⟩,
    ⟨3, "anna", "user"⟩, readToken_ok_iff.2 ⟨by decide +kernel, _, _, _, _, (), rfl, future_split,
      future_header, rfl, by decide +kernel, future_claims⟩, rfl, rfl⟩

/-- The token is accepted in November 2023 and in December 2099. -/
theorem standing_token : ¬ NeverStanding futureHost futureToken := by
  intro hnever
  obtain ⟨w, hw⟩ := future_presentable.accepted
  obtain ⟨a₁, h₁⟩ := hw 1700000000000 (by decide)
  obtain ⟨a₂, h₂⟩ := hw 4102444000000 (by decide)
  have := hnever _ _ _ _ a₁ a₂ h₁ h₂
  simp only [CLOCK_SKEW_SEC, MAX_LIFETIME_SEC] at this
  omega

end Obliance.Delegation
