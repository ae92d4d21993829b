import Obliance.Agent.KeyLine
import Obliance.Js.Number

/-!
# Public keys from the bastion to the agent (`services/sshBastion/`, `agent/sshjump_linux.go`)

* `parsePublicKey` : a key as a user registers it;
* `authorizedKeyFromBlob` : the line of the key that is sent to a machine;
* `Agrees` : the agent accepts that line and reads the same type and bytes;
* `agrees_iff` : it does so exactly when the name in the blob is plain ASCII.
-/

namespace Obliance.Bastion
open Obliance.Js Obliance.Agent

def KEY_TYPES : List (List Char) :=
  ["ssh-ed25519".toList, "ssh-rsa".toList, "ecdsa-sha2-nistp256".toList, "ecdsa-sha2-nistp384".toList,
    "ecdsa-sha2-nistp521".toList]

def MIN_RSA_BITS : ℕ := 2048

/-- `buffer.toString('ascii')`: the highest bit of every byte is unset. -/
def asciiText (bytes : List UInt8) : List Char := bytes.map fun b => Char.ofNat (b.toNat % 128)

/-- `text.trim().split(/\s+/)`, the empty word of an empty text left out. -/
def words (cs : List Char) : List (List Char) := (cs.splitOnP isJsSpace).filter (· ≠ [])

/-- RSA wire blob: string "ssh-rsa", mpint e, mpint n; the size of the modulus in bits. -/
def rsaModulusBits (blob : List UInt8) (offset : ℕ) : Except String ℕ :=
  let eLen := uint32BE (blob.drop offset)
  let nOff := offset + 4 + eLen
  if blob.length < nOff + 4 then .error "Invalid key data"
  else
    let nLen := uint32BE (blob.drop nOff)
    if blob.length < nOff + 4 + nLen then .error "Invalid key data"
    else
      match ((blob.drop (nOff + 4)).take nLen).dropWhile (· = 0) with
      | [] => .ok 0
      | top :: rest => .ok (rest.length * 8 + (Nat.log2 top.toNat + 1))

/-- What an RSA key has to pass; `offset` is where its numbers begin. -/
def checkRsa (type : List Char) (blob : List UInt8) (offset : ℕ) : Except String Unit :=
  if type ≠ "ssh-rsa".toList then .ok ()
  else if blob.length < offset + 4 then .error "Invalid key data"
  else
    match rsaModulusBits blob offset with
    | .error message => .error message
    | .ok bits =>
        if bits < MIN_RSA_BITS then
          .error ("Invalid key: RSA keys must be at least " ++ toString MIN_RSA_BITS ++ " bits")
        else .ok ()

structure ParsedKey where
  type : List Char
  fingerprint : List Char
  normalized : List Char
  deriving DecidableEq, Repr

section
-- `Buffer.from(text, 'base64')` and the hash
variable (bufferFrom : List Char → List UInt8) (sha256 : List UInt8 → List UInt8)

def fingerprintBlob (blob : List UInt8) : List Char :=
  "SHA256:".toList ++ (Base64.encode (sha256 blob)).filter (· ≠ '=')

def parsePublicKey (line : List Char) : Except String ParsedKey :=
  match words line with
  | type :: b64 :: _ =>
      if !KEY_TYPES.contains type then .error ("Unsupported key type: " ++ String.ofList type)
      else
        let blob := bufferFrom b64
        if blob.length < 4 then .error "Invalid key data"
        else
          let nameLen := uint32BE blob
          if 64 < nameLen ∨ blob.length < 4 + nameLen then .error "Invalid key data"
          else if asciiText (blobName blob) ≠ type then .error "Key type / data mismatch"
          else
            match checkRsa type blob (4 + nameLen) with
            | .error message => .error message
            | .ok () => .ok ⟨type, fingerprintBlob sha256 blob, type ++ ' ' :: b64⟩
  | _ => .error "Invalid SSH public key"

/-- The blob a text is parsed into. -/
def parsedBlob (line : List Char) : List UInt8 := bufferFrom (((words line)[1]?).getD [])

end

/-- `/^[a-z0-9@.-]+$/` -/
def plainName (cs : List Char) : Bool :=
  decide (cs ≠ []) && cs.all fun c => c.isLower || c.isDigit || decide (c ∈ ['@', '.', '-'])

/-- The line for the target: the type in the blob and the blob. -/
def authorizedKeyFromBlob (blob : List UInt8) : Option (List Char) :=
  if blob.length < 4 then none
  else
    let n := uint32BE blob
    if 64 < n ∨ blob.length < 4 + n then none
    else
      let type := asciiText (blobName blob)
      if plainName type then some (type ++ ' ' :: Base64.encode blob) else none

/-! ## Agreement -/

section
variable (bufferFrom : List Char → List UInt8) (sha256 : List UInt8 → List UInt8)

/-- The line of the parsed blob is accepted by the agent, with the type the server read and the text of the
blob. -/
def Agrees (line : List Char) (key : ParsedKey) : Prop :=
  ∃ sent, authorizedKeyFromBlob (parsedBlob bufferFrom line) = some sent ∧
    validateKeyLine sent = .ok (key.type, Base64.encode (parsedBlob bufferFrom line))

variable {bufferFrom sha256} {line : List Char} {key : ParsedKey}

/-- What the server has checked of a key it accepts. -/
theorem parsePublicKey_spec (h : parsePublicKey bufferFrom sha256 line = .ok key) :
    key.type ∈ KEY_TYPES ∧ 4 ≤ (parsedBlob bufferFrom line).length ∧
      uint32BE (parsedBlob bufferFrom line) ≤ 64 ∧
      4 + uint32BE (parsedBlob bufferFrom line) ≤ (parsedBlob bufferFrom line).length ∧
      asciiText (blobName (parsedBlob bufferFrom line)) = key.type := by
  unfold parsePublicKey at h
  unfold parsedBlob
  split at h
  · rename_i type b64 rest hwords
    rw [hwords]
    dsimp only [List.getElem?_cons_succ, List.getElem?_cons_zero, Option.getD_some] at h ⊢
    split_ifs at h with htype hlen hname hmask
    split at h
    · cases h
    · obtain rfl := Except.ok.inj h
      rw [not_or, not_lt, not_lt] at hname
      exact ⟨by simpa using htype, not_lt.1 hlen, hname.1, hname.2, not_not.1 hmask⟩
  · cases h

theorem types_plain : ∀ type ∈ KEY_TYPES, plainName type = true ∧ type ∈ sshJumpTypes := by
  decide +kernel

theorem toNat_asciiChar {v : ℕ} (hv : v < 128) : (Char.ofNat v).toNat = v := by
  have hall : ∀ v : Fin 128, (Char.ofNat v).toNat = v.val := by decide +kernel
  exact hall ⟨v, hv⟩

/-- The text of some bytes has the same bytes exactly when none has its highest bit set. -/
theorem asciiBytes_asciiText (bytes : List UInt8) :
    bytes = asciiBytes (asciiText bytes) ↔ ∀ b ∈ bytes, b.toNat < 128 := by
  have hbyte : ∀ b : UInt8, b = UInt8.ofNat (Char.ofNat (b.toNat % 128)).toNat ↔ b.toNat < 128 := by
    intro b
    rw [toNat_asciiChar (Nat.mod_lt _ (by decide)), ← UInt8.toNat_inj, UInt8.toNat_ofNat']
    have hb := b.toNat_lt
    omega
  rw [asciiBytes, asciiText, List.map_map]
  induction bytes with
  | nil => simp
  | cons b bytes ih =>
      rw [List.map_cons, List.cons.injEq, List.forall_mem_cons]
      exact and_congr (hbyte b) ih

/-- **A key the server accepts agrees with the agent exactly when no byte of its name has the highest bit
set.** -/
theorem agrees_iff (bufferFrom : List Char → List UInt8) (sha256 : List UInt8 → List UInt8) (line : List Char)
    (key : ParsedKey) (h : parsePublicKey bufferFrom sha256 line = .ok key) :
    Agrees bufferFrom line key ↔ ∀ b ∈ blobName (parsedBlob bufferFrom line), b.toNat < 128 := by
  obtain ⟨htype, hlen, hshort, hin, hname⟩ := parsePublicKey_spec h
  obtain ⟨hplain, hjump⟩ := types_plain _ htype
  have hsent : authorizedKeyFromBlob (parsedBlob bufferFrom line) =
      some (key.type ++ ' ' :: Base64.encode (parsedBlob bufferFrom line)) := by
    simp only [authorizedKeyFromBlob, hname, hplain, not_lt.2 hlen, not_lt.2 hshort, not_lt.2 hin, or_self,
      if_false, if_true]
  rw [← asciiBytes_asciiText, hname]
  unfold Agrees
  rw [hsent]
  simp only [Option.some.injEq, exists_eq_left', validateKeyLine_encoded hjump hlen hshort hin]
  constructor
  · intro hok
    by_contra hne
    rw [if_neg hne] at hok
    cases hok
  · exact fun he => if_pos he

end

/-! ## Failing input -/

/-- The decoder, on texts in the standard encoding. -/
def decodeStandard (text : List Char) : List UInt8 := (Base64.decode text).getD []

/-- An Ed25519 key blob whose name begins with `first`. -/
def ed25519Blob (first : UInt8) : List UInt8 :=
  [0, 0, 0, 11, first] ++ asciiBytes "sh-ed25519".toList ++ [0, 0, 0, 32] ++ List.replicate 32 7

def ed25519Line (first : UInt8) : List Char := "ssh-ed25519 ".toList ++ Base64.encode (ed25519Blob first)

/-- What a text is parsed into, if it is accepted. -/
def accepted (line : List Char) : Option ParsedKey :=
  match parsePublicKey decodeStandard id line with
  | .ok key => some key
  | .error _ => none

theorem accepted_eq {line : List Char} {key : ParsedKey} (h : accepted line = some key) :
    parsePublicKey decodeStandard id line = .ok key := by
  unfold accepted at h
  split at h
  · rename_i key' hkey
    rw [hkey, Option.some.inj h]
  · cases h

/-- A name whose first byte is `s` with the highest bit set is accepted by the server and refused by the
agent. -/
theorem masked_name_refused : ¬ ∀ (bufferFrom : List Char → List UInt8) (sha256 : List UInt8 → List UInt8)
    (line : List Char) (key : ParsedKey), parsePublicKey bufferFrom sha256 line = .ok key →
      Agrees bufferFrom line key := by
  intro hall
  have hsome : (accepted (ed25519Line 243)).isSome = true := by decide +kernel
  obtain ⟨key, hkey⟩ := Option.isSome_iff_exists.1 hsome
  obtain ⟨sent, hsent, hok⟩ := hall decodeStandard id _ key (accepted_eq hkey)
  have hrefused : (authorizedKeyFromBlob (parsedBlob decodeStandard (ed25519Line 243))).map
      (fun sent => (validateKeyLine sent).isOk) = some false := by decide +kernel
  rw [hsent, Option.map_some, hok] at hrefused
  cases hrefused

/-- The same key with a plain name. -/
theorem plain_name_agrees : ∃ key, Agrees decodeStandard (ed25519Line 115) key := by
  have hsome : (accepted (ed25519Line 115)).isSome = true := by decide +kernel
  obtain ⟨key, hkey⟩ := Option.isSome_iff_exists.1 hsome
  exact ⟨key, (agrees_iff decodeStandard id _ key (accepted_eq hkey)).2 (by decide +kernel)⟩

end Obliance.Bastion
