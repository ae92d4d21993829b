import Obliance.Agent.Updates
import Obliance.Lib.Base64

/-!
# The public key of a jump grant (`agent/sshjump_linux.go`)

* `validateKeyLine` : the two words of a key line, checked;
* `fields_pair` : the words of a line of two words;
* `validateKeyLine_encoded` : what it says of a type and an encoded blob.
-/

namespace Obliance.Agent

def sshJumpTypes : List (List Char) :=
  ["ssh-ed25519".toList, "ssh-rsa".toList, "ecdsa-sha2-nistp256".toList, "ecdsa-sha2-nistp384".toList,
    "ecdsa-sha2-nistp521".toList]

/-- `^[A-Za-z0-9+/]+={0,2}$` -/
def sshJumpB64Re (cs : List Char) : Bool :=
  decide (cs.takeWhile Base64.isDigit ≠ []) && decide (cs.dropWhile Base64.isDigit ∈ [[], ['='], ['=', '=']])

/-- `base64.StdEncoding.DecodeString`, which ignores line breaks. -/
def stdDecodeString (cs : List Char) : Option (List UInt8) :=
  Base64.decode (cs.filter fun c => decide (c ≠ '\n') && decide (c ≠ '\r'))

/-- The first four bytes as a number. -/
def uint32BE : List UInt8 → ℕ
  | a :: b :: c :: d :: _ => ((a.toNat * 256 + b.toNat) * 256 + c.toNat) * 256 + d.toNat
  | _ => 0

/-- The name a key blob begins with, behind its length. -/
def blobName (blob : List UInt8) : List UInt8 := (blob.drop 4).take (uint32BE blob)

/-- The bytes of an ASCII text. -/
def asciiBytes (cs : List Char) : List UInt8 := cs.map fun c => UInt8.ofNat c.toNat

def validateKeyLine (line : List Char) : Except String (List Char × List Char) :=
  match fields line with
  | [type, b64] =>
      if type ∉ sshJumpTypes ∨ sshJumpB64Re b64 = false then .error "invalid public key"
      else
        match stdDecodeString b64 with
        | none => .error "invalid public key data"
        | some blob =>
            if blob.length < 4 then .error "invalid public key data"
            else if 64 < uint32BE blob ∨ blob.length < 4 + uint32BE blob ∨ blobName blob ≠ asciiBytes type then
              .error "public key type mismatch"
            else .ok (type, b64)
  | _ => .error "invalid public key"

theorem fields_pair {a b : List Char} (ha : ∀ c ∈ a, isGoSpace c = false) (hb : ∀ c ∈ b, isGoSpace c = false)
    (hane : a ≠ []) (hbne : b ≠ []) : fields (a ++ ' ' :: b) = [a, b] := by
  rw [fields, List.splitOnP_append_cons_of_forall_mem ha ' ' (by decide), List.splitOnP_eq_singleton hb]
  simp [hane, hbne]

theorem sshJumpTypes_ascii : ∀ type ∈ sshJumpTypes, type ≠ [] ∧ ∀ c ∈ type, isGoSpace c = false := by
  have hall : ∀ type ∈ sshJumpTypes, type ≠ [] ∧ (type.all fun c => !isGoSpace c) = true := by decide +kernel
  simpa using hall

section Encoded
variable {blob : List UInt8}

theorem encode_noSpace : ∀ c ∈ Base64.encode blob, isGoSpace c = false ∧ c ≠ '\n' ∧ c ≠ '\r' := by
  obtain ⟨body, pad, he, hbody, hpad, -⟩ := Base64.encode_shape blob
  have hdigit : ∀ c ∈ Base64.alphabet, isGoSpace c = false ∧ c ≠ '\n' ∧ c ≠ '\r' :=
    List.all_iff_forall_prop.1 (by decide +kernel)
  intro c hc
  rw [he] at hc
  rcases List.mem_append.1 hc with hc | hc
  · exact hdigit c (of_decide_eq_true (hbody c hc))
  · have hc : c = '=' := by
      simp only [List.mem_cons, List.not_mem_nil, or_false] at hpad
      rcases hpad with rfl | rfl | rfl <;> simp_all
    rw [hc]
    decide

theorem sshJumpB64Re_encode (hne : blob ≠ []) : sshJumpB64Re (Base64.encode blob) = true := by
  obtain ⟨body, pad, he, hbody, hpad, hbne⟩ := Base64.encode_shape blob
  have hstops : ∀ pad ∈ [[], ['='], ['=', '=']],
      pad.takeWhile Base64.isDigit = [] ∧ pad.dropWhile Base64.isDigit = pad := by decide +kernel
  have hstop := hstops pad hpad
  rw [sshJumpB64Re, he, List.takeWhile_append_of_pos hbody, List.dropWhile_append_of_pos hbody, hstop.1, hstop.2]
  simpa [hbne hne] using hpad

theorem stdDecodeString_encode (blob : List UInt8) : stdDecodeString (Base64.encode blob) = some blob := by
  rw [stdDecodeString, List.filter_eq_self.2, Base64.decode_encode]
  intro c hc
  obtain ⟨-, hn, hr⟩ := encode_noSpace c hc
  simp [hn, hr]

/-- A type and an encoded blob, with the blob's length and its name in order: only the name is compared. -/
theorem validateKeyLine_encoded {type : List Char} (htype : type ∈ sshJumpTypes) (hlen : 4 ≤ blob.length)
    (hshort : uint32BE blob ≤ 64) (hin : 4 + uint32BE blob ≤ blob.length) :
    validateKeyLine (type ++ ' ' :: Base64.encode blob) =
      if blobName blob = asciiBytes type then .ok (type, Base64.encode blob)
      else .error "public key type mismatch" := by
  have hne : blob ≠ [] := by
    rintro rfl
    cases hlen
  have hre := sshJumpB64Re_encode hne
  have hencode : Base64.encode blob ≠ [] := by
    intro he
    rw [he] at hre
    cases hre
  obtain ⟨htne, hts⟩ := sshJumpTypes_ascii type htype
  rw [validateKeyLine, fields_pair hts (fun c hc => (encode_noSpace c hc).1) htne hencode]
  simp only [htype, not_true_eq_false, hre, Bool.true_eq_false, or_self, if_false, stdDecodeString_encode,
    not_lt.2 hlen, not_lt.2 hshort, not_lt.2 hin, false_or]
  exact ite_not _ _ _

end Encoded

end Obliance.Agent
