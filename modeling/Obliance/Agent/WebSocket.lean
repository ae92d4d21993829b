import Obliance.Lib.BigEndian

/-!
# WebSocket frames of the agent (`websocket.go`)

* `readFrame` : one frame from the bytes that arrive, with what is left unread;
* `writeFrame` : the bytes of a masked frame;
* `serverFrame` : the bytes of an unmasked frame, as a server sends it;
* `readFrame_of` : a frame is read back, masked or not, whatever follows;
* `readFrame_writeFrame`, `readFrame_serverFrame` : the two directions.
-/

namespace Obliance.Agent.WebSocket
open BigEndian

structure MaskKey where
  k0 : UInt8
  k1 : UInt8
  k2 : UInt8
  k3 : UInt8
  deriving DecidableEq, Repr

def MaskKey.bytes (key : MaskKey) : List UInt8 := [key.k0, key.k1, key.k2, key.k3]

/-- `maskKey[i%4]` -/
def MaskKey.at (key : MaskKey) (i : ℕ) : UInt8 :=
  match i % 4 with
  | 0 => key.k0
  | 1 => key.k1
  | 2 => key.k2
  | _ => key.k3

def MaskKey.apply (key : MaskKey) (payload : List UInt8) : List UInt8 := payload.mapIdx fun i b => b ^^^ key.at i

/-- A byte slice; its length is an `int`. -/
structure Slice where
  bytes : List UInt8
  length_lt : bytes.length < 2 ^ 63

/-! ## Reading -/

inductive ReadResult where
  | frame (opcode : UInt8) (payload : List UInt8) (rest : List UInt8)
  /-- The connection ends within the frame. -/
  | error
  /-- `make` of a length that is no `int`. -/
  | panic
  deriving DecidableEq, Repr

/-- The payload length behind the two header bytes. -/
def readLength (h1 : UInt8) (bytes : List UInt8) : Option (ℕ × List UInt8) :=
  let base := (h1 &&& 0x7F).toNat
  if base = 126 then (takeBytes 2 bytes).map fun (l, rest) => (ofBytes l, rest)
  else if base = 127 then (takeBytes 8 bytes).map fun (l, rest) => (ofBytes l, rest)
  else some (base, bytes)

/-- The mask key; without the mask flag there is none. -/
def readKey (h1 : UInt8) (bytes : List UInt8) : Option (Option MaskKey × List UInt8) :=
  if h1 &&& 0x80 ≠ 0 then
    match bytes with
    | k0 :: k1 :: k2 :: k3 :: rest => some (some ⟨k0, k1, k2, k3⟩, rest)
    | _ => none
  else some (none, bytes)

/-- The limit of an allocation is left out: `make` also panics on a shorter length that is above it. -/
def readFrame : List UInt8 → ReadResult
  | h0 :: h1 :: bytes =>
      match readLength h1 bytes with
      | none => .error
      | some (payLen, bytes) =>
          match readKey h1 bytes with
          | none => .error
          | some (maskKey, bytes) =>
              if 2 ^ 63 ≤ payLen then .panic
              else match takeBytes payLen bytes with
                | none => .error
                | some (payload, rest) =>
                    .frame (h0 &&& 0x0F) ((maskKey.map fun key => key.apply payload).getD payload) rest
  | _ => .error

/-! ## Writing -/

/-- The second header byte and the extended length. -/
def lengthHeader (maskFlag : UInt8) (payLen : ℕ) : List UInt8 :=
  if payLen ≤ 125 then [maskFlag ||| UInt8.ofNat payLen]
  else if payLen ≤ 65535 then (maskFlag ||| 126) :: toBytes 2 payLen
  else (maskFlag ||| 127) :: toBytes 8 payLen

/-- With the key that `rand.Read` gives. -/
def writeFrame (opcode : UInt8) (maskKey : MaskKey) (payload : Slice) : List UInt8 :=
  (0x80 ||| opcode) :: (lengthHeader 0x80 payload.bytes.length ++ maskKey.bytes ++ maskKey.apply payload.bytes)

/-- A frame of a server: `FIN`, the opcode, and the payload as it is. -/
def serverFrame (fin : Bool) (opcode : UInt8) (payload : Slice) : List UInt8 :=
  ((if fin then 0x80 else 0) ||| opcode) :: (lengthHeader 0 payload.bytes.length ++ payload.bytes)

/-! ## Bits of the header -/

/-- A property of all bytes, by their values. -/
theorem forall_byte {P : UInt8 → Prop} (h : ∀ n < 256, P (UInt8.ofNat n)) (b : UInt8) : P b := by
  have hb := h b.toNat b.toNat_lt
  rwa [UInt8.ofNat_toNat] at hb

theorem fin_opcode (opcode : UInt8) :
    (0x80 ||| opcode) &&& 0x0F = opcode &&& 0x0F ∧ (0 ||| opcode) &&& 0x0F = opcode &&& 0x0F :=
  forall_byte (P := fun b => (0x80 ||| b) &&& 0x0F = b &&& 0x0F ∧ (0 ||| b) &&& 0x0F = b &&& 0x0F)
    (by decide +kernel) opcode

theorem opcode_low : ∀ opcode : UInt8, opcode &&& 0x0F = opcode ↔ opcode < 16 :=
  forall_byte (by decide +kernel)

/-- The flag of the mask and the 7 bits of the length do not meet. -/
theorem lengthByte : ∀ n < 128, ∀ maskFlag ∈ [(0 : UInt8), 0x80],
    ((maskFlag ||| UInt8.ofNat n) &&& 0x7F).toNat = n ∧ (maskFlag ||| UInt8.ofNat n) &&& 0x80 = maskFlag := by
  decide +kernel

/-! ## A frame is read back -/

variable {payload : Slice} {rest bytes : List UInt8} {maskFlag : UInt8}

theorem MaskKey.length_apply (key : MaskKey) (bytes : List UInt8) : (key.apply bytes).length = bytes.length :=
  List.length_mapIdx

/-- The mask undoes itself. -/
theorem MaskKey.apply_apply (key : MaskKey) (bytes : List UInt8) : key.apply (key.apply bytes) = bytes := by
  rw [MaskKey.apply, MaskKey.apply, List.mapIdx_mapIdx]
  refine (List.mapIdx_eq_iff.2 fun i => ?_)
  cases bytes[i]? with
  | none => rfl
  | some b =>
      change some b = some ((b ^^^ key.at i) ^^^ key.at i)
      rw [UInt8.xor_assoc, UInt8.xor_self, UInt8.xor_zero]

/-- **The three lengths**: what is written for a length is read as that length. -/
theorem readLength_header (hflag : maskFlag ∈ [(0 : UInt8), 0x80]) {n : ℕ} (hn : n < 2 ^ 63) :
    ∃ h1 ext, lengthHeader maskFlag n = h1 :: ext ∧ h1 &&& 0x80 = maskFlag ∧
      ∀ rest, readLength h1 (ext ++ rest) = some (n, rest) := by
  unfold lengthHeader
  split
  · next hsmall =>
    obtain ⟨hbase, hmask⟩ := lengthByte n (by omega) maskFlag hflag
    refine ⟨_, [], rfl, hmask, fun rest => ?_⟩
    rw [readLength, hbase]
    dsimp only
    rw [if_neg (by omega), if_neg (by omega), List.nil_append]
  · split
    · next hmedium =>
      have hbase : ((maskFlag ||| 126) &&& 0x7F).toNat = 126 := (lengthByte 126 (by omega) maskFlag hflag).1
      refine ⟨maskFlag ||| 126, _, rfl, (lengthByte 126 (by omega) maskFlag hflag).2, fun rest => ?_⟩
      rw [readLength, hbase]
      dsimp only
      rw [if_pos rfl, takeBytes_append (length_toBytes 2 n), Option.map_some, ofBytes_toBytes (by omega)]
    · have hbase : ((maskFlag ||| 127) &&& 0x7F).toNat = 127 := (lengthByte 127 (by omega) maskFlag hflag).1
      refine ⟨maskFlag ||| 127, _, rfl, (lengthByte 127 (by omega) maskFlag hflag).2, fun rest => ?_⟩
      rw [readLength, hbase]
      dsimp only
      rw [if_neg (by omega), if_pos rfl, takeBytes_append (length_toBytes 8 n), Option.map_some,
        ofBytes_toBytes (by omega)]

/-- A frame is read from its header, its key and its payload, whatever follows. -/
theorem readFrame_of {h0 h1 : UInt8} {ext keyBytes : List UInt8} {key : Option MaskKey}
    (hlen : ∀ rest, readLength h1 (ext ++ rest) = some (bytes.length, rest))
    (hkey : ∀ rest, readKey h1 (keyBytes ++ rest) = some (key, rest)) (hlt : bytes.length < 2 ^ 63) :
    readFrame (h0 :: (h1 :: ext ++ keyBytes ++ bytes) ++ rest) =
      .frame (h0 &&& 0x0F) ((key.map fun key => key.apply bytes).getD bytes) rest := by
  have hsplit : h0 :: (h1 :: ext ++ keyBytes ++ bytes) ++ rest =
      h0 :: h1 :: (ext ++ (keyBytes ++ (bytes ++ rest))) := by simp
  rw [hsplit, readFrame, hlen]
  dsimp only
  rw [hkey]
  dsimp only
  rw [if_neg (by omega), takeBytes_append rfl]

/-- **What the agent writes is read back with the four bits of its opcode, and what follows is left unread.** -/
theorem readFrame_writeFrame (opcode : UInt8) (key : MaskKey) (payload : Slice) (rest : List UInt8) :
    readFrame (writeFrame opcode key payload ++ rest) = .frame (opcode &&& 0x0F) payload.bytes rest := by
  have hlength : (key.apply payload.bytes).length = payload.bytes.length := key.length_apply _
  obtain ⟨h1, ext, hheader, hmask, hread⟩ := @readLength_header 0x80 (by simp) _ payload.length_lt
  have hlen : ∀ rest, readLength h1 (ext ++ rest) = some ((key.apply payload.bytes).length, rest) := by
    intro rest
    rw [hread, hlength]
  have hkey : ∀ rest, readKey h1 (key.bytes ++ rest) = some (some key, rest) := by
    intro rest
    unfold readKey
    rw [if_pos (by rw [hmask]; decide)]
    rfl
  rw [writeFrame, hheader, readFrame_of hlen hkey (hlength ▸ payload.length_lt), (fin_opcode opcode).1]
  simp only [Option.map_some, Option.getD_some, key.apply_apply]

theorem readFrame_serverFrame (fin : Bool) (opcode : UInt8) (payload : Slice) (rest : List UInt8) :
    readFrame (serverFrame fin opcode payload ++ rest) = .frame (opcode &&& 0x0F) payload.bytes rest := by
  obtain ⟨h1, ext, hheader, hmask, hlen⟩ := @readLength_header 0 (by simp) _ payload.length_lt
  have hkey : ∀ rest, readKey h1 ([] ++ rest) = some (none, rest) := by
    intro rest
    unfold readKey
    rw [if_neg (by rw [hmask]; decide), List.nil_append]
  have hfin : ((if fin then 0x80 else 0) ||| opcode) &&& 0x0F = opcode &&& 0x0F := by
    cases fin
    · exact (fin_opcode opcode).2
    · exact (fin_opcode opcode).1
  have hframe := @readFrame_of rest _ ((if fin then 0x80 else 0) ||| opcode) _ _ _ _ hlen hkey payload.length_lt
  rw [List.append_nil, hfin] at hframe
  rw [serverFrame, hheader]
  exact hframe

/-- The length field takes bytes, if any, from what follows the header. -/
theorem readLength_length {h1 : UInt8} {payLen : ℕ} (h : readLength h1 bytes = some (payLen, rest)) :
    rest.length ≤ bytes.length := by
  unfold readLength at h
  dsimp only at h
  split at h
  · obtain ⟨⟨l, r⟩, hl, heq⟩ := Option.map_eq_some_iff.1 h
    obtain ⟨-, rfl⟩ := Prod.mk.inj heq
    exact le_of_add_le_left (takeBytes_length hl).2.le
  · split at h
    · obtain ⟨⟨l, r⟩, hl, heq⟩ := Option.map_eq_some_iff.1 h
      obtain ⟨-, rfl⟩ := Prod.mk.inj heq
      exact le_of_add_le_left (takeBytes_length hl).2.le
    · obtain ⟨-, rfl⟩ := Prod.mk.inj (Option.some.inj h)
      exact le_rfl

/-- And so does the key. -/
theorem readKey_length {h1 : UInt8} {key : Option MaskKey} (h : readKey h1 bytes = some (key, rest)) :
    rest.length ≤ bytes.length := by
  unfold readKey at h
  split at h
  · split at h
    · obtain ⟨-, rfl⟩ := Prod.mk.inj (Option.some.inj h)
      simp only [List.length_cons]
      omega
    · cases h
  · obtain ⟨-, rfl⟩ := Prod.mk.inj (Option.some.inj h)
    exact le_rfl

/-- A frame takes at least its two header bytes. -/
theorem readFrame_length {opcode : UInt8} {p : List UInt8} (h : readFrame bytes = .frame opcode p rest) :
    rest.length < bytes.length := by
  unfold readFrame at h
  split at h
  · next h0 h1 tail =>
    split at h
    · cases h
    · next payLen tail₁ hlen =>
      split at h
      · cases h
      · next key tail₂ hkey =>
        split at h
        · cases h
        · split at h
          · cases h
          · next taken tail₃ htake =>
            obtain ⟨-, -, rfl⟩ := ReadResult.frame.inj h
            have hlength : tail₁.length ≤ tail.length := readLength_length hlen
            have hkeyLength : tail₂.length ≤ tail₁.length := readKey_length hkey
            have htaken := (takeBytes_length htake).2
            simp only [List.length_cons]
            omega
  · cases h

end Obliance.Agent.WebSocket
