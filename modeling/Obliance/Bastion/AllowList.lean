import Obliance.Js.Number
import Obliance.Lib.IpText

/-!
# The allow-list of the bastion

`isValidAllowEntry` takes any spelling of an IPv6 address, `cidrMatch` compares spellings.

* `normalizeIp`, `ipv4ToInt`, `cidrMatch`, `isValidAllowEntry` : the functions of the gate;
* `Denotes` : the addresses an entry stands for;
* `ipv4ToInt_eq`, `masked_eq_iff` : the 32-bit arithmetic, as quotients of numbers;
* `cidrMatch_range`, `cidrMatch_exact` : what `cidrMatch` computes on accepted entries;
* `allow_iff` : the pairs on which `cidrMatch` answers for the address.
-/

namespace Obliance.Bastion
open Js Numerals IpText

/-! ## The gate -/

/-- IPv4-mapped IPv6 -> IPv4 -/
def unmap (s : List Char) : List Char := if mappedPrefix <+: s then s.drop 7 else s

/-- Addresses have letters of ASCII only, which `lower` maps as `toLowerCase` does. -/
def normalizeIp (ip : List Char) : List Char := unmap (lower (strip isJsSpace ip))

/-- The loop over the four parts, in 32 bits. -/
def ipv4ToInt (ip : List Char) : Option (BitVec 32) :=
  let parts := ip.splitOn '.'
  if parts.length ≠ 4 then none
  else parts.foldlM (fun n p => (octet p).map fun v => n <<< 8 ||| BitVec.ofNat 32 v) 0

/-- `bits === 0 ? 0 : ~0 << (32 - bits)` -/
def maskOf (bits : ℕ) : BitVec 32 := if bits = 0 then 0 else BitVec.allOnes 32 <<< (32 - bits)

/-- `Number.isInteger(bits)`, 0 to 32. -/
def bitsOf (bitsStr : List Char) : Option ℕ :=
  (numberOfText (String.ofList bitsStr)).bind fun bits =>
    if bits.den = 1 ∧ 0 ≤ bits.num ∧ bits.num ≤ 32 then some bits.num.toNat else none

/-- IPv4 CIDR / exact match. -/
def cidrMatch (ip entry : List Char) : Bool :=
  let a := normalizeIp ip
  if '/' ∈ entry then
    match entry.splitOn '/' with
    | base :: bitsStr :: _ =>
        match ipv4ToInt a, ipv4ToInt (normalizeIp base), bitsOf bitsStr with
        | some ipN, some baseN, some bits => ipN &&& maskOf bits = baseN &&& maskOf bits
        | _, _, _ => false
    | _ => false
  else a = normalizeIp entry

/-- `/^(\d|[12]\d|3[0-2])$/` -/
def isPrefixLength : List Char → Bool
  | [d] => isDecimal d
  | [c, d] => (c = '1' || c = '2') && isDecimal d || c = '3' && (d = '0' || d = '1' || d = '2')
  | _ => false

def isValidAllowEntry (raw : List Char) : Bool :=
  let s := strip isJsSpace raw
  if s = [] then false
  else if '/' ∈ s then
    match s.splitOn '/' with
    | base :: bits :: _ => (ipv4ToInt base).isSome && isPrefixLength bits
    | _ => false
  else (ipv4ToInt s).isSome || isIPv6 s

/-! ## What an entry stands for -/

/-- The addresses with the first `/n` bits of the base, or the very same address. -/
def Denotes (entry : List Char) (A : Address) : Prop :=
  match (strip isJsSpace entry).splitOn '/' with
  | base :: bits :: _ => ∃ b n m, dottedQuad base = some b ∧ readDigits 10 0 bits = some n ∧ m < 2 ^ 32 ∧
      A = mapped m ∧ m / 2 ^ (32 - n) = b / 2 ^ (32 - n)
  | _ => address (strip isJsSpace entry) = some A

/-- A dotted quad, alone or behind `::ffff:`. -/
def WrittenAsIPv4 (s : List Char) : Prop :=
  ∃ q n, dottedQuad q = some n ∧ (lower s = q ∨ lower s = mappedPrefix ++ q)

/-! ## The arithmetic -/

section Arithmetic
variable {ip : List Char}

theorem push_octet {n v : ℕ} (hn : n < 2 ^ 24) (hv : v ≤ 255) :
    BitVec.ofNat 32 n <<< 8 ||| BitVec.ofNat 32 v = BitVec.ofNat 32 (n * 256 + v) := by
  apply BitVec.eq_of_toNat_eq
  rw [BitVec.toNat_or, BitVec.toNat_shiftLeft, BitVec.toNat_ofNat, BitVec.toNat_ofNat, BitVec.toNat_ofNat,
    Nat.mod_eq_of_lt (show n < 2 ^ 32 by omega), Nat.mod_eq_of_lt (show v < 2 ^ 32 by omega),
    Nat.mod_eq_of_lt (show n * 256 + v < 2 ^ 32 by omega), Nat.shiftLeft_eq,
    Nat.mod_eq_of_lt (show n * 2 ^ 8 < 2 ^ 32 by omega), Nat.mul_comm n, Nat.mul_comm n]
  exact (Nat.two_pow_add_eq_or_of_lt (show v < 2 ^ 8 by omega) n).symm

/-- The loop reads a dotted quad. -/
theorem ipv4ToInt_eq : ipv4ToInt ip = (dottedQuad ip).map (BitVec.ofNat 32) := by
  unfold ipv4ToInt dottedQuad
  split
  · rename_i a b c d hsplit
    rw [hsplit]
    rw [if_neg (by simp)]
    cases ha : octet a with
    | none => simp [ha]
    | some w =>
      cases hb : octet b with
      | none => simp [ha, hb]
      | some x =>
        cases hc : octet c with
        | none => simp [ha, hb, hc]
        | some y =>
          cases hd : octet d with
          | none => simp [ha, hb, hc, hd]
          | some z =>
            have hw := octet_le ha
            have hx := octet_le hb
            have hy := octet_le hc
            have hz := octet_le hd
            have hzero : (0 : BitVec 32) <<< 8 ||| BitVec.ofNat 32 w = BitVec.ofNat 32 w := by
              simp
            simp only [List.foldlM_cons, List.foldlM_nil, ha, hb, hc, hd, Option.map_some, Option.bind_eq_bind,
              Option.bind_some, Option.pure_def, hzero]
            rw [push_octet (by omega) hx, push_octet (by omega) hy, push_octet (by omega) hz]
  · rename_i hnot
    rw [if_pos]
    · rfl
    · intro hlen
      match hsplit : ip.splitOn '.', hlen with
      | [a, b, c, d], _ => exact hnot a b c d hsplit

/-- Equal under the mask: the same first bits. -/
theorem masked_eq_iff {m b bits : ℕ} (hm : m < 2 ^ 32) (hb : b < 2 ^ 32) (hbits : bits ≤ 32) :
    BitVec.ofNat 32 m &&& maskOf bits = BitVec.ofNat 32 b &&& maskOf bits ↔
      m / 2 ^ (32 - bits) = b / 2 ^ (32 - bits) := by
  have hmod : ∀ {x}, x < 2 ^ 32 → (BitVec.ofNat 32 x).toNat = x := fun hx => by
    rw [BitVec.toNat_ofNat, Nat.mod_eq_of_lt hx]
  rcases Nat.eq_zero_or_pos bits with rfl | hpos
  · have hz : ∀ x : BitVec 32, x &&& maskOf 0 = 0 := fun x => by simp [maskOf]
    rw [hz, hz]
    exact iff_of_true rfl ((Nat.div_eq_of_lt hm).trans (Nat.div_eq_of_lt hb).symm)
  · have hmask : ∀ {x}, x < 2 ^ 32 → (BitVec.ofNat 32 x &&& maskOf bits).toNat =
        x / 2 ^ (32 - bits) * 2 ^ (32 - bits) := fun {x} hx => by
      rw [maskOf, if_neg (by omega), ← BitVec.shiftLeft_ushiftRight, BitVec.toNat_shiftLeft,
        BitVec.toNat_ushiftRight, hmod hx, Nat.shiftRight_eq_div_pow, Nat.shiftLeft_eq, Nat.mod_eq_of_lt]
      exact lt_of_le_of_lt (Nat.div_mul_le_self x _) hx
    rw [BitVec.toNat_eq, hmask hm, hmask hb]
    exact Nat.mul_left_inj (Nat.two_pow_pos _).ne'

end Arithmetic

/-! ## Spellings -/

section Spellings
variable {s t q : List Char} {n : ℕ} {A B : Address}

theorem lower_quad (hq : dottedQuad q = some n) : lower q = q := by
  have hsame : ∀ c ∈ ['0', '1', '2', '3', '4', '5', '6', '7', '8', '9', '.'], c.toLower = c :=
    List.all_iff_forall_prop.1 (by decide)
  exact (List.map_congr_left fun c hc => hsame c (isQuadChar_iff.1 (dottedQuad_chars hq c hc))).trans
    (List.map_id q)

theorem quad_not_prefixed : dottedQuad (mappedPrefix ++ s) = none := by
  cases h : dottedQuad (mappedPrefix ++ s) with
  | none => rfl
  | some n => exact absurd (isQuadChar_iff.1 (dottedQuad_chars h ':' (.head _))) (by decide)

theorem unmap_quad (hq : dottedQuad q = some n) : unmap q = q := by
  refine if_neg ?_
  rintro ⟨t, rfl⟩
  rw [quad_not_prefixed] at hq
  cases hq

theorem unmap_prefixed : unmap (mappedPrefix ++ s) = s := by
  rw [unmap, if_pos (List.prefix_append _ _)]
  rfl

/-- A text is unmapped or begins with the prefix. -/
theorem unmap_cases (s : List Char) : s = mappedPrefix ++ unmap s ∨ s = unmap s := by
  unfold unmap
  split_ifs with h
  · obtain ⟨t, rfl⟩ := h
    exact .inl rfl
  · exact .inr rfl

theorem writtenAsIPv4_iff : WrittenAsIPv4 s ↔ (dottedQuad (unmap (lower s))).isSome = true := by
  constructor
  · rintro ⟨q, n, hq, h | h⟩
    · rw [h, unmap_quad hq, hq]
      rfl
    · rw [h, unmap_prefixed, hq]
      rfl
  · intro h
    obtain ⟨n, hn⟩ := Option.isSome_iff_exists.1 h
    exact ⟨_, n, hn, (unmap_cases _).symm⟩

/-- No letter becomes a percent sign. -/
theorem zoneOf_of_lower (h : '%' ∉ lower s) : zoneOf s = some none := by
  have hdrop : s.dropWhile (· ≠ '%') = [] := by
    refine List.dropWhile_eq_nil_iff.2 fun c hc => ?_
    have hne : c ≠ '%' := by
      rintro rfl
      exact h (List.mem_map.2 ⟨'%', hc, by decide⟩)
    simpa using hne
  rw [zoneOf, hdrop]

/-- A text written as an IPv4 address denotes it. -/
theorem address_of_quad (hq : dottedQuad q = some n) (h : lower s = q ∨ lower s = mappedPrefix ++ q) :
    address s = some (mapped n) := by
  rcases h with h | h
  · obtain rfl := eq_of_lower_eq_quad hq h
    rw [address, hq]
  · have hs : dottedQuad s = none := by
      cases hquad : dottedQuad s with
      | none => rfl
      | some m =>
          rw [lower_quad hquad] at h
          rw [h, quad_not_prefixed] at hquad
          cases hquad
    have hpercent : '%' ∉ lower s := by
      rw [h]
      intro hmem
      rcases List.mem_append.1 hmem with hmem | hmem
      · exact absurd hmem (by decide)
      · exact absurd (isQuadChar_iff.1 (dottedQuad_chars hq '%' hmem)) (by decide)
    have htake : (lower s).takeWhile (· ≠ '%') = mappedPrefix ++ q := by
      rw [h] at hpercent ⊢
      refine List.takeWhile_eq_self_iff.2 fun c hc => ?_
      have hne : c ≠ '%' := ne_of_mem_of_not_mem hc hpercent
      simpa using hne
    rw [address, hs]
    dsimp only
    rw [address6, zoneOf_of_lower hpercent, lower_takeWhile, htake, value6_mapped hq]
    rfl

/-- Two spellings that differ in the prefix only are spellings of an IPv4 address. -/
theorem quad_of_prefixed (hA : address s = some A) (hB : address t = some B)
    (hs : lower s = mappedPrefix ++ lower t) : ∃ n, dottedQuad (lower t) = some n := by
  unfold address at hA hB
  cases ht : dottedQuad t with
  | some n => exact ⟨n, by rw [lower_quad ht, ht]⟩
  | none =>
      exfalso
      rw [ht] at hB
      have hnot : dottedQuad s = none := by
        cases hquad : dottedQuad s with
        | none => rfl
        | some m =>
            rw [lower_quad hquad] at hs
            rw [hs, quad_not_prefixed] at hquad
            cases hquad
      rw [hnot] at hA
      simp only [address6, Option.bind_eq_bind, Option.bind_eq_some_iff, lower_takeWhile] at hA hB
      obtain ⟨-, -, v, hv, -⟩ := hA
      obtain ⟨-, -, w, hw, -⟩ := hB
      have htake : (lower s).takeWhile (· ≠ '%') = mappedPrefix ++ (lower t).takeWhile (· ≠ '%') := by
        rw [hs, List.takeWhile_append_of_pos (List.all_eq_true.1 (by decide))]
      rw [htake, value6_not_prefixed hw] at hv
      cases hv

/-- Spellings that are equal up to capitals denote the same address but for the zone. -/
theorem address_eq_iff_zone (hA : address s = some A) (hB : address t = some B) (h : lower s = lower t) :
    A = B ↔ zoneOf s = zoneOf t := by
  cases hs : dottedQuad s with
  | some n =>
      have heq : t = s := eq_of_lower_eq_quad hs (by rw [← h, lower_quad hs])
      subst heq
      rw [hA] at hB
      exact iff_of_true (Option.some.inj hB) rfl
  | none =>
      cases ht : dottedQuad t with
      | some n =>
          have heq : s = t := eq_of_lower_eq_quad ht (by rw [h, lower_quad ht])
          rw [heq, ht] at hs
          cases hs
      | none =>
          rw [address, hs] at hA
          rw [address, ht] at hB
          have hvalue := address6_value hA hB h
          simp only [address6, Option.bind_eq_bind, Option.bind_eq_some_iff, Option.some.injEq] at hA hB
          obtain ⟨za, hza, v, -, rfl⟩ := hA
          obtain ⟨zb, hzb, w, -, rfl⟩ := hB
          obtain rfl : v = w := hvalue
          rw [hza, hzb, Address.mk.injEq, Option.some.injEq]
          exact and_iff_right rfl

/-- Addresses that are normalised alike are equal up to capitals or written as one IPv4 address. -/
theorem unmap_eq_cases (hA : address s = some A) (hB : address t = some B)
    (h : unmap (lower s) = unmap (lower t)) :
    lower s = lower t ∨ WrittenAsIPv4 s ∧ WrittenAsIPv4 t ∧ A = B := by
  rcases unmap_cases (lower s) with hs | hs <;> rcases unmap_cases (lower t) with ht | ht
  · exact .inl (by rw [hs, ht, h])
  · right
    rw [h, ← ht] at hs
    obtain ⟨n, hn⟩ := quad_of_prefixed hA hB hs
    rw [address_of_quad hn (.inr hs)] at hA
    rw [address_of_quad hn (.inl rfl), hA] at hB
    exact ⟨⟨_, n, hn, .inr hs⟩, ⟨_, n, hn, .inl rfl⟩, Option.some.inj hB⟩
  · right
    rw [← h, ← hs] at ht
    obtain ⟨n, hn⟩ := quad_of_prefixed hB hA ht
    rw [address_of_quad hn (.inl rfl)] at hA
    rw [address_of_quad hn (.inr ht), hA] at hB
    exact ⟨⟨_, n, hn, .inl rfl⟩, ⟨_, n, hn, .inr ht⟩, Option.some.inj hB⟩
  · exact .inl (by rw [hs, ht, h])

/-- Two spellings of one IPv4 address are normalised alike. -/
theorem unmap_eq_of_written (hs : WrittenAsIPv4 s) (ht : WrittenAsIPv4 t) (hA : address s = some A)
    (hB : address t = some A) : unmap (lower s) = unmap (lower t) := by
  have hunmap : ∀ {u p m}, dottedQuad p = some m → (lower u = p ∨ lower u = mappedPrefix ++ p) →
      unmap (lower u) = p := by
    rintro u p m hp (h | h)
    · rw [h, unmap_quad hp]
    · rw [h, unmap_prefixed]
  obtain ⟨p, m, hp, hp'⟩ := hs
  obtain ⟨q, n, hq, hq'⟩ := ht
  rw [address_of_quad hp hp'] at hA
  rw [address_of_quad hq hq', ← hA] at hB
  obtain rfl := mapped_inj (Option.some.inj hB)
  rw [hunmap hp hp', hunmap hq hq', dottedQuad_inj hp hq]

end Spellings

/-! ## Accepted entries -/

section Entries
variable {source entry base bits : List Char} {tl : List (List Char)} {A : Address}

/-- A prefix length is the decimal text of a number up to 32. -/
theorem prefixLength_text (h : isPrefixLength bits = true) : ∃ n ≤ 32, bits = (toString n).toList := by
  have hdigits : ∀ {c}, isDecimal c = true → c ∈ ['0', '1', '2', '3', '4', '5', '6', '7', '8', '9'] :=
    fun hc => of_decide_eq_true hc
  have hone : ∀ d ∈ ['0', '1', '2', '3', '4', '5', '6', '7', '8', '9'],
      ∃ n ≤ 32, [d] = (toString n).toList := List.all_iff_forall_prop.1 (by decide +kernel)
  have htwo : (['1', '2'].all fun c => ['0', '1', '2', '3', '4', '5', '6', '7', '8', '9'].all fun d =>
      decide (∃ n ≤ 32, [c, d] = (toString n).toList)) = true := by decide +kernel
  have hthirty : ∀ d ∈ ['0', '1', '2'], ∃ n ≤ 32, ['3', d] = (toString n).toList :=
    List.all_iff_forall_prop.1 (by decide +kernel)
  simp only [List.all_eq_true, decide_eq_true_eq] at htwo
  match bits, h with
  | [d], h => exact hone d (hdigits h)
  | [c, d], h =>
      simp only [isPrefixLength, Bool.or_eq_true, Bool.and_eq_true, decide_eq_true_eq] at h
      rcases h with ⟨hc, hd⟩ | ⟨rfl, hd⟩
      · exact htwo c (by simpa using hc) d (hdigits hd)
      · exact hthirty d (by simpa [or_assoc] using hd)

theorem bitsOf_text : ∀ n ≤ 32, bitsOf (toString n).toList = some n ∧
    readDigits 10 0 (toString n).toList = some n := by decide +kernel

theorem numberOfText_strip {cs ds : List Char} (h : strip isJsSpace cs = strip isJsSpace ds) :
    numberOfText (String.ofList cs) = numberOfText (String.ofList ds) := by
  unfold numberOfText
  rw [String.toList_ofList, String.toList_ofList, h]

/-- Blanks behind a prefix length do not change it. -/
theorem bitsOf_blanks {n : ℕ} (hn : n ≤ 32) {c : List Char} (hc : ∀ ch ∈ c, isJsSpace ch = true) :
    bitsOf ((toString n).toList ++ c) = some n := by
  have hbody : ∀ ch ∈ (toString n).toList, isJsSpace ch = false := by
    have hall : ∀ n ≤ 32, ((toString n).toList.all fun ch => !isJsSpace ch) = true := by decide +kernel
    simpa using hall n hn
  have hne : ∀ n ≤ 32, (toString n).toList ≠ [] := by decide +kernel
  have hstrip : ∀ {c : List Char}, (∀ ch ∈ c, isJsSpace ch = true) →
      strip isJsSpace ((toString n).toList ++ c) = (toString n).toList := fun hc => by
    simpa using strip_eq (a := []) (by simp) hc hbody (hne n hn)
  rw [← (bitsOf_text n hn).1, bitsOf, bitsOf, numberOfText_strip]
  rw [hstrip hc]
  exact (by simpa using (hstrip (c := []) (by simp)).symm)

theorem splitOn_blanks_before {a s : List Char} (ha : '/' ∉ a) :
    (a ++ s).splitOn '/' = (s.splitOn '/').modifyHead (a ++ ·) := by
  induction a with
  | nil =>
      obtain ⟨p, ps, hps⟩ := List.exists_cons_of_ne_nil (List.splitOn_ne_nil '/' s)
      rw [List.nil_append, hps]
      rfl
  | cons c a ih =>
      rw [List.cons_append, List.splitOn_cons_eq_if_modifyHead, ih (List.not_mem_of_not_mem_cons ha), if_neg,
        List.modifyHead_modifyHead]
      · rfl
      · simpa using (List.ne_of_not_mem_cons ha).symm

theorem splitOn_blanks_behind {c : List Char} (hc : '/' ∉ c) (s : List Char) :
    ∃ front last, s.splitOn '/' = front ++ [last] ∧ (s ++ c).splitOn '/' = front ++ [last ++ c] := by
  induction s with
  | nil => exact ⟨[], [], rfl, List.splitOn_eq_singleton hc⟩
  | cons x s ih =>
      obtain ⟨front, last, hs, hsc⟩ := ih
      rw [List.cons_append, List.splitOn_cons_eq_if_modifyHead, List.splitOn_cons_eq_if_modifyHead, hs, hsc]
      split_ifs
      · exact ⟨[] :: front, last, rfl, rfl⟩
      · cases front with
        | nil => exact ⟨[], x :: last, rfl, rfl⟩
        | cons p front => exact ⟨(x :: p) :: front, last, rfl, rfl⟩

theorem slash_notMem_blanks {a : List Char} (ha : ∀ ch ∈ a, isJsSpace ch = true) : '/' ∉ a := by
  intro hmem
  exact absurd (ha _ hmem) (by decide)

theorem slash_mem_strip : '/' ∈ strip isJsSpace entry ↔ '/' ∈ entry := by
  obtain ⟨a, c, ha, hc, hentry⟩ := strip_between isJsSpace entry
  have ha := slash_notMem_blanks ha
  have hc := slash_notMem_blanks hc
  constructor
  · intro h
    rw [hentry]
    simp [h]
  · intro h
    rw [hentry] at h
    simpa [ha, hc] using h

/-- The first two parts of an entry are those of its trimmed text, with blanks around. -/
theorem entry_split (h : (strip isJsSpace entry).splitOn '/' = base :: bits :: tl) :
    ∃ a c tl', (∀ ch ∈ a, isJsSpace ch = true) ∧ (∀ ch ∈ c, isJsSpace ch = true) ∧
      entry.splitOn '/' = (a ++ base) :: (bits ++ c) :: tl' := by
  obtain ⟨a, c, ha, hc, hentry⟩ := strip_between isJsSpace entry
  obtain ⟨front, last, hfront, hback⟩ := splitOn_blanks_behind (slash_notMem_blanks hc) (strip isJsSpace entry)
  have hsplit : entry.splitOn '/' = (front ++ [last ++ c]).modifyHead (a ++ ·) := by
    rw [← hback, ← splitOn_blanks_before (slash_notMem_blanks ha), ← hentry]
  rw [h] at hfront
  match front, hfront with
  | [p], hfront =>
      obtain ⟨rfl, rfl, -⟩ : base = p ∧ bits = last ∧ tl = [] := by simpa using hfront
      exact ⟨a, c, [], ha, hc, hsplit⟩
  | p :: q :: front, hfront =>
      obtain ⟨rfl, rfl, -⟩ : base = p ∧ bits = q ∧ tl = front ++ [last] := by simpa using hfront
      exact ⟨a, [], front ++ [last ++ c], ha, by simp, by simpa using hsplit⟩

/-- A quad behind blanks is normalised to the quad. -/
theorem normalizeIp_quad {a q : List Char} {n : ℕ} (ha : ∀ ch ∈ a, isJsSpace ch = true)
    (hq : dottedQuad q = some n) : normalizeIp (a ++ q) = q := by
  have hbody : ∀ c ∈ ['0', '1', '2', '3', '4', '5', '6', '7', '8', '9', '.'], isJsSpace c = false :=
    List.all_iff_forall_prop.1 (by decide)
  have hstrip : strip isJsSpace (a ++ (q ++ [])) = q :=
    strip_eq ha (by simp) (fun c hc => hbody c (isQuadChar_iff.1 (dottedQuad_chars hq c hc)))
      (List.ne_nil_of_mem (dot_mem hq))
  rw [List.append_nil] at hstrip
  rw [normalizeIp, hstrip, lower_quad hq, unmap_quad hq]

/-- On an accepted range the source must be written as an IPv4 address with the first bits of the base. -/
theorem cidrMatch_range (hv : isValidAllowEntry entry = true) (hslash : '/' ∈ entry) :
    ∃ base bits tl b n, (strip isJsSpace entry).splitOn '/' = base :: bits :: tl ∧ dottedQuad base = some b ∧
      readDigits 10 0 bits = some n ∧ (cidrMatch source entry = true ↔
        ∃ m, dottedQuad (normalizeIp source) = some m ∧ m / 2 ^ (32 - n) = b / 2 ^ (32 - n)) := by
  unfold isValidAllowEntry at hv
  dsimp only at hv
  split_ifs at hv with hempty hstrip
  · split at hv
    · rename_i base bits tl hsplit
      obtain ⟨hbase, hbits⟩ := Bool.and_eq_true_iff.1 hv
      rw [ipv4ToInt_eq, Option.isSome_map] at hbase
      obtain ⟨b, hb⟩ := Option.isSome_iff_exists.1 hbase
      obtain ⟨n, hn, rfl⟩ := prefixLength_text hbits
      obtain ⟨a, c, tl', ha, hc, hraw⟩ := entry_split hsplit
      refine ⟨base, _, tl, b, n, hsplit, hb, (bitsOf_text n hn).2, ?_⟩
      unfold cidrMatch
      rw [if_pos hslash, hraw]
      dsimp only
      rw [normalizeIp_quad ha hb, bitsOf_blanks hn hc, ipv4ToInt_eq, ipv4ToInt_eq, hb]
      cases hm : dottedQuad (normalizeIp source) with
      | none => simp
      | some m =>
          simp only [Option.map_some, Option.some.injEq, exists_eq_left', decide_eq_true_eq]
          exact masked_eq_iff (dottedQuad_lt hm) (dottedQuad_lt hb) hn
    · cases hv
  · exact absurd (slash_mem_strip.2 hslash) hstrip

/-- An accepted entry without a length denotes one address. -/
theorem address_of_valid (hv : isValidAllowEntry entry = true) (hslash : '/' ∉ entry) :
    ∃ E, address (strip isJsSpace entry) = some E := by
  unfold isValidAllowEntry at hv
  dsimp only at hv
  split_ifs at hv with hempty hstrip
  · exact absurd (slash_mem_strip.1 hstrip) hslash
  · rw [ipv4ToInt_eq, Option.isSome_map] at hv
    unfold address
    cases hquad : dottedQuad (strip isJsSpace entry) with
    | some n => exact ⟨_, rfl⟩
    | none =>
        rw [hquad] at hv
        exact Option.isSome_iff_exists.1 hv

end Entries

/-! ## The entry and the address -/

section Allow
variable {source entry : List Char} {A : Address}

/-- The source and the entry spell their addresses in the forms that `cidrMatch` compares. -/
def Comparable (source entry : List Char) : Prop :=
  if '/' ∈ entry then WrittenAsIPv4 source
  else WrittenAsIPv4 source ∧ WrittenAsIPv4 entry ∨ lower source = lower entry

/-- Two texts of one address without a `/`, equal up to capitals, name zones that differ. -/
def ZonesDiffer (source entry : List Char) : Prop :=
  '/' ∉ entry ∧ lower source = lower entry ∧ zoneOf source ≠ zoneOf entry

theorem denotes_range {base bits : List Char} {tl : List (List Char)} {b n : ℕ}
    (hsplit : (strip isJsSpace entry).splitOn '/' = base :: bits :: tl) (hb : dottedQuad base = some b)
    (hn : readDigits 10 0 bits = some n) :
    Denotes entry A ↔ ∃ m < 2 ^ 32, A = mapped m ∧ m / 2 ^ (32 - n) = b / 2 ^ (32 - n) := by
  unfold Denotes
  rw [hsplit]
  constructor
  · rintro ⟨b', n', m, hb', hn', hm, rfl, hbits⟩
    obtain rfl := Option.some.inj (hb ▸ hb')
    obtain rfl := Option.some.inj (hn ▸ hn')
    exact ⟨m, hm, rfl, hbits⟩
  · rintro ⟨m, hm, rfl, hbits⟩
    exact ⟨b, n, m, hb, hn, hm, rfl, hbits⟩

theorem denotes_exact (hslash : '/' ∉ entry) : Denotes entry A ↔ address (strip isJsSpace entry) = some A := by
  unfold Denotes
  rw [List.splitOn_eq_singleton (mt slash_mem_strip.1 hslash)]

/-- A range is answered rightly unless a source in it is no dotted quad. -/
theorem range_iff (hv : isValidAllowEntry entry = true) (hslash : '/' ∈ entry)
    (hA : address (strip isJsSpace source) = some A) :
    (cidrMatch source entry = true ↔ Denotes entry A) ↔
      (Denotes entry A → WrittenAsIPv4 (strip isJsSpace source)) := by
  obtain ⟨base, bits, tl, b, n, hsplit, hb, hn, hmatch⟩ := @cidrMatch_range source entry hv hslash
  rw [hmatch, denotes_range hsplit hb hn]
  by_cases hwritten : WrittenAsIPv4 (strip isJsSpace source)
  · obtain ⟨m, hm⟩ := Option.isSome_iff_exists.1 (writtenAsIPv4_iff.1 hwritten)
    have haddress := address_of_quad hm (unmap_cases _).symm
    obtain rfl := Option.some.inj (hA.symm.trans haddress)
    refine iff_of_true ⟨?_, ?_⟩ fun _ => hwritten
    · rintro ⟨k, hk, hbits⟩
      obtain rfl := Option.some.inj (hm.symm.trans hk)
      exact ⟨m, dottedQuad_lt hm, rfl, hbits⟩
    · rintro ⟨k, -, hk, hbits⟩
      obtain rfl := mapped_inj hk
      exact ⟨m, hm, hbits⟩
  · have hnone : ∀ m, dottedQuad (normalizeIp source) ≠ some m := fun m hm =>
      hwritten (writtenAsIPv4_iff.2 (Option.isSome_iff_exists.2 ⟨m, hm⟩))
    constructor
    · intro h hden
      obtain ⟨m, hm, -⟩ := h.2 hden
      exact absurd hm (hnone m)
    · intro h
      exact ⟨fun ⟨m, hm, _⟩ => absurd hm (hnone m), fun hden => absurd (h hden) hwritten⟩

/-- Without a range the two texts are compared, without their prefix. -/
theorem cidrMatch_exact (hslash : '/' ∉ entry) : cidrMatch source entry = true ↔
    unmap (lower (strip isJsSpace source)) = unmap (lower (strip isJsSpace entry)) := by
  unfold cidrMatch
  rw [if_neg hslash, decide_eq_true_iff]
  rfl

/-- An address of its own is answered rightly unless it is spelled in two ways, or two zones are taken for one. -/
theorem exact_iff (hv : isValidAllowEntry entry = true) (hslash : '/' ∉ entry)
    (hA : address (strip isJsSpace source) = some A) :
    (cidrMatch source entry = true ↔ Denotes entry A) ↔
      (Denotes entry A → Comparable (strip isJsSpace source) (strip isJsSpace entry)) ∧
        ¬ ZonesDiffer (strip isJsSpace source) (strip isJsSpace entry) := by
  have hstrip := mt slash_mem_strip.1 hslash
  obtain ⟨E, hE⟩ := address_of_valid hv hslash
  have hden : Denotes entry A ↔ A = E := by
    rw [denotes_exact hslash, hE, Option.some.injEq, eq_comm]
  rw [cidrMatch_exact hslash, hden, Comparable, if_neg hstrip]
  by_cases hlower : lower (strip isJsSpace source) = lower (strip isJsSpace entry)
  · -- the texts match, only the zones can tell the addresses apart
    rw [address_eq_iff_zone hA hE hlower, hlower, ZonesDiffer]
    simp [hstrip, hlower]
  · have hzones : ¬ ZonesDiffer (strip isJsSpace source) (strip isJsSpace entry) := fun h => hlower h.2.1
    rw [and_iff_left hzones]
    constructor
    · intro h heq
      exact .inl (((unmap_eq_cases hA hE (h.2 heq)).resolve_left hlower).imp id And.left)
    · intro h
      refine ⟨fun heq => ((unmap_eq_cases hA hE heq).resolve_left hlower).2.2, fun heq => ?_⟩
      obtain ⟨hs, he⟩ := (h heq).resolve_right hlower
      exact unmap_eq_of_written hs he hA (heq ▸ hE)

/-- `cidrMatch` answers for the address exactly if an address in the set is spelled comparably and the zones do
not differ in capitals. -/
theorem allow_iff (hv : isValidAllowEntry entry = true) (hA : address (strip isJsSpace source) = some A) :
    (cidrMatch source entry = true ↔ Denotes entry A) ↔
      (Denotes entry A → Comparable (strip isJsSpace source) (strip isJsSpace entry)) ∧
        ¬ ZonesDiffer (strip isJsSpace source) (strip isJsSpace entry) := by
  by_cases hslash : '/' ∈ entry
  · have hstrip := slash_mem_strip.2 hslash
    have hzones : ¬ ZonesDiffer (strip isJsSpace source) (strip isJsSpace entry) := fun h => h.1 hstrip
    rw [and_iff_left hzones, Comparable, if_pos hstrip]
    exact range_iff hv hslash hA
  · exact exact_iff hv hslash hA

/-- A range and an IPv4 address that a socket for both families gives. -/
theorem mapped_source_allowed :
    cidrMatch "::FFFF:10.1.2.3".toList "10.0.0.0/8 ".toList = true ↔
      Denotes "10.0.0.0/8 ".toList (mapped 167838211) := by
  refine (allow_iff (by decide +kernel) (by decide +kernel)).2 ⟨fun _ => ?_, fun h => absurd h.1 (by decide)⟩
  exact ⟨"10.1.2.3".toList, 167838211, by decide +kernel, .inr (by decide +kernel)⟩

/-- `cidrMatch` takes a leading zero of an IPv6 group for another address. -/
theorem leading_zero_refused :
    ¬ ∀ (entry source : List Char) (A : Address), isValidAllowEntry entry = true →
      address (strip isJsSpace source) = some A → (cidrMatch source entry = true ↔ Denotes entry A) := by
  intro h
  have hsame : address (strip isJsSpace "2001:0db8::1".toList) = address (strip isJsSpace "2001:db8::1".toList) := by
    decide +kernel
  obtain ⟨A, hA⟩ := Option.isSome_iff_exists.1
    (show (address (strip isJsSpace "2001:0db8::1".toList)).isSome = true by decide +kernel)
  have hmatch := (h "2001:db8::1".toList "2001:0db8::1".toList A (by decide +kernel) hA).2
    ((denotes_exact (by decide)).2 (hsame.symm.trans hA))
  exact absurd hmatch (by decide +kernel)

end Allow

end Obliance.Bastion
