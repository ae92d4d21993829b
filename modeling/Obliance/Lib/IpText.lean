import Mathlib.Data.List.TakeWhile
import Mathlib.Tactic.Ring
import Obliance.Lib.Numerals

/-!
# Texts of internet addresses

An IPv4 address is written in one way, as a strict dotted quad. An IPv6 address has many spellings: leading
zeros, capitals, a run of zero groups left out, the last two groups as a dotted quad. An IPv4 address also
has an IPv6 value, the mapped one.

* `dottedQuad`, `value6`, `address` : what a text denotes;
* `dottedQuad_inj` : a dotted quad is the only one with its value;
* `value6_mapped` : the text `::ffff:` before a dotted quad denotes the same address;
* `value6_not_prefixed` : before any other address it denotes none;
* `address6_value` : capitals do not change the value.
-/

namespace IpText
open Numerals

def isDecimal (c : Char) : Bool := decide (c ∈ ['0', '1', '2', '3', '4', '5', '6', '7', '8', '9'])

/-- `0|[1-9]\d{0,2}`, at most 255. -/
def octet (cs : List Char) : Option ℕ :=
  if cs = ['0'] ∨ cs.length ≤ 3 ∧ cs.all isDecimal = true ∧ cs.head? ≠ some '0' ∧ cs ≠ [] then
    (readDigits 10 0 cs).filter (· ≤ 255)
  else none

def dottedQuad (cs : List Char) : Option ℕ :=
  match cs.splitOn '.' with
  | [a, b, c, d] => do
      let a ← octet a
      let b ← octet b
      let c ← octet c
      let d ← octet d
      some (((a * 256 + b) * 256 + c) * 256 + d)
  | _ => none

/-- One to four hexadecimal digits. -/
def hexGroup (cs : List Char) : Option ℕ :=
  if cs ≠ [] ∧ cs.length ≤ 4 then readDigits 16 0 cs else none

/-- The groups between colons, the last of which may be a dotted quad. -/
def groups : List (List Char) → Option (List ℕ)
  | [] => some []
  | [p] =>
      match hexGroup p with
      | some v => some [v]
      | none => (dottedQuad p).map fun n => [n / 65536, n % 65536]
  | p :: ps => do
      let v ← hexGroup p
      let vs ← groups ps
      some (v :: vs)

/-- The text before and behind the first `::`. -/
def splitDouble : List Char → Option (List Char × List Char)
  | ':' :: ':' :: rest => some ([], rest)
  | c :: cs => (splitDouble cs).map fun lr => (c :: lr.1, lr.2)
  | [] => none

def parts (cs : List Char) : List (List Char) := if cs = [] then [] else cs.splitOn ':'

def ofGroups (gs : List ℕ) : ℕ := gs.foldl (fun n g => n * 65536 + g) 0

/-- The value of an IPv6 text without capitals and without a zone. -/
def value6 (cs : List Char) : Option ℕ :=
  match splitDouble cs with
  | some (l, r) => do
      let ls ← (parts l).mapM hexGroup
      let rs ← groups (parts r)
      if ls.length + rs.length ≤ 7 then
        some (ofGroups (ls ++ List.replicate (8 - (ls.length + rs.length)) 0 ++ rs))
      else none
  | none => do
      let gs ← groups (parts cs)
      if gs.length = 8 then some (ofGroups gs) else none

structure Address where
  value : ℕ
  zone : Option (List Char)
  deriving DecidableEq, Repr

/-- The IPv6 form of an IPv4 address. -/
def mapped (n : ℕ) : Address := ⟨65535 * 2 ^ 32 + n, none⟩

theorem mapped_inj {m n : ℕ} (h : mapped m = mapped n) : m = n := by
  have hvalue := congrArg Address.value h
  simpa [mapped] using hvalue

def lower (cs : List Char) : List Char := cs.map Char.toLower

def isZoneChar (c : Char) : Bool := c.isAlphanum || decide (c ∈ ['-', '.', ':'])

/-- The zone behind a `%`, if the text has one and it is well formed. -/
def zoneOf (cs : List Char) : Option (Option (List Char)) :=
  match cs.dropWhile (· ≠ '%') with
  | [] => some none
  | _ :: zone => if zone ≠ [] ∧ zone.all isZoneChar = true then some (some zone) else none

def address6 (cs : List Char) : Option Address := do
  let zone ← zoneOf cs
  let value ← value6 (lower (cs.takeWhile (· ≠ '%')))
  some ⟨value, zone⟩

def isIPv6 (cs : List Char) : Bool := (address6 cs).isSome

/-- The address a text denotes. -/
def address (cs : List Char) : Option Address :=
  match dottedQuad cs with
  | some n => some (mapped n)
  | none => address6 cs

example : address "0:0:0:0:0:ffff:1.2.3.4".toList = address "1.2.3.4".toList := by decide +kernel
example : address "2001:DB8::1".toList = address "2001:db8:0:0::0:01".toList := by decide +kernel

/-! ## Dotted quads -/

section Quads
variable {cs p q : List Char} {n v : ℕ}

theorem octet_le (h : octet p = some v) : v ≤ 255 := by
  unfold octet at h
  split_ifs at h
  obtain ⟨-, hle⟩ := Option.filter_eq_some_iff.1 h
  exact of_decide_eq_true hle

theorem octet_decimal (h : octet p = some v) : ∀ c ∈ p, isDecimal c = true := by
  unfold octet at h
  split_ifs at h with hp
  rcases hp with rfl | ⟨-, hall, -⟩
  · exact List.all_eq_true.1 (by decide)
  · exact List.all_eq_true.1 hall

/-- An octet is the decimal text of its value. -/
theorem octet_text (h : octet p = some v) : p = (toString v).toList := by
  have hdigits : ∀ c ∈ p, c ∈ ['0', '1', '2', '3', '4', '5', '6', '7', '8', '9'] :=
    fun c hc => of_decide_eq_true (octet_decimal h c hc)
  have hone : (['0', '1', '2', '3', '4', '5', '6', '7', '8', '9'].all fun a =>
      (octet [a]).all fun v => decide ([a] = (toString v).toList)) = true := by decide +kernel
  have htwo : (['0', '1', '2', '3', '4', '5', '6', '7', '8', '9'].all fun a =>
      ['0', '1', '2', '3', '4', '5', '6', '7', '8', '9'].all fun b =>
        (octet [a, b]).all fun v => decide ([a, b] = (toString v).toList)) = true := by decide +kernel
  have hthree : (['0', '1', '2', '3', '4', '5', '6', '7', '8', '9'].all fun a =>
      ['0', '1', '2', '3', '4', '5', '6', '7', '8', '9'].all fun b =>
        ['0', '1', '2', '3', '4', '5', '6', '7', '8', '9'].all fun c =>
          (octet [a, b, c]).all fun v => decide ([a, b, c] = (toString v).toList)) = true := by decide +kernel
  simp only [List.all_eq_true] at hone htwo hthree
  match p, h, hdigits with
  | [], h, _ => simp [octet] at h
  | [a], h, hd =>
      have hall := hone a (hd a (by simp))
      rw [h] at hall
      exact of_decide_eq_true hall
  | [a, b], h, hd =>
      have hall := htwo a (hd a (by simp)) b (hd b (by simp))
      rw [h] at hall
      exact of_decide_eq_true hall
  | [a, b, c], h, hd =>
      have hall := hthree a (hd a (by simp)) b (hd b (by simp)) c (hd c (by simp))
      rw [h] at hall
      exact of_decide_eq_true hall
  | a :: b :: c :: d :: rest, h, _ =>
      have hlen : ¬ (a :: b :: c :: d :: rest).length ≤ 3 := by
        simp only [List.length_cons]
        omega
      have hnot : ¬ (a :: b :: c :: d :: rest = ['0'] ∨ (a :: b :: c :: d :: rest).length ≤ 3 ∧
          (a :: b :: c :: d :: rest).all isDecimal = true ∧ (a :: b :: c :: d :: rest).head? ≠ some '0' ∧
          a :: b :: c :: d :: rest ≠ []) := by
        rintro (heq | hle)
        · cases heq
        · exact hlen hle.1
      rw [octet, if_neg hnot] at h
      cases h

/-- A dotted quad is four octets between dots. -/
theorem dottedQuad_iff : dottedQuad cs = some n ↔
    ∃ a b c d w x y z, cs = a ++ '.' :: (b ++ '.' :: (c ++ '.' :: d)) ∧ octet a = some w ∧ octet b = some x ∧
      octet c = some y ∧ octet d = some z ∧ n = ((w * 256 + x) * 256 + y) * 256 + z := by
  constructor
  · intro h
    unfold dottedQuad at h
    split at h
    · rename_i a b c d hsplit
      have hjoin : cs = a ++ '.' :: (b ++ '.' :: (c ++ '.' :: d)) := by
        have hcat : ['.'].intercalate (cs.splitOn '.') = cs := List.intercalate_splitOn '.'
        rw [← hcat, hsplit]
        simp [List.intercalate]
      simp only [Option.bind_eq_bind, Option.bind_eq_some_iff, Option.some.injEq] at h
      obtain ⟨w, hw, x, hx, y, hy, z, hz, hn⟩ := h
      exact ⟨a, b, c, d, w, x, y, z, hjoin, hw, hx, hy, hz, hn.symm⟩
    · cases h
  · rintro ⟨a, b, c, d, w, x, y, z, rfl, hw, hx, hy, hz, rfl⟩
    have hno : ∀ {p v}, octet p = some v → ∀ ch ∈ p, (ch == '.') = false := by
      intro p v hp ch hch
      have hdec : ∀ ch ∈ ['0', '1', '2', '3', '4', '5', '6', '7', '8', '9'], (ch == '.') = false :=
        List.all_iff_forall_prop.1 (by decide)
      exact hdec ch (of_decide_eq_true (octet_decimal hp ch hch))
    rw [dottedQuad, List.splitOn_eq_splitOnP, List.splitOnP_append_cons_of_forall_mem (hno hw) '.' rfl,
      List.splitOnP_append_cons_of_forall_mem (hno hx) '.' rfl,
      List.splitOnP_append_cons_of_forall_mem (hno hy) '.' rfl, List.splitOnP_eq_singleton (hno hz)]
    simp [hw, hx, hy, hz]

theorem dottedQuad_lt (h : dottedQuad cs = some n) : n < 2 ^ 32 := by
  obtain ⟨a, b, c, d, w, x, y, z, -, hw, hx, hy, hz, rfl⟩ := dottedQuad_iff.1 h
  have hw := octet_le hw
  have hx := octet_le hx
  have hy := octet_le hy
  have hz := octet_le hz
  omega

theorem dottedQuad_inj (hp : dottedQuad p = some n) (hq : dottedQuad q = some n) : p = q := by
  obtain ⟨a, b, c, d, w, x, y, z, rfl, hw, hx, hy, hz, hn⟩ := dottedQuad_iff.1 hp
  obtain ⟨a', b', c', d', w', x', y', z', rfl, hw', hx', hy', hz', hn'⟩ := dottedQuad_iff.1 hq
  have := octet_le hx
  have := octet_le hy
  have := octet_le hz
  have := octet_le hx'
  have := octet_le hy'
  have := octet_le hz'
  obtain ⟨rfl, rfl, rfl, rfl⟩ : w = w' ∧ x = x' ∧ y = y' ∧ z = z' := by omega
  rw [octet_text hw, octet_text hx, octet_text hy, octet_text hz, octet_text hw', octet_text hx', octet_text hy',
    octet_text hz']

/-- The characters of a dotted quad. -/
def isQuadChar (c : Char) : Bool := isDecimal c || decide (c = '.')

theorem dottedQuad_chars (h : dottedQuad cs = some n) : ∀ c ∈ cs, isQuadChar c = true := by
  obtain ⟨a, b, c, d, w, x, y, z, rfl, hw, hx, hy, hz, -⟩ := dottedQuad_iff.1 h
  intro ch hch
  simp only [List.mem_append, List.mem_cons] at hch
  unfold isQuadChar
  rcases hch with hch | rfl | hch | rfl | hch | rfl | hch
  · simp [octet_decimal hw ch hch]
  · rfl
  · simp [octet_decimal hx ch hch]
  · rfl
  · simp [octet_decimal hy ch hch]
  · rfl
  · simp [octet_decimal hz ch hch]

theorem dot_mem (h : dottedQuad cs = some n) : '.' ∈ cs := by
  obtain ⟨a, b, c, d, -, -, -, -, rfl, -⟩ := dottedQuad_iff.1 h
  simp

theorem isQuadChar_iff {c : Char} : isQuadChar c = true ↔
    c ∈ ['0', '1', '2', '3', '4', '5', '6', '7', '8', '9', '.'] := by
  simp [isQuadChar, isDecimal, or_assoc]

end Quads

/-! ## Capitals -/

section Capitals
variable {cs ds q : List Char} {n : ℕ}

theorem toLower_cases (c : Char) : c.toLower = c ∨ c.toLower.isLower = true := by
  unfold Char.toLower
  split_ifs with h
  · right
    obtain ⟨hA, hZ⟩ := h
    unfold Char.isLower
    simp only [ge_iff_le, Bool.and_eq_true, decide_eq_true_eq, UInt32.le_iff_toNat_le] at hA hZ ⊢
    simp at hA hZ ⊢
    omega
  · exact .inl rfl

/-- A text whose lower-case form is a quad is the quad. -/
theorem eq_of_lower_eq_quad (hq : dottedQuad q = some n) (h : lower cs = q) : cs = q := by
  have hno : ∀ c ∈ ['0', '1', '2', '3', '4', '5', '6', '7', '8', '9', '.'], c.isLower = false :=
    List.all_iff_forall_prop.1 (by decide)
  rw [← h]
  refine ((List.map_congr_left fun c hc => ?_).trans (List.map_id cs)).symm
  have hmem : c.toLower ∈ q := h ▸ List.mem_map_of_mem hc
  rcases toLower_cases c with heq | hlow
  · exact heq
  · have := hno _ (isQuadChar_iff.1 (dottedQuad_chars hq _ hmem))
    rw [this] at hlow
    cases hlow

theorem lower_takeWhile : lower (cs.takeWhile (· ≠ '%')) = (lower cs).takeWhile (· ≠ '%') := by
  have hcomp : ((fun c : Char => decide (c ≠ '%')) ∘ Char.toLower) = fun c => decide (c ≠ '%') := by
    funext c
    rcases toLower_cases c with heq | hlow
    · simp [heq]
    · have hne : c.toLower ≠ '%' := by
        intro heq
        rw [heq] at hlow
        exact absurd hlow (by decide)
      have hne' : c ≠ '%' := by
        rintro rfl
        exact hne (by decide)
      simp [hne, hne']
  unfold lower
  rw [List.takeWhile_map, hcomp]

/-- Capitals do not change the value. -/
theorem address6_value {A B : Address} (hA : address6 cs = some A) (hB : address6 ds = some B)
    (h : lower cs = lower ds) : A.value = B.value := by
  simp only [address6, Option.bind_eq_bind, Option.bind_eq_some_iff, Option.some.injEq, lower_takeWhile] at hA hB
  obtain ⟨-, -, v, hv, rfl⟩ := hA
  obtain ⟨-, -, w, hw, rfl⟩ := hB
  rw [h, hw] at hv
  exact (Option.some.inj hv).symm
end Capitals

/-! ## The mapped prefix -/

/-- `::ffff:` -/
def mappedPrefix : List Char := [':', ':', 'f', 'f', 'f', 'f', ':']

section Prefixed
variable {cs q : List Char} {n v : ℕ}

/-- Behind the prefix the groups of the rest follow the group 65535. -/
theorem value6_prefixed : value6 (mappedPrefix ++ cs) =
    (groups (cs.splitOn ':')).bind fun gs =>
      if gs.length ≤ 6 then some (ofGroups (List.replicate (7 - gs.length) 0 ++ 65535 :: gs)) else none := by
  have hdouble : splitDouble (mappedPrefix ++ cs) = some ([], ['f', 'f', 'f', 'f'] ++ ':' :: cs) := rfl
  have hparts : parts (['f', 'f', 'f', 'f'] ++ ':' :: cs) = ['f', 'f', 'f', 'f'] :: cs.splitOn ':' :=
    (if_neg (by simp)).trans (List.splitOn_append_cons_self_of_not_mem (by decide) cs)
  have hgroups : groups (['f', 'f', 'f', 'f'] :: cs.splitOn ':') =
      (groups (cs.splitOn ':')).map (65535 :: ·) := by
    obtain ⟨p, ps, hps⟩ := List.exists_cons_of_ne_nil (List.splitOn_ne_nil ':' cs)
    rw [hps, groups, show hexGroup ['f', 'f', 'f', 'f'] = some 65535 from rfl]
    · cases groups (p :: ps) <;> rfl
    · simp
  rw [value6, hdouble]
  simp only [hparts, hgroups]
  cases groups (cs.splitOn ':') with
  | none => rfl
  | some gs =>
      have hlen : ([] : List ℕ).length + (65535 :: gs).length = gs.length + 1 := Nat.zero_add _
      have hrest : 8 - (gs.length + 1) = 7 - gs.length := by omega
      simp only [parts, if_true, List.mapM_nil, Option.map_some, Option.pure_def, Option.bind_eq_bind,
        Option.bind_some, hlen, hrest, List.nil_append]
      by_cases hle : gs.length ≤ 6
      · rw [if_pos hle, if_pos (by omega)]
      · rw [if_neg hle, if_neg (by omega)]

theorem colon_notMem_quad (hq : dottedQuad q = some n) : ':' ∉ q := fun h =>
  absurd (isQuadChar_iff.1 (dottedQuad_chars hq _ h)) (by decide)

theorem hexGroup_of_dot (h : '.' ∈ cs) : hexGroup cs = none := by
  unfold hexGroup
  split_ifs
  · cases hread : readDigits 16 0 cs with
    | none => rfl
    | some v => exact absurd (digits_of_readDigits hread '.' h) (by decide)
  · rfl

/-- A quad stands for two groups. -/
theorem groups_quad (hq : dottedQuad q = some n) : groups (q.splitOn ':') = some [n / 65536, n % 65536] := by
  rw [List.splitOn_eq_singleton (colon_notMem_quad hq), groups, hexGroup_of_dot (dot_mem hq), hq]
  rfl

/-- The text `::ffff:` before a dotted quad denotes the address of the quad. -/
theorem value6_mapped (hq : dottedQuad q = some n) : value6 (mappedPrefix ++ q) = some (mapped n).value := by
  have hlt := dottedQuad_lt hq
  rw [value6_prefixed, groups_quad hq]
  simp [ofGroups, mapped, List.replicate]
  omega

/-- A double colon leaves an empty part behind the first one. -/
theorem nil_mem_of_splitDouble {lr : List Char × List Char} (h : splitDouble cs = some lr) :
    [] ∈ (cs.splitOn ':').tail := by
  induction cs using splitDouble.induct generalizing lr with
  | case1 rest =>
      have hsplit : ∀ ds : List Char, (':' :: ds).splitOn ':' = [] :: ds.splitOn ':' := fun ds => by
        rw [List.splitOn_cons_eq_if_modifyHead, if_pos (by decide)]
      rw [hsplit, hsplit]
      exact .head _
  | case2 c cs hnot ih =>
      rw [splitDouble, Option.map_eq_some_iff] at h
      · obtain ⟨lr, hlr, -⟩ := h
        rw [List.splitOn_cons_eq_if_modifyHead]
        split_ifs
        · exact List.mem_of_mem_tail (ih hlr)
        · rw [List.tail_modifyHead]
          exact ih hlr
      · exact hnot
  | case3 => cases h

theorem groups_of_nil_mem {ps : List (List Char)} (h : [] ∈ ps) : groups ps = none := by
  induction ps with
  | nil => cases h
  | cons p ps ih =>
      rcases List.mem_cons.1 h with rfl | hmem
      · cases ps with
        | nil => decide
        | cons p' ps =>
            rw [groups]
            · rfl
            · simp
      · obtain ⟨p', ps', rfl⟩ := List.exists_cons_of_ne_nil (List.ne_nil_of_mem hmem)
        rw [groups, ih hmem]
        · cases hexGroup p <;> rfl
        · simp

/-- Before any other address the prefix makes no address. -/
theorem value6_not_prefixed (h : value6 cs = some v) : value6 (mappedPrefix ++ cs) = none := by
  rw [value6_prefixed]
  unfold value6 at h
  split at h
  · rename_i hdouble
    rw [groups_of_nil_mem (List.mem_of_mem_tail (nil_mem_of_splitDouble hdouble))]
    rfl
  · simp only [Option.bind_eq_bind, Option.bind_eq_some_iff] at h
    obtain ⟨gs, hgs, h⟩ := h
    split_ifs at h with hlen
    have hne : cs ≠ [] := by
      rintro rfl
      cases hgs
      exact absurd hlen (by decide)
    rw [parts, if_neg hne] at hgs
    rw [hgs, Option.bind_some, if_neg (by omega)]

end Prefixed

end IpText
