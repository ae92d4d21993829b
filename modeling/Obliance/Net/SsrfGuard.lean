import Obliance.Lib.IpCanonical

/-!
# The guard of outbound requests (`ssrfGuard.ts`)

* `isPrivateIPv4`, `isPrivateIPv6` : the tests on the text of an address;
* `isPrivateIPv4_ntop4`, `isPrivateIPv6_ntop6` : the addresses they refuse, given by their canonical text;
* `NonPublic` : the ranges an outbound request must not reach;
* `Url`, `Node` : the parsed URL, and the parser and the resolver of Node;
* `assertPublicHttpUrl`, `sound_iff` : the guard, and when it lets an address of the ranges through.
-/

namespace Obliance.Net.SsrfGuard
open IpText

/-! ## The tests -/

/-- The characters a pattern takes, place by place. -/
abbrev Pattern := List (List Char)

def takes : Pattern → List Char → Option (List Char)
  | [], cs => some cs
  | set :: p, c :: cs => if c ∈ set then takes p cs else none
  | _ :: _, [] => none

/-- `^(p|q|…)\.(…)\.`: alternatives, each followed by a dot. -/
def dotted : List (List Pattern) → List Char → Bool
  | [], _ => true
  | alternatives :: more, cs => alternatives.any fun p =>
      match takes p cs with
      | some ('.' :: rest) => dotted more rest
      | _ => false

def word (s : String) : Pattern := s.toList.map fun c => [c]

def digits : List Char := "0123456789".toList

def PRIVATE_V4_PREFIXES : List (List (List Pattern)) :=
  [[[word "10"]],
    [[word "127"]],
    [[word "169"], [word "254"]],
    [[word "192"], [word "168"]],
    [[word "172"], [[['1'], "6789".toList], [['2'], digits], [['3'], ['0', '1']]]],
    [[word "0"]],
    [[word "100"], [[['6'], "456789".toList], ["789".toList, digits], [['1'], ['0', '1'], digits],
      [['1'], ['2'], "01234567".toList]]]]

def isPrivateIPv4 (ip : List Char) : Bool := PRIVATE_V4_PREFIXES.any fun re => dotted re ip

/-- `\d{1,3}` four times, with dots between. -/
def isShortQuad (cs : List Char) : Bool :=
  match cs.splitOn '.' with
  | [a, b, c, d] => [a, b, c, d].all fun p => decide (1 ≤ p.length ∧ p.length ≤ 3) && p.all isDecimal
  | _ => false

def isPrivateIPv6 (ip : List Char) : Bool :=
  let lc := lower ip
  if lc = "::1".toList then true
  else if "fc".toList.isPrefixOf lc || "fd".toList.isPrefixOf lc then true
  else if "fe8".toList.isPrefixOf lc || "fe9".toList.isPrefixOf lc || "fea".toList.isPrefixOf lc ||
      "feb".toList.isPrefixOf lc then true
  else if mappedPrefix.isPrefixOf lc && isShortQuad (lc.drop mappedPrefix.length) then
    isPrivateIPv4 (lc.drop mappedPrefix.length)
  else false

/-! ## The ranges -/

/-- The addresses of `bits` bits that share the first `len` bits of `base`. -/
def Within (bits base len v : ℕ) : Prop := v / 2 ^ (bits - len) = base / 2 ^ (bits - len)

instance (bits base len v : ℕ) : Decidable (Within bits base len v) := inferInstanceAs (Decidable (_ = _))

def quad (a b c d : ℕ) : ℕ := ((a * 256 + b) * 256 + c) * 256 + d

/-- 0.0.0.0/8, 10/8, 100.64/10, 127/8, 169.254/16, 172.16/12 and 192.168/16. -/
def NonPublic4 (n : ℕ) : Prop :=
  Within 32 (quad 0 0 0 0) 8 n ∨ Within 32 (quad 10 0 0 0) 8 n ∨ Within 32 (quad 100 64 0 0) 10 n ∨
    Within 32 (quad 127 0 0 0) 8 n ∨ Within 32 (quad 169 254 0 0) 16 n ∨ Within 32 (quad 172 16 0 0) 12 n ∨
    Within 32 (quad 192 168 0 0) 16 n

inductive IpAddress where
  | v4 (value : Fin (2 ^ 32))
  | v6 (value : Fin (2 ^ 128))
  deriving DecidableEq, Repr

namespace IpAddress

def family : IpAddress → ℕ
  | v4 _ => 4
  | v6 _ => 6

/-- `inet_ntop` -/
def text : IpAddress → List Char
  | v4 n => ntop4 n
  | v6 v => ntop6 v

def unspecified : IpAddress := .v6 ⟨0, by decide⟩

/-- The addresses an outbound request must not reach: `::`, `::1`, fc00::/7, fe80::/10 and the mapped ones besides. -/
def NonPublic : IpAddress → Prop
  | v4 n => NonPublic4 n
  | v6 v => v.val = 0 ∨ v.val = 1 ∨ Within 128 (0xfc00 * 2 ^ 112) 7 v ∨ Within 128 (0xfe80 * 2 ^ 112) 10 v ∨
      Within 128 (0xffff * 2 ^ 32) 96 v ∧ NonPublic4 (v.val % 2 ^ 32)

/-- The first group of an address whose text begins like the local ones, possibly with fewer digits. -/
def LooksLocal (g : ℕ) : Prop :=
  g / 2 = 0xfc / 2 ∨ g / 32 = 0xfc / 2 ∨ g / 512 = 0xfc / 2 ∨ g / 4 = 0xfe8 / 4 ∨ g / 64 = 0xfe8 / 4

/-- What the tests refuse of the addresses. -/
def Refused : IpAddress → Prop
  | v4 n => NonPublic4 n
  | v6 v => v.val = 1 ∨ LooksLocal (v.val / 2 ^ 112) ∨
      Within 128 (0xffff * 2 ^ 32) 96 v ∧ NonPublic4 (v.val % 2 ^ 32)

/-- The two tests of the loop over the answers. -/
def refused (a : IpAddress) : Bool :=
  decide (a.family = 4) && isPrivateIPv4 a.text || decide (a.family = 6) && isPrivateIPv6 a.text

end IpAddress

/-! ## What the tests refuse -/

section Quads
variable {t rest : List Char} {n : ℕ}

def fits (p : Pattern) (t : List Char) : Bool := decide (takes p t = some [])

/-- A pattern without a dot ends at the dot behind a text without one. -/
theorem takes_dot {p : Pattern} {f : List Char → Bool} (hp : ∀ set ∈ p, '.' ∉ set) (ht : '.' ∉ t) :
    (match takes p (t ++ '.' :: rest) with
      | some ('.' :: rest) => f rest
      | _ => false) = (fits p t && f rest) := by
  induction p generalizing t with
  | nil =>
      cases t with
      | nil => rfl
      | cons c t =>
          have hc : c ≠ '.' := (List.ne_of_not_mem_cons ht).symm
          rw [List.cons_append, takes]
          split
          · rename_i heq
            exact absurd (List.cons.inj (Option.some.inj heq)).1 hc
          · rfl
  | cons set p ih =>
      cases t with
      | nil =>
          have hset := hp set List.mem_cons_self
          rw [List.nil_append, takes, if_neg hset]
          rfl
      | cons c t =>
          have htail := ih (fun s hs => hp s (List.mem_cons_of_mem _ hs)) (List.not_mem_of_not_mem_cons ht)
          by_cases hc : c ∈ set
          · rw [List.cons_append, takes, if_pos hc, htail, fits, fits, takes, if_pos hc]
          · rw [List.cons_append, takes, if_neg hc, fits, takes, if_neg hc]
            rfl

theorem dotted_cons {alternatives : List Pattern} {more : List (List Pattern)}
    (h : ∀ p ∈ alternatives, ∀ set ∈ p, '.' ∉ set) (ht : '.' ∉ t) :
    dotted (alternatives :: more) (t ++ '.' :: rest) = (alternatives.any (fits · t) && dotted more rest) := by
  rw [dotted]
  induction alternatives with
  | nil => rfl
  | cons p alternatives ih =>
      rw [List.any_cons, List.any_cons, takes_dot (h p List.mem_cons_self) ht,
        ih fun q hq => h q (List.mem_cons_of_mem _ hq)]
      cases fits p t <;> cases dotted more rest <;> simp

theorem takes_word (cs : List Char) : ∀ t, takes (cs.map fun c => [c]) t = some [] ↔ t = cs := by
  induction cs with
  | nil => exact fun t => Option.some_inj
  | cons c cs ih =>
      intro t
      cases t with
      | nil => simp [takes]
      | cons d t =>
          rw [List.map_cons, takes]
          by_cases hd : d = c
          · rw [if_pos (List.mem_singleton.2 hd), ih, hd, List.cons_inj_right]
          · rw [if_neg fun h => hd (List.mem_singleton.1 h)]
            exact iff_of_false nofun fun h => hd (List.cons.inj h).1

/-- A word that is the text of an octet takes the text of that octet. -/
theorem word_fits (w : String) (k : ℕ) (hw : w.toList = decimal k) (a : ℕ) (_ : a < 256) :
    [word w].any (fits · (decimal a)) = decide (a = k) := by
  have hiff : decimal a = decimal k ↔ a = k := ⟨Numerals.decimal_inj, congrArg decimal⟩
  rw [List.any_cons, List.any_nil, Bool.or_false, fits, word]
  exact decide_eq_decide.2 ((takes_word _ _).trans (hw ▸ hiff))

theorem fits_16_31 : ∀ a < 256, [[['1'], "6789".toList], [['2'], digits], [['3'], ['0', '1']]].any
    (fits · (decimal a)) = decide (16 ≤ a ∧ a ≤ 31) := by decide +kernel

theorem fits_64_127 : ∀ a < 256, [[['6'], "456789".toList], ["789".toList, digits], [['1'], ['0', '1'], digits],
    [['1'], ['2'], "01234567".toList]].any (fits · (decimal a)) = decide (64 ≤ a ∧ a ≤ 127) := by decide +kernel

section Octets
variable {first second : List Pattern} {q r : ℕ → Prop} [DecidablePred q] [DecidablePred r]

/-- A test of the first octet. -/
theorem dotted_one (hdot : ∀ p ∈ first, ∀ set ∈ p, '.' ∉ set)
    (h : ∀ a < 256, first.any (fits · (decimal a)) = decide (q a)) (n : ℕ) :
    dotted [first] (ntop4 n) = true ↔ q (n / 2 ^ 24 % 256) := by
  rw [ntop4, dotted_cons hdot (dot_notMem_decimal _), dotted, Bool.and_true, h _ (Nat.mod_lt _ (by decide)),
    decide_eq_true_eq]

/-- A test of the first two octets. -/
theorem dotted_two (hdot : ∀ p ∈ first ++ second, ∀ set ∈ p, '.' ∉ set)
    (hfirst : ∀ a < 256, first.any (fits · (decimal a)) = decide (q a))
    (hsecond : ∀ a < 256, second.any (fits · (decimal a)) = decide (r a)) (n : ℕ) :
    dotted [first, second] (ntop4 n) = true ↔ q (n / 2 ^ 24 % 256) ∧ r (n / 2 ^ 16 % 256) := by
  rw [ntop4, dotted_cons (fun p hp => hdot p (List.mem_append_left _ hp)) (dot_notMem_decimal _),
    dotted_cons (fun p hp => hdot p (List.mem_append_right _ hp)) (dot_notMem_decimal _), dotted, Bool.and_true,
    hfirst _ (Nat.mod_lt _ (by decide)), hsecond _ (Nat.mod_lt _ (by decide)), Bool.and_eq_true, decide_eq_true_eq,
    decide_eq_true_eq]

end Octets

/-- The test of an IPv4 text refuses the ranges. -/
theorem isPrivateIPv4_ntop4 (h : n < 2 ^ 32) : isPrivateIPv4 (ntop4 n) = true ↔ NonPublic4 n := by
  have h10 := dotted_one (by decide) (word_fits "10" 10 (by decide)) n
  have h127 := dotted_one (by decide) (word_fits "127" 127 (by decide)) n
  have h169 := dotted_two (by decide) (word_fits "169" 169 (by decide)) (word_fits "254" 254 (by decide)) n
  have h192 := dotted_two (by decide) (word_fits "192" 192 (by decide)) (word_fits "168" 168 (by decide)) n
  have h172 := dotted_two (by decide) (word_fits "172" 172 (by decide)) fits_16_31 n
  have h0 := dotted_one (by decide) (word_fits "0" 0 (by decide)) n
  have h100 := dotted_two (by decide) (word_fits "100" 100 (by decide)) fits_64_127 n
  simp only [isPrivateIPv4, PRIVATE_V4_PREFIXES, List.any_cons, List.any_nil, Bool.or_eq_true, Bool.false_eq_true, or_false,
    h10, h127, h169, h192, h172, h0, h100, NonPublic4, Within, quad]
  omega

/-! ### The mapped form -/

theorem shortOctet {p : List Char} {v : ℕ} (h : octet p = some v) :
    (decide (1 ≤ p.length ∧ p.length ≤ 3) && p.all isDecimal) = true := by
  rw [Bool.and_eq_true, decide_eq_true_eq, List.all_eq_true]
  refine ⟨?_, octet_decimal h⟩
  unfold octet at h
  split_ifs at h with hp
  rcases hp with rfl | ⟨hle, -, -, hne⟩
  · decide
  · exact ⟨List.length_pos_iff.2 hne, hle⟩

theorem isShortQuad_of_quad (h : dottedQuad t = some n) : isShortQuad t = true := by
  have hdot {p : List Char} {v : ℕ} (hp : octet p = some v) : '.' ∉ p := fun hmem =>
    absurd (octet_decimal hp _ hmem) (by decide)
  obtain ⟨a, b, c, d, w, x, y, z, rfl, hw, hx, hy, hz, -⟩ := dottedQuad_iff.1 h
  rw [isShortQuad, List.splitOn_append_cons_self_of_not_mem (hdot hw), List.splitOn_append_cons_self_of_not_mem (hdot hx),
    List.splitOn_append_cons_self_of_not_mem (hdot hy), List.splitOn_eq_singleton (hdot hz)]
  simp only [List.all_cons, List.all_nil, shortOctet hw, shortOctet hx, shortOctet hy, shortOctet hz, Bool.and_true]

/-- What the expression of the mapped form takes has dots and no colon. -/
theorem chars_of_isShortQuad (h : isShortQuad t = true) : '.' ∈ t ∧ ':' ∉ t := by
  unfold isShortQuad at h
  split at h
  · rename_i a b c d hsplit
    have hjoin : ['.'].intercalate [a, b, c, d] = t := by
      rw [← hsplit]
      exact List.intercalate_splitOn '.'
    have hall : ∀ p ∈ [a, b, c, d], ':' ∉ p := by
      intro p hp hmem
      have hdecimal := (Bool.and_eq_true _ _ ▸ List.all_eq_true.1 h p hp).2
      exact absurd (List.all_eq_true.1 hdecimal ':' hmem) (by decide)
    simp only [List.forall_mem_cons] at hall
    rw [← hjoin]
    simp [List.intercalate, hall]
  · cases h

/-- The mapped form is the text of the mapped addresses, and captures the text of the IPv4 address. -/
theorem mapped_iff {v : ℕ} (h : v < 2 ^ 128) :
    (mappedPrefix.isPrefixOf (ntop6 v) && isShortQuad ((ntop6 v).drop mappedPrefix.length)) = true ↔ v / 2 ^ 32 = 65535 := by
  rw [Bool.and_eq_true, List.isPrefixOf_iff_prefix]
  constructor
  · rintro ⟨⟨q, hq⟩, hshort⟩
    rw [← hq, List.drop_left] at hshort
    obtain ⟨hdot, hcolon⟩ := chars_of_isShortQuad hshort
    exact (mapped_of_ntop6 h hdot hcolon hq.symm).1
  · intro hmapped
    rw [ntop6_mapped hmapped, List.drop_left]
    exact ⟨List.prefix_append _ _, isShortQuad_of_quad (dottedQuad_ntop4 (Nat.mod_lt _ (by decide)))⟩

end Quads

/-! ### Beginnings -/

section Beginnings
variable {a b c g v : ℕ} {rest : List Char}

theorem digitChar_inj : ∀ a < 16, ∀ b < 16, (Nat.digitChar a = Nat.digitChar b ↔ a = b) := by decide

theorem digitChar_ne_colon : ∀ a < 16, Nat.digitChar a ≠ ':' := by decide

theorem prefix_two (ha : a < 16) (hb : b < 16) (hpos : 0 < a) (hg : g < 65536) :
    [Nat.digitChar a, Nat.digitChar b] <+: hexText g ++ ':' :: rest ↔
      g = 16 * a + b ∨ g / 16 = 16 * a + b ∨ g / 256 = 16 * a + b := by
  unfold hexText
  split_ifs <;>
    simp (disch := omega) only [List.cons_append, List.nil_append, List.cons_prefix_cons, List.nil_prefix, and_true,
      digitChar_inj, digitChar_ne_colon, and_false, false_iff] <;>
    omega

theorem prefix_three (ha : a < 16) (hb : b < 16) (hc : c < 16) (hpos : 0 < a) (hg : g < 65536) :
    [Nat.digitChar a, Nat.digitChar b, Nat.digitChar c] <+: hexText g ++ ':' :: rest ↔
      g = 256 * a + 16 * b + c ∨ g / 16 = 256 * a + 16 * b + c := by
  unfold hexText
  split_ifs <;>
    simp (disch := omega) only [List.cons_append, List.nil_append, List.cons_prefix_cons, List.nil_prefix, and_true,
      digitChar_inj, digitChar_ne_colon, and_false, false_and, false_iff] <;>
    omega

/-- The tests of the beginning refuse the texts that look local. -/
theorem looksLocal_iff (h : v < 2 ^ 128) :
    ("fc".toList.isPrefixOf (ntop6 v) || "fd".toList.isPrefixOf (ntop6 v)) = true ∨
        ("fe8".toList.isPrefixOf (ntop6 v) || "fe9".toList.isPrefixOf (ntop6 v) || "fea".toList.isPrefixOf (ntop6 v) ||
          "feb".toList.isPrefixOf (ntop6 v)) = true ↔ IpAddress.LooksLocal (v / 2 ^ 112) := by
  have hg : v / 2 ^ 112 < 65536 := by omega
  simp only [Bool.or_eq_true, List.isPrefixOf_iff_prefix, IpAddress.LooksLocal]
  obtain ⟨rest, hrest | ⟨hzero, hrest⟩⟩ := ntop6_head h
  · have two (b : ℕ) (hb : b < 16) : [Nat.digitChar 15, Nat.digitChar b] <+: hexText (v / 2 ^ 112) ++ ':' :: rest ↔ _ :=
      prefix_two (by decide) hb (by decide) hg
    have three (c : ℕ) (hc : c < 16) :
        [Nat.digitChar 15, Nat.digitChar 14, Nat.digitChar c] <+: hexText (v / 2 ^ 112) ++ ':' :: rest ↔ _ :=
      prefix_three (by decide) (by decide) hc (by decide) hg
    have hfc : "fc".toList <+: ntop6 v ↔ _ := hrest ▸ two 12 (by decide)
    have hfd : "fd".toList <+: ntop6 v ↔ _ := hrest ▸ two 13 (by decide)
    have hfe8 : "fe8".toList <+: ntop6 v ↔ _ := hrest ▸ three 8 (by decide)
    have hfe9 : "fe9".toList <+: ntop6 v ↔ _ := hrest ▸ three 9 (by decide)
    have hfea : "fea".toList <+: ntop6 v ↔ _ := hrest ▸ three 10 (by decide)
    have hfeb : "feb".toList <+: ntop6 v ↔ _ := hrest ▸ three 11 (by decide)
    rw [hfc, hfd, hfe8, hfe9, hfea, hfeb]
    omega
  · have hnone {w : List Char} : ¬ 'f' :: w <+: ntop6 v := by
      rw [hrest, List.cons_prefix_cons]
      exact fun h => absurd h.1 (by decide)
    refine iff_of_false ?_ (by omega)
    rintro ((h | h) | ((h | h) | h) | h)
    all_goals exact hnone h

/-- The test of an IPv6 text, on canonical texts. -/
theorem isPrivateIPv6_ntop6 (h : v < 2 ^ 128) : isPrivateIPv6 (ntop6 v) = true ↔
    v = 1 ∨ IpAddress.LooksLocal (v / 2 ^ 112) ∨ v / 2 ^ 32 = 65535 ∧ NonPublic4 (v % 2 ^ 32) := by
  have hone : ntop6 v = "::1".toList ↔ v = 1 := by
    constructor
    · intro htext
      have hvalue := value6_ntop6 h
      rw [htext] at hvalue
      exact (Option.some.inj hvalue).symm
    · rintro rfl
      decide +kernel
  have hlocal := looksLocal_iff h
  have hmapped := mapped_iff h
  unfold isPrivateIPv6
  rw [lower_ntop6]
  dsimp only
  by_cases h1 : ntop6 v = "::1".toList
  · rw [if_pos h1]
    exact iff_of_true rfl (.inl (hone.1 h1))
  rw [if_neg h1]
  split_ifs with hfc hfe hm
  · exact iff_of_true rfl (.inr (.inl (hlocal.1 (.inl hfc))))
  · exact iff_of_true rfl (.inr (.inl (hlocal.1 (.inr hfe))))
  · have hhigh := hmapped.1 hm
    rw [ntop6_mapped hhigh, List.drop_left, isPrivateIPv4_ntop4 (Nat.mod_lt _ (by decide))]
    refine ⟨fun hn => .inr (.inr ⟨hhigh, hn⟩), ?_⟩
    rintro (hv | hv | hv)
    · exact absurd (hone.2 hv) h1
    · exact absurd (hlocal.2 hv) (not_or.2 ⟨hfc, hfe⟩)
    · exact hv.2
  · refine iff_of_false not_false ?_
    rintro (hv | hv | hv)
    · exact h1 (hone.2 hv)
    · exact absurd (hlocal.2 hv) (not_or.2 ⟨hfc, hfe⟩)
    · exact hm (hmapped.2 hv.1)

end Beginnings

namespace IpAddress

/-- **The tests refuse what `Refused` says**, on the canonical texts. -/
theorem refused_iff : ∀ a : IpAddress, a.refused = true ↔ a.Refused
  | .v4 n => by
      rw [refused, text, family, Refused, ← isPrivateIPv4_ntop4 n.isLt]
      simp
  | .v6 v => by
      have hmapped : Within 128 (0xffff * 2 ^ 32) 96 v ↔ v.val / 2 ^ 32 = 65535 := by
        rw [Within]
        omega
      rw [refused, text, family, Refused, hmapped, ← isPrivateIPv6_ntop6 v.isLt]
      simp

/-- Of the addresses that must not be reached, the tests miss the unspecified one only. -/
theorem nonPublic_cases : ∀ {a : IpAddress}, a.NonPublic → a = unspecified ∨ a.Refused
  | .v4 _, h => .inr h
  | .v6 v, h => by
      have hlt := v.isLt
      rcases h with h | h | h | h | h
      · exact .inl (congrArg IpAddress.v6 (Fin.ext h))
      · exact .inr (.inl h)
      · refine .inr (.inr (.inl ?_))
        simp only [Within] at h
        simp only [LooksLocal]
        omega
      · refine .inr (.inr (.inl ?_))
        simp only [Within] at h
        simp only [LooksLocal]
        omega
      · exact .inr (.inr (.inr h))

theorem unspecified_nonPublic : unspecified.NonPublic := .inl rfl

end IpAddress

/-! ## The guard -/

inductive Host where
  | domain (name : String)
  | ipv4 (value : Fin (2 ^ 32))
  | ipv6 (value : Fin (2 ^ 128))
  deriving DecidableEq, Repr

namespace Host

/-- `url.hostname`: the literal of an IPv6 address stands in brackets. -/
def hostname : Host → List Char
  | domain name => name.toList
  | ipv4 n => ntop4 n
  | ipv6 v => '[' :: (text6 (groupsOf v) ++ [']'])

/-- The address that was given literally. -/
def literal : Host → Option IpAddress
  | domain _ => none
  | ipv4 n => some (.v4 n)
  | ipv6 v => some (.v6 v)

end Host

structure Url where
  protocol : String
  host : Host
  deriving DecidableEq, Repr

/-- `new URL`, `none` when it throws, and `lookup` with all answers, or the message of its error. -/
structure Node where
  parseUrl : String → Option Url
  lookup : List Char → Except String (List IpAddress)

/-- `net.isIP` -/
def isIP (cs : List Char) : ℕ := if (dottedQuad cs).isSome then 4 else if isIPv6 cs then 6 else 0

/-- The loop over the answers. -/
def screen (hostname : List Char) : List IpAddress → Except String Unit
  | [] => .ok ()
  | a :: answers =>
      if a.refused then
        .error ("Refused private destination (" ++ String.ofList hostname ++ " → " ++ String.ofList a.text ++ ")")
      else screen hostname answers

/-- The error of the `catch`. -/
def caught (hostname : List Char) (message : String) : String :=
  if "Refused".toList.isPrefixOf message.toList then message
  else "Could not resolve " ++ String.ofList hostname ++ ": " ++ message

/-- The URL, with the addresses it was resolved to. -/
def assertPublicHttpUrl (node : Node) (rawUrl : String) : Except String (Url × List IpAddress) :=
  match node.parseUrl rawUrl with
  | none => .error "Invalid URL"
  | some url =>
      let hostname := url.host.hostname
      if url.protocol ≠ "http:" ∧ url.protocol ≠ "https:" then .error ("Refused non-HTTP scheme: " ++ url.protocol)
      else if hostname = "localhost".toList ∨ hostname = "localhost.localdomain".toList then
        .error "Refused private destination (localhost)"
      else if isIP hostname = 4 ∧ isPrivateIPv4 hostname ∨ isIP hostname = 6 ∧ isPrivateIPv6 hostname then
        .error ("Refused private destination (" ++ String.ofList hostname ++ ")")
      else if isIP hostname = 0 then
        match node.lookup hostname with
        | .error message => .error (caught hostname message)
        | .ok answers =>
            match screen hostname answers with
            | .error message => .error (caught hostname message)
            | .ok _ => .ok (url, answers)
      else .ok (url, [])

/-! ## What the guard lets through -/

section Guard
variable {node : Node} {rawUrl : String} {url : Url} {hostname : List Char} {answers seen : List IpAddress}

theorem isIP_ntop4 {n : ℕ} (h : n < 2 ^ 32) : isIP (ntop4 n) = 4 := by
  rw [isIP, dottedQuad_ntop4 h]
  rfl

/-- A literal in brackets is no address text. -/
theorem isIP_bracket (cs : List Char) : isIP ('[' :: cs) = 0 := by
  have hquad : dottedQuad ('[' :: cs) = none := by
    cases hq : dottedQuad ('[' :: cs) with
    | none => rfl
    | some n => exact absurd (dottedQuad_chars hq '[' List.mem_cons_self) (by decide)
  have hsix : isIPv6 ('[' :: cs) = false := by
    have hvalue (ds : List Char) : value6 ('[' :: ds) = none := value6_eq_none (by decide) (by decide) (by decide) ds
    have hlower : lower (('[' :: cs).takeWhile (· ≠ '%')) = '[' :: lower (cs.takeWhile (· ≠ '%')) := rfl
    rw [isIPv6, address6, hlower, hvalue]
    cases zoneOf ('[' :: cs) <;> rfl
  rw [isIP, hquad, hsix]
  rfl

theorem screen_eq_ok : screen hostname answers = .ok () ↔ ∀ a ∈ answers, ¬ a.Refused := by
  induction answers with
  | nil => exact iff_of_true rfl fun a ha => absurd ha List.not_mem_nil
  | cons a answers ih =>
      rw [screen, List.forall_mem_cons, ← IpAddress.refused_iff]
      split_ifs with ha
      · simp [ha]
      · simp [ha, ih]

/-- A call that passes has an http URL of a host that is not refused, and each answer of its lookup passes. -/
theorem assert_eq_ok : assertPublicHttpUrl node rawUrl = .ok (url, seen) ↔
    node.parseUrl rawUrl = some url ∧ (url.protocol = "http:" ∨ url.protocol = "https:") ∧
      ¬ (url.host.hostname = "localhost".toList ∨ url.host.hostname = "localhost.localdomain".toList) ∧
      ¬ (isIP url.host.hostname = 4 ∧ isPrivateIPv4 url.host.hostname ∨
        isIP url.host.hostname = 6 ∧ isPrivateIPv6 url.host.hostname) ∧
      (isIP url.host.hostname = 0 ∧ node.lookup url.host.hostname = .ok seen ∧ (∀ a ∈ seen, ¬ a.Refused) ∨
        isIP url.host.hostname ≠ 0 ∧ seen = []) := by
  unfold assertPublicHttpUrl
  cases hparse : node.parseUrl rawUrl with
  | none => simp
  | some url' =>
      dsimp only
      split_ifs with hscheme hlocal hdirect hname
      · refine iff_of_false (fun h => by cases h) ?_
        rintro ⟨hurl, hp, -⟩
        obtain rfl := Option.some.inj hurl
        exact hp.elim hscheme.1 hscheme.2
      · refine iff_of_false (fun h => by cases h) ?_
        rintro ⟨hurl, -, hnot, -⟩
        obtain rfl := Option.some.inj hurl
        exact hnot hlocal
      · refine iff_of_false (fun h => by cases h) ?_
        rintro ⟨hurl, -, -, hnot, -⟩
        obtain rfl := Option.some.inj hurl
        exact hnot hdirect
      · have hhttp : url'.protocol = "http:" ∨ url'.protocol = "https:" := by
          by_contra hno
          exact hscheme (not_or.1 hno)
        cases hlookup : node.lookup url'.host.hostname with
        | error message =>
            refine iff_of_false (fun h => by cases h) ?_
            rintro ⟨hurl, -, -, -, ⟨-, hanswers, -⟩ | ⟨hnot, -⟩⟩
            · obtain rfl := Option.some.inj hurl
              rw [hlookup] at hanswers
              cases hanswers
            · obtain rfl := Option.some.inj hurl
              exact hnot hname
        | ok answers =>
            dsimp only
            cases hscreen : screen url'.host.hostname answers with
            | error message =>
                refine iff_of_false (fun h => by cases h) ?_
                rintro ⟨hurl, -, -, -, ⟨-, hanswers, hpass⟩ | ⟨hnot, -⟩⟩
                · obtain rfl := Option.some.inj hurl
                  obtain rfl := Except.ok.inj (hlookup.symm.trans hanswers)
                  rw [screen_eq_ok.2 hpass] at hscreen
                  cases hscreen
                · obtain rfl := Option.some.inj hurl
                  exact hnot hname
            | ok u =>
                have hpass := screen_eq_ok.1 hscreen
                constructor
                · intro h
                  obtain ⟨rfl, rfl⟩ := Prod.mk.inj (Except.ok.inj h)
                  exact ⟨rfl, hhttp, hlocal, hdirect, .inl ⟨hname, hlookup, hpass⟩⟩
                · rintro ⟨hurl, -, -, -, ⟨-, hanswers, -⟩ | ⟨hnot, -⟩⟩
                  · obtain rfl := Option.some.inj hurl
                    rw [Except.ok.inj (hlookup.symm.trans hanswers)]
                  · obtain rfl := Option.some.inj hurl
                    exact absurd hname hnot
      · have hhttp : url'.protocol = "http:" ∨ url'.protocol = "https:" := by
          by_contra hno
          exact hscheme (not_or.1 hno)
        constructor
        · intro h
          obtain ⟨rfl, rfl⟩ := Prod.mk.inj (Except.ok.inj h)
          exact ⟨rfl, hhttp, hlocal, hdirect, .inr ⟨hname, rfl⟩⟩
        · rintro ⟨hurl, -, -, -, ⟨hyes, -⟩ | ⟨-, rfl⟩⟩
          · obtain rfl := Option.some.inj hurl
            exact absurd hyes hname
          · obtain rfl := Option.some.inj hurl
            rfl

end Guard

/-- No address it resolved or was given lies in the ranges, if the guard returns. -/
def Sound (node : Node) (rawUrl : String) : Prop :=
  ∀ url seen, assertPublicHttpUrl node rawUrl = .ok (url, seen) →
    ∀ a, a ∈ seen ∨ url.host.literal = some a → ¬ a.NonPublic

/-- A URL that passes with an address of the ranges: the unspecified one among the answers, or an IPv6 literal,
which is looked up under its name in brackets. -/
structure Escapes (node : Node) (rawUrl : String) (url : Url) (answers : List IpAddress) : Prop where
  parsed : node.parseUrl rawUrl = some url
  http : url.protocol = "http:" ∨ url.protocol = "https:"
  notLocalhost : ¬ (url.host.hostname = "localhost".toList ∨ url.host.hostname = "localhost.localdomain".toList)
  notAddress : isIP url.host.hostname = 0
  answered : node.lookup url.host.hostname = .ok answers
  notRefused : ∀ a ∈ answers, ¬ a.Refused
  missed : .unspecified ∈ answers ∨ ∃ v, url.host = .ipv6 v ∧ (IpAddress.v6 v).NonPublic

/-- **When the guard is sound**: exactly for the URLs and answers that do not escape. -/
theorem sound_iff (node : Node) (rawUrl : String) : Sound node rawUrl ↔ ∀ url answers, ¬ Escapes node rawUrl url answers := by
  constructor
  · intro h url answers he
    have hpass : assertPublicHttpUrl node rawUrl = .ok (url, answers) := by
      refine assert_eq_ok.2 ⟨he.parsed, he.http, he.notLocalhost, ?_, .inl ⟨he.notAddress, he.answered, he.notRefused⟩⟩
      rw [he.notAddress]
      rintro (⟨h4, -⟩ | ⟨h6, -⟩)
      · cases h4
      · cases h6
    rcases he.missed with hmem | ⟨v, hhost, hv⟩
    · exact h url answers hpass _ (.inl hmem) IpAddress.unspecified_nonPublic
    · exact h url answers hpass (.v6 v) (.inr (by rw [hhost]; rfl)) hv
  · intro h url seen hok a ha hbad
    obtain ⟨hparsed, hhttp, hlocal, hdirect, hlookup⟩ := assert_eq_ok.1 hok
    rcases hlookup with ⟨hname, hanswers, hpass⟩ | ⟨hname, rfl⟩
    · refine h url seen ⟨hparsed, hhttp, hlocal, hname, hanswers, hpass, ?_⟩
      rcases ha with hmem | hliteral
      · rcases IpAddress.nonPublic_cases hbad with rfl | hrefused
        · exact .inl hmem
        · exact absurd hrefused (hpass a hmem)
      · cases hhost : url.host with
        | domain name =>
            rw [hhost] at hliteral
            cases hliteral
        | ipv4 n =>
            rw [hhost, Host.hostname, isIP_ntop4 n.isLt] at hname
            cases hname
        | ipv6 v =>
            rw [hhost] at hliteral
            obtain rfl := Option.some.inj hliteral
            exact .inr ⟨v, rfl, hbad⟩
    · rcases ha with hmem | hliteral
      · cases hmem
      · cases hhost : url.host with
        | domain name =>
            rw [hhost] at hliteral
            cases hliteral
        | ipv4 n =>
            rw [hhost] at hliteral hdirect
            obtain rfl := Option.some.inj hliteral
            exact hdirect (.inl ⟨isIP_ntop4 n.isLt, (isPrivateIPv4_ntop4 n.isLt).2 hbad⟩)
        | ipv6 v =>
            rw [hhost] at hname
            exact hname (isIP_bracket _)

/-- A name that resolves to the unspecified address. -/
def anyNode : Node where
  parseUrl _ := some ⟨"http:", .domain "any.example"⟩
  lookup _ := .ok [.unspecified]

theorem unspecified_passes : ¬ Sound anyNode "http://any.example/" := by
  intro h
  have hrefused : ¬ IpAddress.unspecified.Refused := by
    rw [← IpAddress.refused_iff]
    decide +kernel
  have hpass : assertPublicHttpUrl anyNode "http://any.example/" =
      .ok (⟨"http:", .domain "any.example"⟩, [.unspecified]) := by
    refine assert_eq_ok.2 ⟨rfl, .inl rfl, by decide, by decide +kernel, .inl ⟨by decide +kernel, rfl, ?_⟩⟩
    exact fun a ha => List.mem_singleton.1 ha ▸ hrefused
  exact h _ _ hpass .unspecified (.inl List.mem_cons_self) IpAddress.unspecified_nonPublic

end Obliance.Net.SsrfGuard
