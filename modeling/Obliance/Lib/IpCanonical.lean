import Obliance.Lib.IpText

/-!
# Canonical texts of internet addresses

Of the spellings of an address one is canonical: four decimal octets, or eight groups in small hexadecimal
digits without leading zeros, the first longest run of zero groups left out, and the last two groups as a dotted
quad behind six zero groups or behind the mapped prefix.

* `ntop4`, `ntop6` : the canonical texts (`inet_ntop`), `text6` the one without a quad;
* `dottedQuad_ntop4`, `value6_ntop6` : they denote their address;
* `lower_ntop6` : they have no capitals;
* `ntop6_head` : an address whose first group is not zero begins with that group.
-/

namespace IpText
open Numerals

/-! ## The texts -/

def decimal (n : ℕ) : List Char := (toString n).toList

def ntop4 (n : ℕ) : List Char :=
  decimal (n / 2 ^ 24 % 256) ++ '.' :: (decimal (n / 2 ^ 16 % 256) ++ '.' ::
    (decimal (n / 2 ^ 8 % 256) ++ '.' :: decimal (n % 256)))

/-- `%x` of a group. -/
def hexText (g : ℕ) : List Char :=
  if g < 16 then [Nat.digitChar g]
  else if g < 256 then [Nat.digitChar (g / 16), Nat.digitChar (g % 16)]
  else if g < 4096 then [Nat.digitChar (g / 256), Nat.digitChar (g / 16 % 16), Nat.digitChar (g % 16)]
  else [Nat.digitChar (g / 4096), Nat.digitChar (g / 256 % 16), Nat.digitChar (g / 16 % 16), Nat.digitChar (g % 16)]

def groupsOf (v : ℕ) : List ℕ :=
  [v / 2 ^ 112 % 65536, v / 2 ^ 96 % 65536, v / 2 ^ 80 % 65536, v / 2 ^ 64 % 65536, v / 2 ^ 48 % 65536,
    v / 2 ^ 32 % 65536, v / 2 ^ 16 % 65536, v % 65536]

/-- The base and the length of the first longest run of at least two zero groups. -/
def zeroRun (gs : List ℕ) : Option (ℕ × ℕ) :=
  [8, 7, 6, 5, 4, 3, 2].findSome? fun len =>
    ((List.range (9 - len)).find? fun base => decide ((gs.drop base).take len = List.replicate len 0)).map (·, len)

def joined (gs : List ℕ) : List Char := [':'].intercalate (gs.map hexText)

/-- The groups, the zero run left out. -/
def text6 (gs : List ℕ) : List Char :=
  match zeroRun gs with
  | none => joined gs
  | some (base, len) => joined (gs.take base) ++ ':' :: ':' :: joined (gs.drop (base + len))

def ntop6 (v : ℕ) : List Char :=
  if zeroRun (groupsOf v) = some (0, 6) then ':' :: ':' :: ntop4 (v % 2 ^ 32)
  else if zeroRun (groupsOf v) = some (0, 5) ∧ v / 2 ^ 32 % 65536 = 65535 then mappedPrefix ++ ntop4 (v % 2 ^ 32)
  else text6 (groupsOf v)

example : ntop6 1 = "::1".toList := by decide +kernel
example : ntop6 (0xfe80 * 2 ^ 112 + 0xabcd) = "fe80::abcd".toList := by decide +kernel
example : ntop6 (0xffff * 2 ^ 32 + 0x7f000001) = "::ffff:127.0.0.1".toList := by decide +kernel

/-! ## Octets -/

section Quads
variable {n v : ℕ}

theorem octet_of_lt : ∀ n < 256, octet (decimal n) = some n := by decide +kernel

theorem dot_notMem_decimal (n : ℕ) : '.' ∉ decimal n := notMem_decimal rfl n

/-- The canonical text of an IPv4 address denotes it. -/
theorem dottedQuad_ntop4 (h : n < 2 ^ 32) : dottedQuad (ntop4 n) = some n := by
  refine dottedQuad_iff.2 ⟨_, _, _, _, n / 2 ^ 24 % 256, n / 2 ^ 16 % 256, n / 2 ^ 8 % 256, n % 256, rfl, ?_, ?_, ?_, ?_, ?_⟩
  · exact octet_of_lt _ (Nat.mod_lt _ (by decide))
  · exact octet_of_lt _ (Nat.mod_lt _ (by decide))
  · exact octet_of_lt _ (Nat.mod_lt _ (by decide))
  · exact octet_of_lt _ (Nat.mod_lt _ (by decide))
  · omega

end Quads

/-! ## Groups -/

section Groups
variable {g : ℕ} {gs : List ℕ}

theorem digitOf_digitChar : ∀ d < 16, digitOf 16 (Nat.digitChar d) = some d := by decide

/-- A character of a hexadecimal text. -/
theorem mem_hexText {c : Char} (h : c ∈ hexText g) (hg : g < 65536) : ∃ d < 16, c = Nat.digitChar d := by
  unfold hexText at h
  split_ifs at h
  all_goals
    simp only [List.mem_cons, List.not_mem_nil, or_false] at h
  · exact ⟨g, by omega, h⟩
  · rcases h with h | h
    · exact ⟨_, by omega, h⟩
    · exact ⟨_, by omega, h⟩
  · rcases h with h | h | h
    · exact ⟨_, by omega, h⟩
    · exact ⟨_, by omega, h⟩
    · exact ⟨_, by omega, h⟩
  · rcases h with h | h | h | h
    · exact ⟨_, by omega, h⟩
    · exact ⟨_, by omega, h⟩
    · exact ⟨_, by omega, h⟩
    · exact ⟨_, by omega, h⟩

theorem hexText_ne_nil (g : ℕ) : hexText g ≠ [] := by
  unfold hexText
  split_ifs <;> exact List.cons_ne_nil _ _

theorem colon_notMem_hexText (hg : g < 65536) : ':' ∉ hexText g := by
  intro h
  obtain ⟨d, hd, hc⟩ := mem_hexText h hg
  have hread := digitOf_digitChar d hd
  rw [← hc] at hread
  cases hread

theorem hexGroup_hexText (hg : g < 65536) : hexGroup (hexText g) = some g := by
  have hlength : (hexText g).length ≤ 4 := by
    unfold hexText
    split_ifs <;> simp
  rw [hexGroup, if_pos ⟨hexText_ne_nil g, hlength⟩]
  unfold hexText
  split_ifs
  · rw [readDigits, digitOf_digitChar _ (by omega)]
    simp [readDigits]
  · simp only [readDigits, digitOf_digitChar (g / 16) (by omega), digitOf_digitChar (g % 16) (by omega),
      Option.bind_some, Option.some.injEq]
    omega
  · simp only [readDigits, digitOf_digitChar (g / 256) (by omega), digitOf_digitChar (g / 16 % 16) (by omega),
      digitOf_digitChar (g % 16) (by omega), Option.bind_some, Option.some.injEq]
    omega
  · simp only [readDigits, digitOf_digitChar (g / 4096) (by omega), digitOf_digitChar (g / 256 % 16) (by omega),
      digitOf_digitChar (g / 16 % 16) (by omega), digitOf_digitChar (g % 16) (by omega), Option.bind_some,
      Option.some.injEq]
    omega

theorem mapM_hexGroup (hgs : ∀ g ∈ gs, g < 65536) : (gs.map hexText).mapM hexGroup = some gs := by
  induction gs with
  | nil => rfl
  | cons g gs ih =>
      rw [List.map_cons, List.mapM_cons, hexGroup_hexText (hgs g List.mem_cons_self),
        ih fun g' hg' => hgs g' (List.mem_cons_of_mem _ hg')]
      rfl

theorem groups_hexText (hgs : ∀ g ∈ gs, g < 65536) : groups (gs.map hexText) = some gs := by
  induction gs with
  | nil => rfl
  | cons g gs ih =>
      have hg := hexGroup_hexText (hgs g List.mem_cons_self)
      cases gs with
      | nil => rw [List.map_cons, List.map_nil, groups, hg]
      | cons g' gs =>
          rw [List.map_cons, List.map_cons, groups, hg, ← List.map_cons,
            ih fun g' hg' => hgs g' (List.mem_cons_of_mem _ hg')]
          · rfl
          · simp

theorem joined_singleton (g : ℕ) : joined [g] = hexText g := by simp [joined, List.intercalate]

theorem joined_cons_cons (g g' : ℕ) (gs : List ℕ) : joined (g :: g' :: gs) = hexText g ++ ':' :: joined (g' :: gs) := by
  simp [joined, List.intercalate]

theorem parts_joined (hgs : ∀ g ∈ gs, g < 65536) : parts (joined gs) = gs.map hexText := by
  cases gs with
  | nil => rfl
  | cons g gs =>
      have hne : joined (g :: gs) ≠ [] := by
        cases gs with
        | nil => exact fun h => hexText_ne_nil g ((joined_singleton g).symm.trans h)
        | cons g' gs =>
            rw [joined_cons_cons]
            simp
      rw [parts, if_neg hne, joined, List.splitOn_intercalate]
      · intro t ht
        obtain ⟨g', hg', rfl⟩ := List.mem_map.1 ht
        exact colon_notMem_hexText (hgs g' hg')
      · simp

/-- The text of groups begins with a digit. -/
theorem joined_head (hg : g < 65536) (gs : List ℕ) : ∃ c cs, joined (g :: gs) = c :: cs ∧ c ≠ ':' := by
  obtain ⟨c, cs, hcs⟩ := List.exists_cons_of_ne_nil (hexText_ne_nil g)
  have hc : c ≠ ':' := by
    rintro rfl
    exact colon_notMem_hexText hg (hcs ▸ List.mem_cons_self)
  cases gs with
  | nil => exact ⟨c, cs, by rw [joined_singleton, hcs], hc⟩
  | cons g' gs => exact ⟨c, _, by rw [joined_cons_cons, hcs]; rfl, hc⟩

theorem splitDouble_cons {c : Char} (hc : c ≠ ':') (cs : List Char) :
    splitDouble (c :: cs) = (splitDouble cs).map fun lr => (c :: lr.1, lr.2) := by
  rw [splitDouble]
  rintro rest rfl
  exact fun _ => hc rfl

theorem splitDouble_append {t : List Char} (ht : ':' ∉ t) (rest : List Char) :
    splitDouble (t ++ rest) = (splitDouble rest).map fun lr => (t ++ lr.1, lr.2) := by
  induction t with
  | nil => exact Option.map_id'.symm
  | cons c t ih =>
      rw [List.cons_append, splitDouble_cons (List.ne_of_not_mem_cons ht).symm, ih (List.not_mem_of_not_mem_cons ht),
        Option.map_map]
      rfl

/-- No double colon lies within the text of groups. -/
theorem splitDouble_joined (hgs : ∀ g ∈ gs, g < 65536) (rest : List Char) :
    splitDouble (joined gs ++ rest) = (splitDouble rest).map fun lr => (joined gs ++ lr.1, lr.2) := by
  induction gs with
  | nil => exact Option.map_id'.symm
  | cons g gs ih =>
      have hcolon := colon_notMem_hexText (hgs g List.mem_cons_self)
      cases gs with
      | nil => rw [joined_singleton, splitDouble_append hcolon]
      | cons g' gs =>
          have htail := ih fun g' hg' => hgs g' (List.mem_cons_of_mem _ hg')
          obtain ⟨c, cs, hcs, hc⟩ := joined_head (hgs g' (List.mem_cons_of_mem _ List.mem_cons_self)) gs
          have hsep : splitDouble (':' :: (joined (g' :: gs) ++ rest)) =
              (splitDouble (joined (g' :: gs) ++ rest)).map fun lr => (':' :: lr.1, lr.2) := by
            rw [hcs, List.cons_append, splitDouble]
            intro rest' h
            exact fun h' => hc (List.cons.inj h').1
          rw [joined_cons_cons, List.append_assoc, splitDouble_append hcolon, List.cons_append, hsep, htail,
            Option.map_map, Option.map_map]
          congr 1
          funext lr
          simp

end Groups

/-! ## The canonical text is read as its address -/

section Addresses
variable {v : ℕ} {gs : List ℕ}

theorem groupsOf_lt (v : ℕ) : ∀ g ∈ groupsOf v, g < 65536 := by
  simp only [groupsOf, List.mem_cons, List.not_mem_nil, or_false]
  omega

theorem ofGroups_groupsOf (h : v < 2 ^ 128) : ofGroups (groupsOf v) = v := by
  simp only [ofGroups, groupsOf, List.foldl_cons, List.foldl_nil]
  omega

/-- A run is made of zero groups, and lies within the groups. -/
theorem zeroRun_spec {base len : ℕ} (h : zeroRun gs = some (base, len)) :
    2 ≤ len ∧ base + len ≤ 8 ∧ gs = gs.take base ++ List.replicate len 0 ++ gs.drop (base + len) := by
  obtain ⟨len', hlen, h⟩ := List.exists_of_findSome?_eq_some h
  obtain ⟨base', hbase, h⟩ := Option.map_eq_some_iff.1 h
  obtain ⟨rfl, rfl⟩ := Prod.mk.inj h
  have hrange := List.mem_range.1 (List.mem_of_find?_eq_some hbase)
  have hzero := List.find?_some hbase
  rw [decide_eq_true_eq] at hzero
  have hlens : ∀ l ∈ [8, 7, 6, 5, 4, 3, 2], 2 ≤ l ∧ l ≤ 8 := by decide
  have htwo := hlens len' hlen
  refine ⟨htwo.1, by omega, ?_⟩
  rw [← hzero, ← List.drop_drop, List.append_assoc, List.take_append_drop, List.take_append_drop]

/-- Eight groups around a double colon. -/
theorem value6_double {pre post : List ℕ} {len : ℕ} {tail : List Char} (hlen : 1 ≤ len)
    (hpre : ∀ g ∈ pre, g < 65536) (hpost : groups (parts tail) = some post) (hlength : pre.length + len + post.length = 8) :
    value6 (joined pre ++ ':' :: ':' :: tail) = some (ofGroups (pre ++ List.replicate len 0 ++ post)) := by
  have hsplit : splitDouble (joined pre ++ ':' :: ':' :: tail) = some (joined pre, tail) := by
    rw [splitDouble_joined hpre, splitDouble, Option.map_some, List.append_nil]
  rw [value6, hsplit]
  dsimp only
  rw [parts_joined hpre, mapM_hexGroup hpre, hpost]
  show (if pre.length + post.length ≤ 7 then _ else none) = _
  rw [if_pos (by omega), show 8 - (pre.length + post.length) = len by omega]

theorem parts_quad {q : List Char} {n : ℕ} (hq : dottedQuad q = some n) : parts q = q.splitOn ':' :=
  if_neg (List.ne_nil_of_mem (dot_mem hq))

theorem value6_text6 (hgs : ∀ g ∈ gs, g < 65536) (hlength : gs.length = 8) : value6 (text6 gs) = some (ofGroups gs) := by
  unfold text6
  split
  · have hsplit : splitDouble (joined gs) = none := by
      have h := splitDouble_joined hgs []
      rwa [List.append_nil] at h
    rw [value6, hsplit]
    dsimp only
    rw [parts_joined hgs, groups_hexText hgs]
    exact if_pos hlength
  · rename_i base len hrun
    obtain ⟨htwo, hle, hgroups⟩ := zeroRun_spec hrun
    have hpost : ∀ g ∈ gs.drop (base + len), g < 65536 := fun g hg => hgs g (List.mem_of_mem_drop hg)
    have htail : groups (parts (joined (gs.drop (base + len)))) = some (gs.drop (base + len)) := by
      rw [parts_joined hpost, groups_hexText hpost]
    have hcount : (gs.take base).length + len + (gs.drop (base + len)).length = 8 := by
      rw [List.length_take, List.length_drop]
      omega
    rw [value6_double (by omega) (fun g hg => hgs g (List.mem_of_mem_take hg)) htail hcount, ← hgroups]

/-- **The canonical text of an IPv6 address denotes it.** -/
theorem value6_ntop6 (h : v < 2 ^ 128) : value6 (ntop6 v) = some v := by
  have hquad := dottedQuad_ntop4 (Nat.mod_lt v (show 0 < 2 ^ 32 by decide))
  unfold ntop6
  split_ifs with hsix hfive
  · obtain ⟨-, -, hgroups⟩ := zeroRun_spec hsix
    have hparts := (congrArg groups (parts_quad hquad)).trans (groups_quad hquad)
    have hvalue := value6_double (show 1 ≤ 6 by decide) (List.forall_mem_nil _) hparts rfl
    refine hvalue.trans (congrArg some ?_)
    rw [← ofGroups_groupsOf h, hgroups]
    simp [ofGroups, groupsOf]
    omega
  · obtain ⟨-, -, hgroups⟩ := zeroRun_spec hfive.1
    rw [value6_mapped hquad, mapped]
    simp [groupsOf, List.replicate] at hgroups
    have := hfive.2
    congr 1
    dsimp only
    omega
  · exact (value6_text6 (groupsOf_lt v) rfl).trans (congrArg some (ofGroups_groupsOf h))

/-- The canonical text of a mapped address. -/
theorem ntop6_mapped (h : v / 2 ^ 32 = 65535) : ntop6 v = mappedPrefix ++ ntop4 (v % 2 ^ 32) := by
  have hgroups : groupsOf v = [0, 0, 0, 0, 0, 65535, v / 2 ^ 16 % 65536, v % 65536] := by
    rw [groupsOf]
    congr 1
    · omega
    congr 1
    · omega
    congr 1
    · omega
    congr 1
    · omega
    congr 1
    · omega
    congr 1
    omega
  have hrun : zeroRun (groupsOf v) = some (0, 5) := hgroups ▸ rfl
  rw [ntop6, if_neg (by rw [hrun]; decide), if_pos ⟨hrun, by rw [h]⟩]

/-- A canonical text with the mapped prefix before a quad is the one of a mapped address. -/
theorem mapped_of_ntop6 {q : List Char} (h : v < 2 ^ 128) (hdot : '.' ∈ q) (hcolon : ':' ∉ q)
    (heq : ntop6 v = mappedPrefix ++ q) : v / 2 ^ 32 = 65535 ∧ q = ntop4 (v % 2 ^ 32) := by
  have hvalue := value6_ntop6 h
  rw [heq] at hvalue
  cases hq : dottedQuad q with
  | none =>
      rw [value6_prefixed, List.splitOn_eq_singleton hcolon, groups, hexGroup_of_dot hdot, hq] at hvalue
      cases hvalue
  | some n =>
      have hlt := dottedQuad_lt hq
      have hsum : 65535 * 2 ^ 32 + n = v := Option.some.inj ((value6_mapped hq).symm.trans hvalue)
      obtain ⟨hhigh, hlow⟩ : v / 2 ^ 32 = 65535 ∧ v % 2 ^ 32 = n := by omega
      exact ⟨hhigh, dottedQuad_inj hq (hlow ▸ dottedQuad_ntop4 (hlow ▸ hlt))⟩

/-- The text begins with the first group, or with a run of zeros. -/
theorem ntop6_head (h : v < 2 ^ 128) :
    ∃ rest, ntop6 v = hexText (v / 2 ^ 112) ++ ':' :: rest ∨ v / 2 ^ 112 = 0 ∧ ntop6 v = ':' :: rest := by
  have hfirst : v / 2 ^ 112 % 65536 = v / 2 ^ 112 := Nat.mod_eq_of_lt (by omega)
  have hzero {len : ℕ} (hrun : zeroRun (groupsOf v) = some (0, len)) : v / 2 ^ 112 = 0 := by
    obtain ⟨htwo, -, hgroups⟩ := zeroRun_spec hrun
    obtain ⟨len', rfl⟩ : ∃ len', len = len' + 1 := ⟨len - 1, by omega⟩
    rw [← hfirst]
    exact (List.cons.inj hgroups).1
  unfold ntop6
  split_ifs with hsix hfive
  · exact ⟨_, .inr ⟨hzero hsix, rfl⟩⟩
  · exact ⟨_, .inr ⟨hzero hfive.1, rfl⟩⟩
  · unfold text6
    split
    · exact ⟨_, .inl (by rw [groupsOf, joined_cons_cons, hfirst])⟩
    · rename_i base len hrun
      cases base with
      | zero => exact ⟨_, .inr ⟨hzero hrun, rfl⟩⟩
      | succ base =>
          rw [groupsOf, List.take_succ_cons, hfirst]
          cases htake : List.take base _ with
          | nil => exact ⟨_, .inl (by rw [joined_singleton])⟩
          | cons g gs => exact ⟨_, .inl (by rw [joined_cons_cons, List.append_assoc]; rfl)⟩

/-- A text denotes no address when it begins with a character that none begins with. -/
theorem value6_eq_none {c : Char} (hhex : digitOf 16 c = none) (hcolon : c ≠ ':') (hquad : isQuadChar c = false)
    (cs : List Char) : value6 (c :: cs) = none := by
  have hgroup (p : List Char) : hexGroup (c :: p) = none := by
    rw [hexGroup, readDigits, hhex]
    exact ite_self _
  have hno (p : List Char) : dottedQuad (c :: p) = none := by
    cases hq : dottedQuad (c :: p) with
    | none => rfl
    | some n =>
        have hc := dottedQuad_chars hq c List.mem_cons_self
        rw [hquad] at hc
        cases hc
  have hparts (cs : List Char) : ∃ p ps, parts (c :: cs) = (c :: p) :: ps := by
    obtain ⟨p, ps, hps⟩ := List.exists_cons_of_ne_nil (List.splitOn_ne_nil ':' cs)
    refine ⟨p, ps, ?_⟩
    rw [parts, if_neg (List.cons_ne_nil _ _), List.splitOn_cons_eq_if_modifyHead, if_neg (by simpa using hcolon), hps]
    rfl
  rw [value6, splitDouble_cons hcolon]
  cases splitDouble cs with
  | none =>
      obtain ⟨p, ps, hps⟩ := hparts cs
      dsimp only [Option.map_none]
      rw [hps]
      cases ps with
      | nil => rw [groups, hgroup, hno]; rfl
      | cons p' ps =>
          rw [groups, hgroup]
          · rfl
          · simp
  | some lr =>
      obtain ⟨p, ps, hps⟩ := hparts lr.1
      dsimp only [Option.map_some]
      rw [hps, List.mapM_cons, hgroup]
      rfl

/-! ## No capitals -/

/-- The characters of a canonical text. -/
def alphabet : List Char :=
  ['0', '1', '2', '3', '4', '5', '6', '7', '8', '9', 'a', 'b', 'c', 'd', 'e', 'f', ':', '.']

theorem mem_joined {c : Char} (h : c ∈ joined gs) : c = ':' ∨ ∃ g ∈ gs, c ∈ hexText g := by
  induction gs with
  | nil => cases h
  | cons g gs ih =>
      cases gs with
      | nil =>
          rw [joined_singleton] at h
          exact .inr ⟨g, List.mem_cons_self, h⟩
      | cons g' gs =>
          rw [joined_cons_cons, List.mem_append, List.mem_cons] at h
          rcases h with h | h | h
          · exact .inr ⟨g, List.mem_cons_self, h⟩
          · exact .inl h
          · exact (ih h).imp id fun ⟨g'', hg'', hc⟩ => ⟨g'', List.mem_cons_of_mem _ hg'', hc⟩

theorem alphabet_of_joined {c : Char} (hgs : ∀ g ∈ gs, g < 65536) (h : c ∈ joined gs) : c ∈ alphabet := by
  rcases mem_joined h with rfl | ⟨g, hg, hc⟩
  · decide
  · obtain ⟨d, hd, rfl⟩ := mem_hexText hc (hgs g hg)
    have hall : ∀ d < 16, Nat.digitChar d ∈ alphabet := by decide
    exact hall d hd

theorem alphabet_of_quad {c : Char} {n : ℕ} (hn : n < 2 ^ 32) (h : c ∈ ntop4 n) : c ∈ alphabet := by
  have hsub : ∀ c ∈ ['0', '1', '2', '3', '4', '5', '6', '7', '8', '9', '.'], c ∈ alphabet :=
    List.all_iff_forall_prop.1 (by decide)
  exact hsub c (isQuadChar_iff.1 (dottedQuad_chars (dottedQuad_ntop4 hn) c h))

theorem alphabet_of_ntop6 {c : Char} (h : c ∈ ntop6 v) : c ∈ alphabet := by
  have hlow : v % 2 ^ 32 < 2 ^ 32 := Nat.mod_lt _ (by decide)
  have hcolon : ':' ∈ alphabet := by decide
  unfold ntop6 at h
  split_ifs at h
  · rcases List.mem_cons.1 h with rfl | h
    · exact hcolon
    · rcases List.mem_cons.1 h with rfl | h
      · exact hcolon
      · exact alphabet_of_quad hlow h
  · rcases List.mem_append.1 h with h | h
    · have hprefix : ∀ c ∈ mappedPrefix, c ∈ alphabet := List.all_iff_forall_prop.1 (by decide)
      exact hprefix c h
    · exact alphabet_of_quad hlow h
  · unfold text6 at h
    split at h
    · exact alphabet_of_joined (groupsOf_lt v) h
    · rcases List.mem_append.1 h with h | h
      · exact alphabet_of_joined (fun g hg => groupsOf_lt v g (List.mem_of_mem_take hg)) h
      · rcases List.mem_cons.1 h with rfl | h
        · exact hcolon
        · rcases List.mem_cons.1 h with rfl | h
          · exact hcolon
          · exact alphabet_of_joined (fun g hg => groupsOf_lt v g (List.mem_of_mem_drop hg)) h

theorem lower_ntop6 (v : ℕ) : lower (ntop6 v) = ntop6 v := by
  have hsmall : ∀ c ∈ alphabet, c.toLower = c := List.all_iff_forall_prop.1 (by decide)
  exact (List.map_congr_left fun c hc => hsmall c (alphabet_of_ntop6 hc)).trans (List.map_id _)

end Addresses

end IpText
