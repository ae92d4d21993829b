import Mathlib.Data.Char
import Obliance.Js.Number

/-!
# Texts bound to an `integer` column (PostgreSQL 16)

* `int4OfText` : the integer input syntax, with blanks around it, a sign, a base prefix and underscores
  between digits;
* `number_eq_int4` : where `Number()` reads a number too, it is the same.
-/

namespace Obliance.Db
open Numerals Obliance.Js

def int4Max : ℤ := 2147483647

/-- `isspace` -/
def isPgSpace (c : Char) : Bool := c ∈ [' ', '\t', '\n', '\x0b', '\x0c', '\r']

/-- The digits behind a sign, and what follows them: at least one character of a digit run, no underscore
first in a decimal one. -/
def int4Magnitude : List Char → Option (ℕ × List Char)
  | '0' :: c :: cs =>
      match radixOf c with
      | some base => (readSeparated base 0 cs).filter fun r => r.2.length < cs.length
      | none => readSeparated 10 0 ('0' :: c :: cs)
  | c :: cs => if isDigit c then readSeparated 10 0 (c :: cs) else none
  | [] => none

/-- `none` is a syntax error, or a value out of range. -/
def int4OfText (s : String) : Option ℤ :=
  let text := splitSign (s.toList.dropWhile isPgSpace)
  (int4Magnitude text.2).bind fun (n, rest) =>
    if rest.all isPgSpace ∧ -int4Max - 1 ≤ signed text.1 n ∧ signed text.1 n ≤ int4Max then
      some (signed text.1 n)
    else none

theorem int4OfText_le {s : String} {v : ℤ} (h : int4OfText s = some v) : v ≤ int4Max := by
  rw [int4OfText] at h
  obtain ⟨⟨n, rest⟩, -, h⟩ := Option.bind_eq_some_iff.1 h
  dsimp only at h
  split_ifs at h with hrange
  rw [← Option.some.inj h]
  exact hrange.2.2

/-! ## What both grammars read -/

theorem isJsSpace_of_isPgSpace {c : Char} (h : isPgSpace c = true) : isJsSpace c = true := by
  rw [isPgSpace, decide_eq_true_eq] at h
  rw [isJsSpace, Bool.or_eq_true, decide_eq_true_eq]
  refine .inl ?_
  simp only [List.mem_cons, List.not_mem_nil, or_false] at h ⊢
  tauto

theorem digitOf_mono {base : ℕ} (hbase : base ≤ 16) {c : Char} (h : (digitOf base c).isSome) :
    (digitOf 16 c).isSome := by
  unfold digitOf at h ⊢
  dsimp only at h ⊢
  split_ifs at h ⊢ <;> simp_all
  all_goals omega

/-- No character of a numeral is a blank of either language. -/
theorem isJsSpace_of_isDigit16 {c : Char} (h : (digitOf 16 c).isSome) : isJsSpace c = false := by
  by_contra hspace
  rw [Bool.not_eq_false, isJsSpace, Bool.or_eq_true, decide_eq_true_eq] at hspace
  rcases hspace with hlist | hrange
  · simp only [List.mem_cons, List.not_mem_nil, or_false] at hlist
    rcases hlist with rfl | rfl | rfl | rfl | rfl | rfl | rfl | rfl | rfl | rfl | rfl | rfl | rfl | rfl <;>
      exact absurd h (by decide)
  · have hlow : '\u2000' ≤ c := of_decide_eq_true ((Bool.and_eq_true _ _).mp hrange).1
    have h9 : ¬ c ≤ '9' := fun hle => absurd (le_trans hlow hle) (by decide)
    have hf : ¬ c ≤ 'f' := fun hle => absurd (le_trans hlow hle) (by decide)
    have hF : ¬ c ≤ 'F' := fun hle => absurd (le_trans hlow hle) (by decide)
    simp [digitOf, h9, hf, hF] at h

theorem radixOf_cases {c : Char} {base : ℕ} (h : radixOf c = some base) :
    base ≤ 16 ∧ isJsSpace c = false ∧ isDigit c = false ∧ c ≠ '.' ∧ c ≠ 'e' ∧ c ≠ 'E' := by
  unfold radixOf at h
  split at h <;> cases h <;> decide

/-- What the digits behind a sign look like. -/
inductive Magnitude (n : ℕ) : List Char → Prop
  | radix {c : Char} {base : ℕ} {ds : List Char} (hbase : radixOf c = some base) (hne : ds ≠ [])
      (hds : ∀ d ∈ ds, d = '_' ∨ (digitOf base d).isSome)
      (hread : '_' ∈ ds ∨ readDigits base 0 ds = some n) : Magnitude n ('0' :: c :: ds)
  | decimal {c : Char} {ds : List Char} (hc : isDigit c = true)
      (hds : ∀ d ∈ ds, d = '_' ∨ isDigit d = true)
      (hread : '_' ∈ ds ∨ readDigits 10 0 (c :: ds) = some n) : Magnitude n (c :: ds)

theorem magnitude_of_separated {c : Char} {cs rest : List Char} {n : ℕ} (hc : isDigit c = true)
    (h : readSeparated 10 0 (c :: cs) = some (n, rest)) :
    ∃ body, c :: cs = body ++ rest ∧ Magnitude n body := by
  obtain ⟨body, hbody, hall, hread⟩ := readSeparated_spec h
  cases body with
  | nil =>
      -- a run that begins with a digit takes at least that digit
      exfalso
      obtain ⟨d, hd⟩ := Option.isSome_iff_exists.1 hc
      rw [readSeparated, hd] at h
      obtain ⟨body', hbody', -⟩ := readSeparated_spec h
      have hlength := congrArg List.length (hbody.symm.trans rfl : [] ++ rest = c :: cs)
      rw [hbody'] at hlength
      simp at hlength
      omega
  | cons c' body =>
      obtain ⟨rfl, rfl⟩ := List.cons.inj hbody
      refine ⟨c :: body, rfl, .decimal hc (fun d hd => hall d (.tail _ hd)) (hread.imp_left fun hmem => ?_)⟩
      rcases List.mem_cons.1 hmem with heq | hmem
      · rw [← heq] at hc
        exact absurd hc (by decide)
      · exact hmem

theorem magnitude_spec {cs rest : List Char} {n : ℕ} (h : int4Magnitude cs = some (n, rest)) :
    ∃ body, cs = body ++ rest ∧ Magnitude n body := by
  unfold int4Magnitude at h
  split at h
  · rename_i c cs
    cases hradix : radixOf c with
    | none =>
        rw [hradix] at h
        exact magnitude_of_separated (by decide) h
    | some base =>
        rw [hradix] at h
        obtain ⟨hread, hlt⟩ := Option.filter_eq_some_iff.1 h
        obtain ⟨body, rfl, hall, hdigits⟩ := readSeparated_spec hread
        refine ⟨'0' :: c :: body, rfl, .radix hradix (fun hnil => ?_) hall hdigits⟩
        rw [hnil] at hlt
        simp at hlt
  · rename_i c cs _
    split_ifs at h with hc
    exact magnitude_of_separated hc h
  · cases h

theorem Magnitude.notSpace {n : ℕ} {body : List Char} (h : Magnitude n body) :
    ∀ c ∈ body, isJsSpace c = false := by
  have hdigit : ∀ {base : ℕ} {d : Char}, base ≤ 16 → d = '_' ∨ (digitOf base d).isSome = true →
      isJsSpace d = false := by
    rintro base d hbase (rfl | hd)
    · decide
    · exact isJsSpace_of_isDigit16 (digitOf_mono hbase hd)
  cases h with
  | radix hbase hne hds hread =>
      obtain ⟨hle, hspace, -⟩ := radixOf_cases hbase
      intro c hc
      rcases List.mem_cons.1 hc with rfl | hc
      · decide
      · rcases List.mem_cons.1 hc with rfl | hc
        · exact hspace
        · exact hdigit hle (hds c hc)
  | decimal hc hds hread =>
      intro d hd
      rcases List.mem_cons.1 hd with rfl | hd
      · exact hdigit (by decide) (.inr hc)
      · exact hdigit (by decide) (hds d hd)

/-- A decimal literal of the language has no underscore and no base prefix. -/
theorem Magnitude.readDecimal {n : ℕ} {body : List Char} (h : Magnitude n body) {q : ℚ}
    (hq : readDecimal body = some q) : q = n := by
  cases h with
  | @radix c base ds hbase hne hds hread =>
      obtain ⟨-, -, hdigit, hpoint, he, hE⟩ := radixOf_cases hbase
      have hnone : Js.readDecimal (['0'] ++ c :: ds) = none := readDecimal_stops
        (List.forall_mem_singleton.mpr (by decide)) hdigit hpoint he hE
      rw [List.singleton_append, hq] at hnone
      cases hnone
  | @decimal c ds hc hds hread =>
      rcases hread with hmem | hread
      · -- the digits before the first underscore
        have hsplit : c :: ds = (c :: ds).takeWhile isDigit ++ '_' :: ((c :: ds).dropWhile isDigit).tail := by
          have hall : ∀ d ∈ c :: ds, d = '_' ∨ isDigit d = true := by
            intro d hd
            rcases List.mem_cons.1 hd with rfl | hd
            · exact .inr hc
            · exact hds d hd
          have hne : (c :: ds).dropWhile isDigit ≠ [] := fun hnil =>
            absurd (List.dropWhile_eq_nil_iff.1 hnil '_' (.tail _ hmem)) (by decide)
          have hhead : ((c :: ds).dropWhile isDigit).head hne = '_' := by
            refine (hall _ ((List.dropWhile_sublist _).mem (List.head_mem hne))).resolve_right ?_
            rw [Bool.not_eq_true]
            exact List.head_dropWhile_not isDigit hne
          conv_lhs => rw [← List.takeWhile_append_dropWhile (p := isDigit) (l := c :: ds)]
          rw [← hhead, List.cons_head_tail]
        have hnone : Js.readDecimal ((c :: ds).takeWhile isDigit ++ '_' :: ((c :: ds).dropWhile isDigit).tail) = none :=
          readDecimal_stops (fun d hd => List.mem_takeWhile_imp hd) (by decide) (by decide) (by decide) (by decide)
        rw [← hsplit, hq] at hnone
        cases hnone
      · exact readDecimal_digits (by simp) hread hq

theorem Magnitude.cons {n : ℕ} {body : List Char} (h : Magnitude n body) :
    ∃ c cs, body = c :: cs ∧ isDigit c = true := by
  cases h with
  | radix hbase hne hds hread => exact ⟨_, _, rfl, by decide⟩
  | decimal hc hds hread => exact ⟨_, _, rfl, hc⟩

theorem splitSign_of_isDigit {c : Char} {cs : List Char} (hc : isDigit c = true) :
    splitSign (c :: cs) = (false, c :: cs) := by
  unfold splitSign
  split
  · rename_i heq
    rw [(List.cons.inj heq).1] at hc
    exact absurd hc (by decide)
  · rename_i heq
    rw [(List.cons.inj heq).1] at hc
    exact absurd hc (by decide)
  · rfl

/-- An unsigned numeral, read as `Number()` reads it. -/
theorem Magnitude.numberOfText {n : ℕ} {body : List Char} (h : Magnitude n body) {s : String}
    (hs : strip isJsSpace s.toList = body) {q : ℚ} (hq : numberOfText s = some q) : q = n := by
  have hsigned : readSignedDecimal body = some q → q = n := by
    obtain ⟨c, cs, rfl, hc⟩ := h.cons
    intro hq
    rw [readSignedDecimal, splitSign_of_isDigit hc] at hq
    simp only [Bool.false_eq_true, if_false, Option.map_id'] at hq
    exact h.readDecimal hq
  rw [Js.numberOfText, hs] at hq
  split at hq
  · obtain ⟨c, cs, hnil, -⟩ := h.cons
    cases hnil
  · rename_i c ds
    cases hradix : radixOf c with
    | none =>
        rw [hradix] at hq
        exact hsigned hq
    | some base =>
        rw [hradix] at hq
        dsimp only at hq
        split_ifs at hq
        obtain ⟨m, hm, rfl⟩ := Option.map_eq_some_iff.1 hq
        cases h with
        | radix hbase hne hds hread =>
            obtain rfl := Option.some.inj (hradix.symm.trans hbase)
            rcases hread with hmem | hread
            · exfalso
              have hbad := digits_of_readDigits hm '_' hmem
              obtain ⟨hle, -⟩ := radixOf_cases hradix
              exact absurd (digitOf_mono hle hbad) (by decide)
            · rw [Option.some.inj (hm.symm.trans hread)]
        | decimal hc hds hread =>
            exfalso
            obtain ⟨-, -, hdigit, hpoint, -⟩ := radixOf_cases hradix
            rcases hds c (.head _) with rfl | hd
            · cases hradix
            · rw [hdigit] at hd
              cases hd
  · exact hsigned hq

theorem splitSign_cases (cs : List Char) :
    splitSign cs = (true, cs.tail) ∧ cs.head? = some '-' ∨
      splitSign cs = (false, cs.tail) ∧ cs.head? = some '+' ∨ splitSign cs = (false, cs) := by
  unfold splitSign
  split
  · exact .inl ⟨rfl, rfl⟩
  · exact .inr (.inl ⟨rfl, rfl⟩)
  · exact .inr (.inr rfl)

/-- A signed numeral: `Number()` reads decimal literals only behind a sign. -/
theorem Magnitude.numberOfSigned {n : ℕ} {body : List Char} (h : Magnitude n body) {s : String} {sign : Char}
    {negative : Bool} (hsplit : splitSign (sign :: body) = (negative, body)) (hsign : sign ≠ '0')
    (hs : strip isJsSpace s.toList = sign :: body) {q : ℚ} (hq : Js.numberOfText s = some q) :
    q = signed negative n := by
  have hdecimal : readSignedDecimal (sign :: body) = some q := by
    rw [Js.numberOfText, hs] at hq
    split at hq
    · rename_i heq
      cases heq
    · rename_i heq
      exact absurd (List.cons.inj heq).1 hsign
    · exact hq
  rw [readSignedDecimal, hsplit] at hdecimal
  obtain ⟨q', hq', rfl⟩ := Option.map_eq_some_iff.1 hdecimal
  rw [h.readDecimal hq']
  cases negative <;> simp [signed]

/-- **PostgreSQL and `Number()` read the same integer**, where both read one. -/
theorem number_eq_int4 {s : String} {v : ℤ} {q : ℚ} (hv : int4OfText s = some v)
    (hq : numberOfText s = some q) : q = v := by
  rw [int4OfText] at hv
  obtain ⟨⟨n, rest⟩, hmag, hv⟩ := Option.bind_eq_some_iff.1 hv
  dsimp only at hv
  split_ifs at hv with hrest
  rw [← Option.some.inj hv]
  obtain ⟨body, hbody, hshape⟩ := magnitude_spec hmag
  have hfront : ∀ c ∈ s.toList.takeWhile isPgSpace, isJsSpace c = true := fun c hc =>
    isJsSpace_of_isPgSpace (List.mem_takeWhile_imp hc)
  have hback : ∀ c ∈ rest, isJsSpace c = true := fun c hc =>
    isJsSpace_of_isPgSpace (List.all_eq_true.1 hrest.1 c hc)
  have hstrip : ∀ core, s.toList.dropWhile isPgSpace = core ++ rest → core ≠ [] →
      (∀ c ∈ core, isJsSpace c = false) → strip isJsSpace s.toList = core := by
    intro core hcore hne hnot
    conv_lhs => rw [← List.takeWhile_append_dropWhile (p := isPgSpace) (l := s.toList), hcore]
    exact strip_eq hfront hback hnot hne
  obtain ⟨c, cs, hcons, hc⟩ := hshape.cons
  rcases splitSign_cases (s.toList.dropWhile isPgSpace) with ⟨hsplit, hhead⟩ | ⟨hsplit, hhead⟩ | hsplit
  · rw [hsplit] at hbody ⊢
    obtain ⟨tl, htl⟩ : ∃ tl, s.toList.dropWhile isPgSpace = '-' :: tl := List.head?_eq_some_iff.1 hhead
    rw [htl] at hbody
    change tl = body ++ rest at hbody
    refine hshape.numberOfSigned (show splitSign ('-' :: body) = _ from rfl) (by decide) (hstrip _ ?_ (by simp) ?_) hq
    · rw [htl, hbody, List.cons_append]
    · rintro d hd
      rcases List.mem_cons.1 hd with rfl | hd
      · decide
      · exact hshape.notSpace d hd
  · rw [hsplit] at hbody ⊢
    obtain ⟨tl, htl⟩ : ∃ tl, s.toList.dropWhile isPgSpace = '+' :: tl := List.head?_eq_some_iff.1 hhead
    rw [htl] at hbody
    change tl = body ++ rest at hbody
    refine hshape.numberOfSigned (show splitSign ('+' :: body) = _ from rfl) (by decide) (hstrip _ ?_ (by simp) ?_) hq
    · rw [htl, hbody, List.cons_append]
    · rintro d hd
      rcases List.mem_cons.1 hd with rfl | hd
      · decide
      · exact hshape.notSpace d hd
  · rw [hsplit] at hbody ⊢
    have hnumber := hshape.numberOfText (hstrip body hbody (by rw [hcons]; simp) hshape.notSpace) hq
    rw [hnumber]
    simp [signed]

end Obliance.Db
