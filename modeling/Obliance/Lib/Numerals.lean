import Mathlib.Data.Bool.AllAny
import Mathlib.Data.List.TakeWhile
import Mathlib.Tactic.Common

/-!
# Digits with and without separators

Two readers of the digits of a numeral in a base: `readDigits` takes the whole text, `readSeparated` the
longest beginning of it, with single underscores between digits.

* `readSeparated_spec` : what `readSeparated` takes; without an underscore it is what `readDigits` reads;
* `splitSign` : the sign before a numeral;
* `strip` : a text without the blanks around it; `strip_eq` where the blanks end, `strip_between` what they
  surround;
* `readDigits_decimal` : a decimal text is read as its number;
* `decimal_inj`, `append_sep_inj` : a decimal text has one value, and a text split at its first separator one
  pair of parts.
-/

namespace Numerals

/-- The value of a digit. -/
def digitOf (base : ℕ) (c : Char) : Option ℕ :=
  let v :=
    if '0' ≤ c ∧ c ≤ '9' then c.toNat - 48
    else if 'a' ≤ c ∧ c ≤ 'f' then c.toNat - 87
    else if 'A' ≤ c ∧ c ≤ 'F' then c.toNat - 55
    else base
  if v < base then some v else none

def readDigits (base : ℕ) : ℕ → List Char → Option ℕ
  | acc, [] => some acc
  | acc, c :: cs => (digitOf base c).bind fun d => readDigits base (acc * base + d) cs

/-- An underscore must be followed by a digit. -/
def readSeparated (base : ℕ) : ℕ → List Char → Option (ℕ × List Char)
  | acc, [] => some (acc, [])
  | acc, c :: cs =>
      match digitOf base c with
      | some d => readSeparated base (acc * base + d) cs
      | none =>
          if c = '_' then
            if cs.head?.any fun c => (digitOf base c).isSome then readSeparated base acc cs else none
          else some (acc, c :: cs)

/-- `(negative, the rest)` -/
def splitSign : List Char → Bool × List Char
  | '-' :: cs => (true, cs)
  | '+' :: cs => (false, cs)
  | cs => (false, cs)

def signed (negative : Bool) (n : ℕ) : ℤ := if negative then -(n : ℤ) else n

/-- The text between the blanks. -/
def strip (blank : Char → Bool) (cs : List Char) : List Char :=
  ((cs.dropWhile blank).reverse.dropWhile blank).reverse

variable {base acc n : ℕ} {cs rest body : List Char} {blank : Char → Bool}

theorem readSeparated_spec (h : readSeparated base acc cs = some (n, rest)) :
    ∃ body, cs = body ++ rest ∧ (∀ c ∈ body, c = '_' ∨ (digitOf base c).isSome) ∧
      ('_' ∈ body ∨ readDigits base acc body = some n) := by
  induction cs generalizing acc with
  | nil =>
      obtain ⟨rfl, rfl⟩ := Prod.mk.inj (Option.some.inj h)
      exact ⟨[], rfl, by simp, .inr rfl⟩
  | cons c cs ih =>
      rw [readSeparated] at h
      cases hd : digitOf base c with
      | some d =>
          rw [hd] at h
          obtain ⟨body, rfl, hall, hread⟩ := ih h
          refine ⟨c :: body, rfl, ?_, hread.imp (List.mem_cons_of_mem c) fun hr => ?_⟩
          · intro c' hc'
            rcases List.mem_cons.1 hc' with rfl | hc'
            · exact .inr (by rw [hd]; rfl)
            · exact hall c' hc'
          · rw [readDigits, hd]
            exact hr
      | none =>
          rw [hd] at h
          dsimp only at h
          split_ifs at h with hc hnext
          · obtain ⟨body, rfl, hall, -⟩ := ih h
            refine ⟨c :: body, rfl, ?_, .inl (List.mem_cons.2 (.inl hc.symm))⟩
            intro c' hc'
            rcases List.mem_cons.1 hc' with rfl | hc'
            · exact .inl hc
            · exact hall c' hc'
          · obtain ⟨rfl, rfl⟩ := Prod.mk.inj (Option.some.inj h)
            exact ⟨[], rfl, by simp, .inr rfl⟩

/-- A text that is read whole has digits only. -/
theorem digits_of_readDigits (h : readDigits base acc cs = some n) :
    ∀ c ∈ cs, (digitOf base c).isSome := by
  induction cs generalizing acc with
  | nil => simp
  | cons c cs ih =>
      rw [readDigits, Option.bind_eq_some_iff] at h
      obtain ⟨d, hd, h⟩ := h
      intro c' hc'
      rcases List.mem_cons.1 hc' with rfl | hc'
      · rw [hd]
        rfl
      · exact ih h c' hc'

theorem strip_eq {a b : List Char} (ha : ∀ c ∈ a, blank c = true) (hb : ∀ c ∈ b, blank c = true)
    (hbody : ∀ c ∈ body, blank c = false) (hne : body ≠ []) : strip blank (a ++ (body ++ b)) = body := by
  have hfront : (a ++ (body ++ b)).dropWhile blank = body ++ b := by
    rw [List.dropWhile_append_of_pos ha]
    cases body with
    | nil => exact absurd rfl hne
    | cons c body => exact List.dropWhile_cons_of_neg (by simp [hbody c (.head _)])
  have hback : (body.reverse).dropWhile blank = body.reverse := by
    cases hrev : body.reverse with
    | nil => exact absurd (List.reverse_eq_nil_iff.1 hrev) hne
    | cons c cs =>
        have hc : c ∈ body := List.mem_reverse.1 (hrev ▸ List.mem_cons_self)
        exact List.dropWhile_cons_of_neg (by simp [hbody c hc])
  rw [strip, hfront, List.reverse_append, List.dropWhile_append_of_pos (by simpa using hb), hback,
    List.reverse_reverse]

/-- Around the stripped text stand blanks. -/
theorem strip_between (blank : Char → Bool) (cs : List Char) :
    ∃ a b, (∀ c ∈ a, blank c = true) ∧ (∀ c ∈ b, blank c = true) ∧ cs = a ++ (strip blank cs ++ b) := by
  refine ⟨cs.takeWhile blank, ((cs.dropWhile blank).reverse.takeWhile blank).reverse,
    fun c hc => List.mem_takeWhile_imp hc, fun c hc => List.mem_takeWhile_imp (List.mem_reverse.1 hc), ?_⟩
  rw [strip, ← List.reverse_append, List.takeWhile_append_dropWhile, List.reverse_reverse,
    List.takeWhile_append_dropWhile]

/-! ## Decimal texts between separators -/

theorem decimal_inj {m n : ℕ} (h : (toString m).toList = (toString n).toList) : m = n := by
  rw [Nat.toString_eq_repr, Nat.toString_eq_repr, Nat.toList_repr, Nat.toList_repr] at h
  rw [← Nat.ofDigitChars_toDigits (b := 10) (n := m) (by decide) (by decide), h,
    Nat.ofDigitChars_toDigits (by decide) (by decide)]

theorem digitOf_decimal {c : Char} (hc : c.isDigit = true) : digitOf 10 c = some (c.toNat - '0'.toNat) := by
  simp only [Char.isDigit, ge_iff_le, Bool.and_eq_true, decide_eq_true_eq] at hc
  have hzero : '0' ≤ c := hc.1
  have hnine : c ≤ '9' := hc.2
  have hle : c.toNat ≤ '9'.toNat := hnine
  have hlt : c.toNat - '0'.toNat < 10 := by
    rw [show '9'.toNat = 57 from rfl] at hle
    rw [show '0'.toNat = 48 from rfl]
    omega
  unfold digitOf
  simp only [hzero, hnine, and_self, if_true]
  exact if_pos hlt

theorem readDigits_digits (h : ∀ c ∈ cs, c.isDigit = true) :
    readDigits 10 acc cs = some (Nat.ofDigitChars 10 cs acc) := by
  induction cs generalizing acc with
  | nil => rw [readDigits, Nat.ofDigitChars_nil]
  | cons c cs ih =>
      rw [readDigits, digitOf_decimal (h c (.head _)), Option.bind_some, ih fun c hc => h c (.tail _ hc),
        Nat.ofDigitChars_cons, Nat.mul_comm]

theorem isDigit_of_mem_decimal {c : Char} {n : ℕ} (hc : c ∈ (toString n).toList) : c.isDigit = true := by
  rw [Nat.toString_eq_repr, Nat.toList_repr] at hc
  exact Nat.isDigit_of_mem_toDigits (by decide) (by decide) hc

/-- The decimal text of a number is read as the number. -/
theorem readDigits_decimal (n : ℕ) : readDigits 10 0 (toString n).toList = some n := by
  rw [readDigits_digits fun c hc => isDigit_of_mem_decimal hc, Nat.toString_eq_repr, Nat.toList_repr,
    Nat.ofDigitChars_toDigits (by decide) (by decide)]

theorem notMem_decimal {c : Char} (hc : c.isDigit = false) (n : ℕ) : c ∉ (toString n).toList := by
  intro hmem
  rw [isDigit_of_mem_decimal hmem] at hc
  cases hc

theorem append_sep_inj {sep : Char} {a b x y : List Char} (ha : sep ∉ a) (hb : sep ∉ b)
    (h : a ++ sep :: x = b ++ sep :: y) : a = b ∧ x = y := by
  induction a generalizing b with
  | nil =>
      cases b with
      | nil => exact ⟨rfl, (List.cons.inj h).2⟩
      | cons c b => exact absurd (List.cons.inj h).1 (List.ne_of_not_mem_cons hb)
  | cons c a ih =>
      cases b with
      | nil => exact absurd (List.cons.inj h).1.symm (List.ne_of_not_mem_cons ha)
      | cons d b =>
          obtain ⟨rfl, htail⟩ := List.cons.inj h
          obtain ⟨rfl, rfl⟩ := ih (List.not_mem_of_not_mem_cons ha) (List.not_mem_of_not_mem_cons hb) htail
          exact ⟨rfl, rfl⟩

end Numerals
