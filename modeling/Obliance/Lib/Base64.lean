import Mathlib.Tactic.Common
import Mathlib.Data.Nat.Basic

/-!
# Base64 with the standard alphabet and padding

* `encode` : the text of a list of bytes;
* `decode` : the bytes of a text, the bits behind the last byte left aside;
* `decode_encode` : a text that was encoded decodes to its bytes;
* `encode_shape` : an encoded text is digits and at most two `=`.
-/

namespace Base64

def alphabet : List Char := "ABCDEFGHIJKLMNOPQRSTUVWXYZabcdefghijklmnopqrstuvwxyz0123456789+/".toList

def digit (v : ℕ) : Char := alphabet.getD v 'A'

def isDigit (c : Char) : Bool := decide (c ∈ alphabet)

def value (c : Char) : Option ℕ := if isDigit c then some (alphabet.idxOf c) else none

/-- Three bytes make four digits; a group of one or two bytes is padded. -/
def encode : List UInt8 → List Char
  | [] => []
  | [a] => [digit (a.toNat / 4), digit (a.toNat % 4 * 16), '=', '=']
  | [a, b] =>
      [digit (a.toNat / 4), digit (a.toNat % 4 * 16 + b.toNat / 16), digit (b.toNat % 16 * 4), '=']
  | a :: b :: c :: bytes =>
      digit (a.toNat / 4) :: digit (a.toNat % 4 * 16 + b.toNat / 16) ::
        digit (b.toNat % 16 * 4 + c.toNat / 64) :: digit (c.toNat % 64) :: encode bytes

/-- The bytes of a group with the digits `w`, `x`, `y`, `z`. -/
def first (w x : ℕ) : UInt8 := UInt8.ofNat (w * 4 + x / 16)

def second (x y : ℕ) : UInt8 := UInt8.ofNat (x % 16 * 16 + y / 4)

def third (y z : ℕ) : UInt8 := UInt8.ofNat (y % 4 * 64 + z)

def decode : List Char → Option (List UInt8)
  | [] => some []
  | [w, x, '=', '='] => do
      let w ← value w
      let x ← value x
      some [first w x]
  | [w, x, y, '='] => do
      let w ← value w
      let x ← value x
      let y ← value y
      some [first w x, second x y]
  | w :: x :: y :: z :: text => do
      let w ← value w
      let x ← value x
      let y ← value y
      let z ← value z
      let bytes ← decode text
      some (first w x :: second x y :: third y z :: bytes)
  | _ => none

section Digits
variable {v : ℕ}

theorem value_digit (hv : v < 64) : value (digit v) = some v := by
  have hall : ∀ v : Fin 64, value (digit v) = some v.val := by decide +kernel
  exact hall ⟨v, hv⟩

theorem isDigit_digit (hv : v < 64) : isDigit (digit v) = true := by
  have hall : ∀ v : Fin 64, isDigit (digit v) = true := by decide +kernel
  exact hall ⟨v, hv⟩

theorem digit_ne_pad (hv : v < 64) : digit v ≠ '=' := by
  have hall : ∀ v : Fin 64, digit v ≠ '=' := by decide +kernel
  exact hall ⟨v, hv⟩

end Digits

section Groups
variable (a b c : UInt8)

theorem ofNat_eq {a : UInt8} {v : ℕ} (h : v = a.toNat) : UInt8.ofNat v = a := by
  rw [h, UInt8.ofNat_toNat]

theorem first_eq {r : ℕ} (hr : r < 16) : first (a.toNat / 4) (a.toNat % 4 * 16 + r) = a :=
  ofNat_eq (by omega)

theorem second_eq (q : ℕ) {r : ℕ} (hr : r < 4) : second (q * 16 + b.toNat / 16) (b.toNat % 16 * 4 + r) = b :=
  have hb := b.toNat_lt
  ofNat_eq (by omega)

theorem third_eq (q : ℕ) : third (q * 4 + c.toNat / 64) (c.toNat % 64) = c :=
  have hc := c.toNat_lt
  ofNat_eq (by omega)

/-- The digits of a group are below 64. -/
theorem digits_lt : a.toNat / 4 < 64 ∧ a.toNat % 4 * 16 + b.toNat / 16 < 64 ∧
    b.toNat % 16 * 4 + c.toNat / 64 < 64 ∧ c.toNat % 64 < 64 := by
  have ha := a.toNat_lt
  have hb := b.toNat_lt
  have hc := c.toNat_lt
  omega

end Groups

/-- A whole group is read digit by digit. -/
theorem decode_group {w x y z : ℕ} (hw : w < 64) (hx : x < 64) (hy : y < 64) (hz : z < 64) (text : List Char) :
    decode (digit w :: digit x :: digit y :: digit z :: text) =
      (decode text).map fun bytes => first w x :: second x y :: third y z :: bytes := by
  rw [decode]
  · simp only [value_digit hw, value_digit hx, value_digit hy, value_digit hz]
    cases decode text <;> rfl
  · intro hpad _ _
    exact absurd hpad (digit_ne_pad hy)
  · intro hpad _
    exact absurd hpad (digit_ne_pad hz)

theorem decode_encode (bytes : List UInt8) : decode (encode bytes) = some bytes := by
  induction bytes using encode.induct with
  | case1 => rfl
  | case2 a =>
      have hw : a.toNat / 4 < 64 := (digits_lt a 0 0).1
      have hx : a.toNat % 4 * 16 < 64 := by omega
      have hfirst := first_eq a (r := 0) (by decide)
      rw [encode, decode, value_digit hw, value_digit hx]
      exact congrArg (fun byte => some [byte]) hfirst
  | case3 a b =>
      obtain ⟨hw, hx, -⟩ := digits_lt a b 0
      have hy : b.toNat % 16 * 4 < 64 := by omega
      have hfirst := first_eq a (r := b.toNat / 16) (by have := b.toNat_lt; omega)
      have hsecond := second_eq b (a.toNat % 4) (r := 0) (by decide)
      rw [encode, decode, value_digit hw, value_digit hx, value_digit hy]
      · exact congrArg₂ (fun byte byte' => some [byte, byte']) hfirst hsecond
      · intro hpad
        exact absurd hpad (digit_ne_pad hy)
  | case4 a b c bytes ih =>
      obtain ⟨hw, hx, hy, hz⟩ := digits_lt a b c
      have hfirst := first_eq a (r := b.toNat / 16) (by have := b.toNat_lt; omega)
      have hsecond := second_eq b (a.toNat % 4) (r := c.toNat / 64) (by have := c.toNat_lt; omega)
      have hthird := third_eq c (b.toNat % 16)
      rw [encode, decode_group hw hx hy hz, ih, Option.map_some, hfirst, hsecond, hthird]

/-- Digits, then at most two `=`. -/
theorem encode_shape (bytes : List UInt8) : ∃ body pad, encode bytes = body ++ pad ∧
    (∀ c ∈ body, isDigit c = true) ∧ pad ∈ [[], ['='], ['=', '=']] ∧ (bytes ≠ [] → body ≠ []) := by
  induction bytes using encode.induct with
  | case1 => exact ⟨[], [], rfl, by simp, by simp, by simp⟩
  | case2 a =>
      have hw : a.toNat / 4 < 64 := (digits_lt a 0 0).1
      have hx : a.toNat % 4 * 16 < 64 := by omega
      exact ⟨[_, _], ['=', '='], rfl, by simp [isDigit_digit hw, isDigit_digit hx], by simp, by simp⟩
  | case3 a b =>
      obtain ⟨hw, hx, -⟩ := digits_lt a b 0
      have hy : b.toNat % 16 * 4 < 64 := by omega
      exact ⟨[_, _, _], ['='], rfl, by simp [isDigit_digit hw, isDigit_digit hx, isDigit_digit hy], by simp, by simp⟩
  | case4 a b c bytes ih =>
      obtain ⟨hw, hx, hy, hz⟩ := digits_lt a b c
      obtain ⟨body, pad, he, hbody, hpad, -⟩ := ih
      refine ⟨digit _ :: digit _ :: digit _ :: digit _ :: body, pad, by rw [encode, he]; rfl, ?_, hpad, by simp⟩
      simp only [List.forall_mem_cons]
      exact ⟨isDigit_digit hw, isDigit_digit hx, isDigit_digit hy, isDigit_digit hz, hbody⟩

end Base64
