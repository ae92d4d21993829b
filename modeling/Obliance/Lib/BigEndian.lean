import Mathlib.Algebra.Group.Nat.Defs
import Mathlib.Tactic.Ring

/-!
# Numbers as bytes, the highest first

* `toBytes k n` : the lowest `k` bytes of `n`, each by a shift;
* `ofBytes` : the number of a list of bytes;
* `ofBytes_toBytes` : the bytes of a number make it again, below `256 ^ k`;
* `takeBytes` : the first `k` bytes of a list, when it has that many.
-/

namespace BigEndian

def toBytes : ℕ → ℕ → List UInt8
  | 0, _ => []
  | k + 1, n => UInt8.ofNat (n >>> (k * 8)) :: toBytes k n

def ofBytes (bytes : List UInt8) : ℕ := bytes.foldl (fun n b => n * 256 + b.toNat) 0

/-- The first `k` bytes, and the bytes behind them. -/
def takeBytes (k : ℕ) (bytes : List UInt8) : Option (List UInt8 × List UInt8) :=
  if k ≤ bytes.length then some (bytes.take k, bytes.drop k) else none

variable {k n : ℕ} {bytes rest : List UInt8}

@[simp] theorem length_toBytes : ∀ k n : ℕ, (toBytes k n).length = k
  | 0, _ => rfl
  | k + 1, n => by rw [toBytes, List.length_cons, length_toBytes k n]

theorem foldl_toBytes (k n : ℕ) : ∀ acc : ℕ,
    (toBytes k n).foldl (fun n b => n * 256 + b.toNat) acc = acc * 256 ^ k + n % 256 ^ k := by
  induction k with
  | zero =>
      intro acc
      simp [toBytes, Nat.mod_one]
  | succ k ih =>
      intro acc
      have hshift : n >>> (k * 8) = n / 256 ^ k := by
        rw [Nat.shiftRight_eq_div_pow, Nat.mul_comm, pow_mul, show 2 ^ 8 = 256 from rfl]
      have hsplit : n % 256 ^ (k + 1) = n / 256 ^ k % 256 * 256 ^ k + n % 256 ^ k := by
        rw [pow_succ, Nat.mod_mul, Nat.mul_comm (n / 256 ^ k % 256), Nat.add_comm]
      rw [toBytes, List.foldl_cons, ih, hshift, hsplit, UInt8.toNat_ofNat']
      ring

theorem ofBytes_toBytes (h : n < 256 ^ k) : ofBytes (toBytes k n) = n := by
  rw [ofBytes, foldl_toBytes, Nat.mod_eq_of_lt h, Nat.zero_mul, Nat.zero_add]

theorem takeBytes_append (h : bytes.length = k) : takeBytes k (bytes ++ rest) = some (bytes, rest) := by
  subst h
  rw [takeBytes, if_pos (by simp), List.take_left, List.drop_left]

theorem takeBytes_length {taken : List UInt8} (h : takeBytes k bytes = some (taken, rest)) :
    taken.length = k ∧ rest.length + k = bytes.length := by
  unfold takeBytes at h
  split at h
  · next hk =>
    obtain ⟨rfl, rfl⟩ := Prod.mk.inj (Option.some.inj h)
    rw [List.length_take, List.length_drop]
    omega
  · cases h

end BigEndian
