import Mathlib.Data.List.Basic

/-!
# Filtering a buffer in place

The loop over a buffer that writes the elements it keeps to the front of the same buffer. The writer never
passes the reader, so no element is overwritten before it is read.

* `filterInPlace` : the loop;
* `filterInPlace_eq` : it is a filter.
-/

namespace InPlace
variable {α : Type*} (keep : α → Bool)

/-- `steps` elements from `read` on; `write` elements are kept so far. -/
def loop : ℕ → ℕ → ℕ → List α → List α
  | 0, _, write, buffer => buffer.take write
  | steps + 1, read, write, buffer =>
      match buffer[read]? with
      | none => buffer.take write
      | some x =>
          if keep x then loop steps (read + 1) (write + 1) (buffer.set write x)
          else loop steps (read + 1) write buffer

def filterInPlace (buffer : List α) : List α := loop keep buffer.length 0 0 buffer

theorem loop_eq {steps read write : ℕ} {buffer : List α} (hle : write ≤ read)
    (hsteps : read + steps = buffer.length) :
    loop keep steps read write buffer = buffer.take write ++ (buffer.drop read).filter keep := by
  induction steps generalizing read write buffer with
  | zero =>
      rw [loop, List.drop_eq_nil_of_le (by omega), List.filter_nil, List.append_nil]
  | succ steps ih =>
      have hread : read < buffer.length := by omega
      rw [loop, List.getElem?_eq_getElem hread, List.drop_eq_getElem_cons hread]
      dsimp only
      split_ifs with hkeep
      · rw [ih (by omega) (by rw [List.length_set]; omega), List.drop_set_of_lt (by omega),
          List.take_succ_eq_append_getElem (by rw [List.length_set]; omega), List.take_set_of_le (Nat.le_refl _),
          List.getElem_set_self, List.filter_cons_of_pos hkeep]
        simp
      · rw [ih (by omega) (by omega), List.filter_cons_of_neg hkeep]

theorem filterInPlace_eq (buffer : List α) : filterInPlace keep buffer = buffer.filter keep := by
  rw [filterInPlace, loop_eq keep (Nat.le_refl 0) (Nat.zero_add _)]
  rfl

end InPlace
