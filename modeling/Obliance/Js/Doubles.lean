import Mathlib.Data.Rat.Floor
import Obliance.Js.Extremes
import Obliance.Js.Json
import Obliance.Js.Number

/-!
# Numbers as doubles, texts as UTF-16

A double that is not NaN is a rational number or an infinity; how an exact result becomes one and how a number
is written are left open.

* `Doubles.lift`, `mathRound`, `plus` : the arithmetic on them;
* `Doubles.number` : `Number(v)` of any JSON value;
* `utf16`, `ofUtf16` : the code units of a text, and the text that is written from them.
-/

namespace Obliance.Js

/-- How a number is written, and how an exact result becomes a double. -/
structure Doubles where
  showNumber : ℚ → String
  toDouble : ℚ → WithBot (WithTop ℚ)

namespace Doubles

variable (d : Doubles)

/-- A rounded result, for an operand that an infinity passes through. -/
def lift (f : ℚ → ℚ) : WithBot (WithTop ℚ) → WithBot (WithTop ℚ)
  | some (some q) => d.toDouble (f q)
  | v => v

/-- `Math.round` rounds halves up, and its results are exact. -/
def mathRound : WithBot (WithTop ℚ) → WithBot (WithTop ℚ)
  | some (some q) => some (some (⌊q + 1 / 2⌋ : ℚ))
  | v => v

def isFinite : WithBot (WithTop ℚ) → Option ℚ
  | some (some q) => some q
  | _ => none

def plus : JsNum → JsNum → JsNum
  | some (some (some a)), some (some (some b)) => some (d.toDouble (a + b))
  | some (some (some _)), some y => some y
  | some x, some (some (some _)) => some x
  | some x, some y => if x = y then some x else none
  | _, _ => none

/-- The finite value of `Number(v)`; the outer `none` is the exception of a value without a text. -/
def number : Option Json → Option (Option ℚ)
  | none => some none
  | some .null => some (some 0)
  | some (.bool b) => some (some (if b then 1 else 0))
  | some (.num q) => some (some q)
  | some (.infinity _) => some none
  | some v => (v.toText d.showNumber).map fun s => (numberOfText (String.ofList s)).bind fun q =>
      isFinite (d.toDouble q)

end Doubles

/-- The arithmetic of rational numbers, for values that are doubles throughout. -/
def exactDoubles : Doubles where
  showNumber := fun q => toString q.num
  toDouble := fun q => some (some q)

/-- `v ?? d` and `v == null` treat a missing value and null alike. -/
def present (v : Option Json) : Option Json := v.bind fun v => if v.isNull then none else some v

/-- The UTF-16 code units of a text. -/
def utf16 (cs : List Char) : List ℕ :=
  cs.flatMap fun c =>
    if c.toNat < 65536 then [c.toNat]
    else [55296 + (c.toNat - 65536) / 1024, 56320 + (c.toNat - 65536) % 1024]

/-- The text written from code units; half of a pair that stands alone is written as U+FFFD. -/
def ofUtf16 : List ℕ → List Char
  | [] => []
  | [u] => [if 55296 ≤ u ∧ u < 57344 then '\ufffd' else Char.ofNat u]
  | u :: v :: us =>
      if 55296 ≤ u ∧ u < 56320 ∧ 56320 ≤ v ∧ v < 57344 then
        Char.ofNat (65536 + (u - 55296) * 1024 + (v - 56320)) :: ofUtf16 us
      else (if 55296 ≤ u ∧ u < 57344 then '\ufffd' else Char.ofNat u) :: ofUtf16 (v :: us)

end Obliance.Js
