import Mathlib.Algebra.Order.Field.Rat
import Obliance.Js.Value
import Obliance.Lib.Numerals

/-!
# `Number(v)`

The numeric literals JavaScript reads from a text: decimal literals with a fraction and an exponent, and
hexadecimal, octal and binary integers without a sign. An array counts as the text of its only element. NaN
and the infinities are `none`; a value is not rounded to a double, which no integer below 2⁵³ needs.
-/

namespace Obliance.Js
open Numerals

/-- `WhiteSpace` and `LineTerminator` of the language. -/
def isJsSpace (c : Char) : Bool :=
  c ∈ [' ', '\t', '\n', '\x0b', '\x0c', '\r', '\u00a0', '\u1680', '\u2028', '\u2029', '\u202f', '\u205f',
    '\u3000', '\ufeff'] || ('\u2000' ≤ c && c ≤ '\u200a')

def isDigit (c : Char) : Bool := (digitOf 10 c).isSome

/-- The base that a letter after a leading 0 announces. -/
def radixOf : Char → Option ℕ
  | 'x' | 'X' => some 16
  | 'o' | 'O' => some 8
  | 'b' | 'B' => some 2
  | _ => none

/-- An empty text, or `e` with a signed integer. -/
def exponent : List Char → Option ℤ
  | [] => some 0
  | c :: cs =>
      if c = 'e' ∨ c = 'E' then
        let (negative, ds) := splitSign cs
        if ds = [] then none else (readDigits 10 0 ds).map (signed negative)
      else none

/-- Values from 2¹⁰²⁴ on are infinite. -/
def finite (q : ℚ) : Option ℚ := if |q| < 2 ^ 1024 then some q else none

/-- An unsigned decimal literal. -/
def readDecimal (cs : List Char) : Option ℚ :=
  let int := cs.takeWhile isDigit
  let rest := cs.dropWhile isDigit
  let (frac, rest) := match rest with
    | '.' :: r => (r.takeWhile isDigit, r.dropWhile isDigit)
    | r => ([], r)
  if int = [] ∧ frac = [] then none
  else (exponent rest).bind fun e =>
    (readDigits 10 0 (int ++ frac)).bind fun n => finite ((n : ℚ) * 10 ^ (e - frac.length))

def readSignedDecimal (cs : List Char) : Option ℚ :=
  (readDecimal (splitSign cs).2).map fun q => if (splitSign cs).1 then -q else q

/-- `Number(s)` -/
def numberOfText (s : String) : Option ℚ :=
  match strip isJsSpace s.toList with
  | [] => some 0
  | '0' :: c :: ds =>
      match radixOf c with
      | some base => if ds = [] then none else (readDigits base 0 ds).map fun n : ℕ => (n : ℚ)
      | none => readSignedDecimal ('0' :: c :: ds)
  | cs => readSignedDecimal cs

/-! ## Arrays -/

def escaped : Char → Option Char
  | '"' => some '"'
  | '\\' => some '\\'
  | '/' => some '/'
  | 'b' => some '\x08'
  | 'f' => some '\x0c'
  | 'n' => some '\n'
  | 'r' => some '\r'
  | 't' => some '\t'
  | _ => none

/-- A JSON text behind its first quote, when its last quote is the end. -/
def jsonText : List Char → Option (List Char)
  | ['"'] => some []
  | [] | '"' :: _ => none
  | '\\' :: 'u' :: a :: b :: c :: d :: cs =>
      (readDigits 16 0 [a, b, c, d]).bind fun n => (jsonText cs).map (Char.ofNat n :: ·)
  | '\\' :: c :: cs => (escaped c).bind fun e => (jsonText cs).map (e :: ·)
  | c :: cs => (jsonText cs).map (c :: ·)

/-- `Number` of an array or an object, by its JSON text; the fuel is the depth of arrays. -/
def numberOfJson : ℕ → List Char → Option ℚ
  | 0, _ => none
  | n + 1, cs =>
      match strip isJsSpace cs with
      | '[' :: rest =>
          match strip isJsSpace rest.dropLast with
          | [] | ['n', 'u', 'l', 'l'] => some 0
          | '"' :: text => (jsonText text).bind fun text => numberOfText (String.ofList text)
          | element => if element.head? = some '[' then numberOfJson n element else readSignedDecimal element
      | _ => none

/-- The digits at the beginning of a text; `none` without one. -/
def leadingDigits (base : ℕ) (cs : List Char) : Option ℕ :=
  match cs.takeWhile fun c => (digitOf base c).isSome with
  | [] => none
  | ds => readDigits base 0 ds

/-- `parseInt(s)`, NaN as `none`. -/
def parseInt (s : String) : Option ℤ :=
  let (negative, cs) := splitSign (s.toList.dropWhile isJsSpace)
  let magnitude := match cs with
    | '0' :: 'x' :: ds => leadingDigits 16 ds
    | '0' :: 'X' :: ds => leadingDigits 16 ds
    | cs => leadingDigits 10 cs
  magnitude.map (signed negative)

/-- `Number(v)`, NaN and the infinities as `none`. -/
def JsVal.toNumber : JsVal → Option ℚ
  | .undefined => none
  | .null => some 0
  | .bool b => some (if b then 1 else 0)
  | .num q => some q
  | .str s => numberOfText s
  | .obj json => numberOfJson json.length json.toList

section
variable {cs : List Char} {n : ℕ}

/-- Digits alone are read as their value. -/
theorem readDecimal_digits (hne : cs ≠ []) (h : readDigits 10 0 cs = some n) {q : ℚ}
    (hq : readDecimal cs = some q) : q = n := by
  have hall : ∀ c ∈ cs, isDigit c = true := digits_of_readDigits h
  have htake : cs.takeWhile isDigit = cs := List.takeWhile_eq_self_iff.2 hall
  have hdrop : cs.dropWhile isDigit = [] := List.dropWhile_eq_nil_iff.2 hall
  rw [readDecimal, htake, hdrop] at hq
  dsimp only at hq
  rw [if_neg fun hnil => hne hnil.1, exponent, Option.bind_some, List.append_nil, h, Option.bind_some] at hq
  unfold finite at hq
  split_ifs at hq
  rw [← Option.some.inj hq]
  simp

/-- Behind its digits a decimal literal has a point or an exponent only. -/
theorem readDecimal_stops {c : Char} {ds rest : List Char} (hds : ∀ d ∈ ds, isDigit d = true)
    (hc : isDigit c = false) (hpoint : c ≠ '.') (he : c ≠ 'e') (hE : c ≠ 'E') :
    readDecimal (ds ++ c :: rest) = none := by
  have htake : (ds ++ c :: rest).takeWhile isDigit = ds := by
    rw [List.takeWhile_append_of_pos hds, List.takeWhile_cons_of_neg (by simp [hc]), List.append_nil]
  have hdrop : (ds ++ c :: rest).dropWhile isDigit = c :: rest := by
    rw [List.dropWhile_append_of_pos hds, List.dropWhile_cons_of_neg (by simp [hc])]
  rw [readDecimal, htake, hdrop]
  have hexp : exponent (c :: rest) = none := by
    rw [exponent, if_neg (by simp [he, hE])]
  split
  rename_i frac r hmatch
  split at hmatch
  · rename_i r' heq
    exact absurd (List.cons.inj heq).1 hpoint
  · obtain ⟨-, rfl⟩ := Prod.mk.inj hmatch
    rw [hexp]
    simp
end

end Obliance.Js
