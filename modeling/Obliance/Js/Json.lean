import Mathlib.Data.Rat.Defs
import Mathlib.Tactic.Common

/-!
# The values of `JSON.parse`

* `Json` : a parsed text; a number too large for a double is an infinity;
* `Json.get` : `v.field`, with no value where `undefined` is read;
* `Json.int?` : the value under `typeof v === 'number' && Number.isInteger(v)`;
* `Json.truthy`, `Json.toText` : `!!v` and `String(v)`.
-/

namespace Obliance.Js

inductive Json where
  | null
  | bool (b : Bool)
  | num (q : ℚ)
  | infinity (negative : Bool)
  | str (s : List Char)
  | arr (items : List Json)
  | obj (fields : List (List Char × Json))

namespace Json

/-- The field of an object; the fields have different names. -/
def get (field : String) : Json → Option Json
  | obj fields => fields.lookup field.toList
  | _ => none

def str? : Option Json → Option (List Char)
  | some (str s) => some s
  | _ => none

def int? : Option Json → Option ℤ
  | some (num q) => if q.den = 1 then some q.num else none
  | _ => none

def isArr : Option Json → Bool
  | some (arr _) => true
  | _ => false

/-- `!!v` -/
def truthy : Json → Bool
  | null => false
  | bool b => b
  | num q => decide (q ≠ 0)
  | infinity _ => true
  | str s => !s.isEmpty
  | arr _ => true
  | obj _ => true

def isNull : Json → Bool
  | null => true
  | _ => false

mutual

/-- `String(v)`, which throws where an object has a `toString` of its own; `showNumber` prints a number. -/
def toText (showNumber : ℚ → String) : Json → Option (List Char)
  | null => some ['n', 'u', 'l', 'l']
  | bool true => some ['t', 'r', 'u', 'e']
  | bool false => some ['f', 'a', 'l', 's', 'e']
  | num q => some (showNumber q).toList
  | infinity negative => some ((if negative then "-Infinity" else "Infinity").toList)
  | str s => some s
  | arr items => (itemTexts showNumber items).map ([','].intercalate ·)
  | obj fields =>
      if (fields.lookup "toString".toList).isSome then none else some "[object Object]".toList

/-- The elements under `join`. -/
def itemTexts (showNumber : ℚ → String) : List Json → Option (List (List Char))
  | [] => some []
  | item :: items =>
      (if item.isNull then some [] else toText showNumber item).bind fun text =>
        (itemTexts showNumber items).map (text :: ·)

end

end Json

end Obliance.Js
