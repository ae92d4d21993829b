import Mathlib.Data.List.Nodup
import Obliance.Js.Json
import Obliance.Lib.Numerals

/-!
# The fields of a generated dashboard (`dashboardCodegen.ts`, `dashboardAutomap.ts`)

* `shellVarName`, `jqPathOf`, `jqProgram` : the variable of a path, and the program that reads it;
* `walkJson` : the candidates of a sample, each with the way to it;
* `Jq` : dotted names and iterations are paths, what other texts mean is a parameter;
* `shellVarName_pathOf`, `readProgram_pathOf` : name and program of a way whose keys are names;
* `extraction_iff` : when the variables are distinct and each program yields its leaf.
-/

namespace Obliance.Dashboard
open Obliance.Js Numerals

/-! ## Names and paths -/

/-- `[A-Za-z0-9_]` -/
def isWord (c : Char) : Bool := c.isAlphanum || decide (c = '_')

/-- `replace(/\[(\d+)\]/g, '_$1')`, with the digits read behind an open bracket. -/
def underscoreIndices : Option (List Char) → List Char → List Char
  | none, [] => []
  | none, c :: cs => if c = '[' then underscoreIndices (some []) cs else c :: underscoreIndices none cs
  | some ds, [] => '[' :: ds
  | some ds, c :: cs =>
      if c.isDigit then underscoreIndices (some (ds ++ [c])) cs
      else if c = ']' ∧ ds ≠ [] then '_' :: ds ++ underscoreIndices none cs
      else if c = '[' then '[' :: ds ++ underscoreIndices (some []) cs
      else '[' :: ds ++ c :: underscoreIndices none cs

/-- `replace(/[^A-Za-z0-9_]+/g, '_')`; the flag says that the run before has its underscore. -/
def squash : Bool → List Char → List Char
  | _, [] => []
  | inRun, c :: cs =>
      if isWord c then c :: squash false cs
      else if inRun then squash true cs
      else '_' :: squash true cs

def trimUnderscores (cs : List Char) : List Char := strip (fun c => decide (c = '_')) cs

def shellVarName (path : List Char) : List Char :=
  'F' :: '_' :: trimUnderscores (squash false (underscoreIndices none path))

/-- `replace(/\.\[\]\./g, '[].')` -/
def dropRowDots : List Char → List Char
  | '.' :: '[' :: ']' :: '.' :: cs => '[' :: ']' :: '.' :: dropRowDots cs
  | c :: cs => c :: dropRowDots cs
  | [] => []

def jqPathOf (path : List Char) : List Char := '.' :: dropRowDots path

/-- The program between the quotes of the extraction. -/
def jqProgram (path : List Char) : List Char := jqPathOf path ++ " // empty".toList

example : shellVarName "devices[0].name".toList = "F_devices_0_name".toList := by decide
example : jqProgram "rows[].cpu".toList = ".rows[].cpu // empty".toList := by decide

/-! ## The walk -/

/-- A step of the walk, into an object or into the first row of an array. -/
structure Hop where
  inRow : Bool
  key : List Char
  deriving DecidableEq, Repr

/-- A candidate, with the node it was made for and the way to it. -/
structure Candidate where
  path : List Char
  isInArray : Bool
  node : Json
  way : List Hop

/-- `Object.entries` of the first row, which may be an array. -/
def rowEntries : Json → Option (List (List Char × Json))
  | .obj fields => some fields
  | .arr items => some (items.zipIdx.map fun x => ((toString x.2).toList, x.1))
  | _ => none

def isObject : Json → Bool
  | .obj _ => true
  | _ => false

def Hop.extend (path : List Char) (hop : Hop) : List Char :=
  if hop.inRow then path ++ '[' :: ']' :: '.' :: hop.key
  else if path = [] then hop.key
  else path ++ '.' :: hop.key

/-- `visit`, where `left` is `maxDepth + 1 - depth`. -/
def visit : ℕ → Json → List Char → Bool → List Hop → List Candidate
  | 0, _, _, _, _ => []
  | left + 1, node, path, inArray, way =>
      match node with
      | .arr (first :: _) =>
          match rowEntries first with
          | none => [⟨path, inArray, node, way⟩]
          | some entries => (entries.filter fun e => !isObject e.2).flatMap fun e =>
              visit left e.2 (Hop.extend path ⟨true, e.1⟩) true (way ++ [⟨true, e.1⟩])
      | .obj fields => fields.flatMap fun e =>
          visit left e.2 (Hop.extend path ⟨false, e.1⟩) inArray (way ++ [⟨false, e.1⟩])
      | _ => [⟨path, inArray, node, way⟩]

/-- The walk stops when `maxFields` candidates are found. -/
def walkJson (maxDepth maxFields : ℕ) (parsed : Json) : List Candidate :=
  (visit (maxDepth + 1) parsed [] false []).take maxFields

/-- A leaf; the candidate of an array of scalars is none. -/
def isScalar : Json → Bool
  | .arr _ | .obj _ => false
  | _ => true

/-! ## jq -/

inductive Step where
  | key (name : List Char)
  | each
  deriving DecidableEq, Repr

/-- `[a-zA-Z_][a-zA-Z_0-9]*` -/
def isName (cs : List Char) : Bool := cs.all isWord && cs.head?.any fun c => !c.isDigit

/-- The name that was being read. -/
def closeName : Option (List Char) → Option (List Step)
  | none => some []
  | some name => if isName name then some [.key name] else none

/-- `.name` and `[]`, one after the other; the state is the name that is being read. -/
def readSteps : Option (List Char) → List Char → Option (List Step)
  | name, [] => closeName name
  | name, '[' :: ']' :: cs => (closeName name).bind fun done => (readSteps none cs).map (done ++ .each :: ·)
  | name, '.' :: cs => (closeName name).bind fun done => (readSteps (some []) cs).map (done ++ ·)
  | some name, c :: cs => if isWord c then readSteps (some (name ++ [c])) cs else none
  | none, _ :: _ => none

/-- A path: `.`, or steps behind it. -/
def readPath : List Char → Option (List Step)
  | ['.'] => some []
  | '.' :: '[' :: cs => readSteps none ('[' :: cs)
  | cs => readSteps none cs

/-- `path // empty` -/
def readProgram (program : List Char) : Option (List Step) :=
  if " // empty".toList.isSuffixOf program then readPath (program.take (program.length - " // empty".toList.length))
  else none

/-- The outputs of one value after the other, up to an error. -/
def collect (f : Json → List Json × Bool) : List Json → List Json × Bool
  | [] => ([], true)
  | v :: vs => if (f v).2 then ((f v).1 ++ (collect f vs).1, (collect f vs).2) else f v

/-- The outputs of a path, and whether no error stopped them. -/
def outputs : List Step → Json → List Json × Bool
  | [], v => ([v], true)
  | .key name :: steps, v =>
      match v with
      | .obj fields => outputs steps ((fields.lookup name).getD .null)
      | .null => outputs steps .null
      | _ => ([], false)
  | .each :: steps, v =>
      match v with
      | .arr items => collect (outputs steps) items
      | .obj fields => collect (outputs steps) (fields.map Prod.snd)
      | _ => ([], false)

/-- `//` takes false and null for absent. -/
def present : Json → Bool
  | .null | .bool false => false
  | _ => true

/-- What jq makes of the programs that are no such path. -/
structure Jq where
  other : List Char → Json → List Json

def Jq.run (jq : Jq) (program : List Char) (input : Json) : List Json :=
  match readProgram program with
  | some steps => (outputs steps input).1.filter present
  | none => jq.other program input

/-! ## Ways whose keys are names -/

/-- How a hop is written behind others. -/
def Hop.text (hop : Hop) : List Char := (if hop.inRow then ['[', ']'] else []) ++ '.' :: hop.key

def textOf (way : List Hop) : List Char := way.flatMap Hop.text

def Hop.steps (hop : Hop) : List Step := (if hop.inRow then [.each] else []) ++ [.key hop.key]

def stepsOf (way : List Hop) : List Step := way.flatMap Hop.steps

/-- The keys, each behind an underscore. -/
def underscored (way : List Hop) : List Char := way.flatMap fun hop => '_' :: hop.key

def Named (way : List Hop) : Prop := ∀ hop ∈ way, isName hop.key = true

instance (way : List Hop) : Decidable (Named way) := inferInstanceAs (Decidable (∀ hop ∈ way, _))

def pathOf (way : List Hop) : List Char := way.foldl Hop.extend []

section Texts
variable {name rest : List Char} {hop : Hop} {way : List Hop}

theorem word_ne {c d : Char} (hc : isWord c = true) (hd : isWord d = false) : c ≠ d := by
  rintro rfl
  rw [hc] at hd
  cases hd

theorem words_of_isName (h : isName name = true) : ∀ c ∈ name, isWord c = true :=
  List.all_eq_true.1 (Bool.and_eq_true _ _ ▸ h).1

theorem isName_ne_nil (h : isName name = true) : name ≠ [] := by
  rintro rfl
  cases h

theorem named_cons : Named (hop :: way) ↔ isName hop.key = true ∧ Named way := List.forall_mem_cons

theorem textOf_cons (hop : Hop) (way : List Hop) :
    textOf (hop :: way) = (if hop.inRow then ['[', ']'] else []) ++ '.' :: (hop.key ++ textOf way) := by
  simp [textOf, Hop.text]

theorem stepsOf_cons (hop : Hop) (way : List Hop) :
    stepsOf (hop :: way) = (if hop.inRow then [.each] else []) ++ .key hop.key :: stepsOf way := by
  simp [stepsOf, Hop.steps]

theorem foldl_extend : ∀ (way : List Hop) {path : List Char}, path ≠ [] → way.foldl Hop.extend path = path ++ textOf way
  | [], path, _ => (List.append_nil path).symm
  | hop :: way, path, h => by
      have hext : Hop.extend path hop = path ++ hop.text := by
        unfold Hop.extend Hop.text
        split_ifs
        · rfl
        · rfl
      have hne : path ++ hop.text ≠ [] := fun hnil => h (List.append_eq_nil_iff.1 hnil).1
      rw [List.foldl_cons, hext, foldl_extend way hne, List.append_assoc]
      rfl

/-- A path is the text of its way, without the dot where it begins with a key. -/
theorem pathOf_cons (h : isName hop.key = true) (way : List Hop) :
    pathOf (hop :: way) = if hop.inRow then textOf (hop :: way) else hop.key ++ textOf way := by
  rw [pathOf, List.foldl_cons]
  split_ifs with hrow
  · have hext : Hop.extend [] hop = hop.text := by
      rw [Hop.extend, Hop.text, if_pos hrow, if_pos hrow]
      rfl
    have hne : hop.text ≠ [] := by
      rw [Hop.text, if_pos hrow]
      exact List.cons_ne_nil _ _
    rw [hext, foldl_extend way hne]
    rfl
  · rw [Hop.extend, if_neg hrow, if_pos rfl, foldl_extend way (isName_ne_nil h)]

/-! ### The variable -/

theorem underscoreIndices_append (h : ∀ c ∈ name, isWord c = true) :
    underscoreIndices none (name ++ rest) = name ++ underscoreIndices none rest := by
  induction name with
  | nil => rfl
  | cons c name ih =>
      have hc : c ≠ '[' := word_ne (h c List.mem_cons_self) (by decide)
      rw [List.cons_append, underscoreIndices, if_neg hc, ih fun d hd => h d (List.mem_cons_of_mem _ hd)]
      rfl

theorem underscoreIndices_textOf (h : Named way) : underscoreIndices none (textOf way) = textOf way := by
  induction way with
  | nil => rfl
  | cons hop way ih =>
      have hkey : underscoreIndices none ('.' :: (hop.key ++ textOf way)) = '.' :: (hop.key ++ textOf way) := by
        rw [underscoreIndices, if_neg (by decide), underscoreIndices_append (words_of_isName (named_cons.1 h).1),
          ih (named_cons.1 h).2]
      rw [textOf_cons]
      split_ifs
      · show underscoreIndices none ('[' :: ']' :: '.' :: (hop.key ++ textOf way)) = _
        rw [underscoreIndices, if_pos rfl, underscoreIndices, if_neg (by decide), if_neg (fun hc => hc.2 rfl),
          if_neg (by decide), hkey]
        rfl
      · exact hkey

theorem squash_append (h : ∀ c ∈ name, isWord c = true) : squash false (name ++ rest) = name ++ squash false rest := by
  induction name with
  | nil => rfl
  | cons c name ih =>
      rw [List.cons_append, squash, if_pos (h c List.mem_cons_self), ih fun d hd => h d (List.mem_cons_of_mem _ hd)]
      rfl

theorem squash_name (h : isName name = true) (inRun : Bool) :
    squash inRun (name ++ rest) = name ++ squash false rest := by
  cases name with
  | nil => cases h
  | cons c name =>
      have hwords := words_of_isName h
      rw [List.cons_append, squash, if_pos (hwords c List.mem_cons_self),
        squash_append fun d hd => hwords d (List.mem_cons_of_mem _ hd)]
      rfl

theorem squash_textOf (h : Named way) : squash false (textOf way) = underscored way := by
  induction way with
  | nil => rfl
  | cons hop way ih =>
      have hname (inRun : Bool) : squash inRun (hop.key ++ textOf way) = hop.key ++ squash false (textOf way) :=
        squash_name (named_cons.1 h).1 inRun
      have hunder : underscored (hop :: way) = '_' :: (hop.key ++ underscored way) := rfl
      rw [textOf_cons, hunder]
      split_ifs
      · show squash false ('[' :: ']' :: '.' :: (hop.key ++ textOf way)) = _
        rw [squash, if_neg (by decide), if_neg (by decide), squash, if_neg (by decide), if_pos rfl, squash,
          if_neg (by decide), if_pos rfl, hname, ih (named_cons.1 h).2]
      · show squash false ('.' :: (hop.key ++ textOf way)) = _
        rw [squash, if_neg (by decide), if_neg (by decide), hname, ih (named_cons.1 h).2]

theorem trimUnderscores_cons (cs : List Char) : trimUnderscores ('_' :: cs) = trimUnderscores cs := rfl

/-- **The variable of a way of names** is made of the names between underscores. -/
theorem shellVarName_pathOf (h : Named way) :
    shellVarName (pathOf way) = 'F' :: '_' :: trimUnderscores (underscored way) := by
  cases way with
  | nil => rfl
  | cons hop way =>
      have hname := (named_cons.1 h).1
      rw [pathOf_cons hname, shellVarName]
      split_ifs
      · rw [underscoreIndices_textOf h, squash_textOf h]
      · rw [underscoreIndices_append (words_of_isName hname), underscoreIndices_textOf (named_cons.1 h).2,
          squash_name hname, squash_textOf (named_cons.1 h).2]
        rfl

/-! ### The program -/

theorem dropRowDots_cons {c : Char} (hc : c ≠ '.') (cs : List Char) : dropRowDots (c :: cs) = c :: dropRowDots cs := by
  rw [dropRowDots]
  rintro rest rfl
  exact fun _ => hc rfl

theorem dropRowDots_append (h : ∀ c ∈ name, isWord c = true) :
    dropRowDots (name ++ rest) = name ++ dropRowDots rest := by
  induction name with
  | nil => rfl
  | cons c name ih =>
      have hc : c ≠ '.' := word_ne (h c List.mem_cons_self) (by decide)
      rw [List.cons_append, dropRowDots_cons hc, ih fun d hd => h d (List.mem_cons_of_mem _ hd)]
      rfl

theorem dropRowDots_textOf (h : Named way) : dropRowDots (textOf way) = textOf way := by
  induction way with
  | nil => rfl
  | cons hop way ih =>
      obtain ⟨hname, hway⟩ := named_cons.1 h
      have hkey : dropRowDots ('.' :: (hop.key ++ textOf way)) = '.' :: (hop.key ++ textOf way) := by
        obtain ⟨c, name, hcons⟩ := List.exists_cons_of_ne_nil (isName_ne_nil hname)
        have hc : c ≠ '[' := word_ne (words_of_isName hname c (hcons ▸ List.mem_cons_self)) (by decide)
        have hdot : dropRowDots ('.' :: (hop.key ++ textOf way)) = '.' :: dropRowDots (hop.key ++ textOf way) := by
          rw [hcons, List.cons_append, dropRowDots]
          rintro rest - hrest
          exact hc (List.cons.inj hrest).1
        rw [hdot, dropRowDots_append (words_of_isName hname), ih hway]
      rw [textOf_cons]
      split_ifs
      · show dropRowDots ('[' :: ']' :: '.' :: (hop.key ++ textOf way)) = _
        rw [dropRowDots_cons (by decide), dropRowDots_cons (by decide), hkey]
        rfl
      · exact hkey

theorem readSteps_word {c : Char} (hc : isWord c = true) (name cs : List Char) :
    readSteps (some name) (c :: cs) = readSteps (some (name ++ [c])) cs := by
  have hbracket : c ≠ '[' := word_ne hc (by decide)
  have hdot : c ≠ '.' := word_ne hc (by decide)
  rw [readSteps, if_pos hc]
  · exact fun _ h => absurd h hbracket
  · exact fun h => absurd h hdot

theorem readSteps_append {done : List Char} (h : ∀ c ∈ name, isWord c = true) :
    readSteps (some done) (name ++ rest) = readSteps (some (done ++ name)) rest := by
  induction name generalizing done with
  | nil => rw [List.append_nil, List.nil_append]
  | cons c name ih =>
      rw [List.cons_append, readSteps_word (h c List.mem_cons_self), ih fun d hd => h d (List.mem_cons_of_mem _ hd),
        List.append_assoc]
      rfl

/-- At the end of a name its step is done. -/
theorem readSteps_close (hname : isName name = true) (way : List Hop) :
    readSteps (some name) (textOf way) = (readSteps none (textOf way)).map (.key name :: ·) := by
  have hclose : closeName (some name) = some [.key name] := if_pos hname
  cases way with
  | nil => exact hclose
  | cons hop way =>
      rw [textOf_cons]
      split_ifs
      · show readSteps (some name) ('[' :: ']' :: '.' :: (hop.key ++ textOf way)) =
          (readSteps none ('[' :: ']' :: '.' :: (hop.key ++ textOf way))).map _
        rw [readSteps, readSteps, hclose, closeName]
        cases readSteps none ('.' :: (hop.key ++ textOf way)) <;> rfl
      · show readSteps (some name) ('.' :: (hop.key ++ textOf way)) =
          (readSteps none ('.' :: (hop.key ++ textOf way))).map _
        rw [readSteps, readSteps, hclose, closeName]
        simp

theorem readSteps_textOf (h : Named way) : readSteps none (textOf way) = some (stepsOf way) := by
  induction way with
  | nil => rfl
  | cons hop way ih =>
      obtain ⟨hname, hway⟩ := named_cons.1 h
      have hkey : readSteps none ('.' :: (hop.key ++ textOf way)) = some (.key hop.key :: stepsOf way) := by
        rw [readSteps, closeName, readSteps_append (words_of_isName hname), List.nil_append, readSteps_close hname,
          ih hway]
        rfl
      rw [textOf_cons, stepsOf_cons]
      split_ifs
      · show readSteps none ('[' :: ']' :: '.' :: (hop.key ++ textOf way)) = _
        rw [readSteps, closeName, hkey]
        rfl
      · exact hkey

theorem take_program (path : List Char) :
    (jqProgram path).take ((jqProgram path).length - " // empty".toList.length) = jqPathOf path := by
  rw [jqProgram, List.length_append, Nat.add_sub_cancel, List.take_left]

/-- **The program of a way of names** is read as the steps of the way. -/
theorem readProgram_pathOf (h : Named way) : readProgram (jqProgram (pathOf way)) = some (stepsOf way) := by
  have hsuffix : " // empty".toList.isSuffixOf (jqProgram (pathOf way)) = true :=
    List.isSuffixOf_iff_suffix.2 (List.suffix_append _ _)
  rw [readProgram, if_pos hsuffix, take_program]
  cases way with
  | nil => rfl
  | cons hop way =>
      obtain ⟨hname, hway⟩ := named_cons.1 h
      rw [pathOf_cons hname, jqPathOf]
      split_ifs with hrow
      · rw [dropRowDots_textOf h, ← readSteps_textOf h, textOf_cons, if_pos hrow]
        rfl
      · obtain ⟨c, name, hcons⟩ := List.exists_cons_of_ne_nil (isName_ne_nil hname)
        have hc : c ≠ '[' := word_ne (words_of_isName hname c (hcons ▸ List.mem_cons_self)) (by decide)
        rw [dropRowDots_append (words_of_isName hname), dropRowDots_textOf hway, ← readSteps_textOf h, textOf_cons,
          if_neg hrow, hcons, List.nil_append, List.cons_append, readPath]
        · exact fun h => nomatch h
        · rintro cs h
          exact hc (List.cons.inj (List.cons.inj h).2).1

end Texts

/-! ## The way to a candidate -/

/-- A value of `JSON.parse`: the fields of an object have different names. -/
inductive Parsed : Json → Prop
  | null : Parsed .null
  | bool (b : Bool) : Parsed (.bool b)
  | num (q : ℚ) : Parsed (.num q)
  | infinity (negative : Bool) : Parsed (.infinity negative)
  | str (s : List Char) : Parsed (.str s)
  | arr {items : List Json} (h : ∀ v ∈ items, Parsed v) : Parsed (.arr items)
  | obj {fields : List (List Char × Json)} (hnames : (fields.map Prod.fst).Nodup) (h : ∀ e ∈ fields, Parsed e.2) :
      Parsed (.obj fields)

structure Sample where
  value : Json
  parsed : Parsed value

/-- The node at the end of a way through fields, and through the first rows of arrays of objects. -/
def follow : List Hop → Json → Option Json
  | [], v => some v
  | hop :: way, v =>
      match hop.inRow, v with
      | true, .arr (.obj fields :: _) => (fields.lookup hop.key).bind (follow way)
      | false, .obj fields => (fields.lookup hop.key).bind (follow way)
      | _, _ => none

theorem follow_field (key : List Char) (way : List Hop) (fields : List (List Char × Json)) :
    follow (⟨false, key⟩ :: way) (.obj fields) = (fields.lookup key).bind (follow way) := rfl

theorem follow_row (key : List Char) (way : List Hop) (fields : List (List Char × Json)) (rest : List Json) :
    follow (⟨true, key⟩ :: way) (.arr (.obj fields :: rest)) = (fields.lookup key).bind (follow way) := rfl

section Ways
variable {way more : List Hop} {node v w : Json} {c : Candidate}

theorem lookup_of_mem {fields : List (List Char × Json)} (hnames : (fields.map Prod.fst).Nodup) {e : List Char × Json}
    (he : e ∈ fields) : fields.lookup e.1 = some e.2 := by
  obtain ⟨before, behind, rfl⟩ := List.append_of_mem he
  refine List.lookup_eq_some_iff.2 ⟨before, behind, rfl, fun x hx => ?_⟩
  rw [List.map_append, List.nodup_append] at hnames
  have hne := hnames.2.2 x.1 (List.mem_map_of_mem hx) e.1 (List.mem_map_of_mem List.mem_cons_self)
  simpa using Ne.symm hne

/-- The entries of an array have no names. -/
theorem not_isName_index (i : ℕ) : isName (toString i).toList = false := by
  cases hcons : (toString i).toList with
  | nil => rfl
  | cons d ds =>
      have hdigit : d.isDigit = true := isDigit_of_mem_decimal (hcons ▸ List.mem_cons_self)
      rw [isName, List.head?_cons, Option.any_some, hdigit]
      exact Bool.and_false _

theorem pathOf_append (way : List Hop) (hop : Hop) : pathOf (way ++ [hop]) = Hop.extend (pathOf way) hop := by
  rw [pathOf, List.foldl_append]
  rfl

/-- The entries of a row are parsed, and have names of their own where one of them is a name. -/
theorem rowEntries_spec {first : Json} {entries : List (List Char × Json)} (h : rowEntries first = some entries)
    (hparsed : Parsed first) {e : List Char × Json} (he : e ∈ entries) :
    Parsed e.2 ∧ (isName e.1 = true → first = .obj entries ∧ entries.lookup e.1 = some e.2) := by
  cases hparsed with
  | obj hnames hfields =>
      obtain rfl := Option.some.inj h
      exact ⟨hfields e he, fun _ => ⟨rfl, lookup_of_mem hnames he⟩⟩
  | arr hitems =>
      obtain rfl := Option.some.inj h
      obtain ⟨x, hx, rfl⟩ := List.mem_map.1 he
      refine ⟨hitems x.1 ?_, fun hname => ?_⟩
      · obtain ⟨v, i⟩ := x
        exact List.fst_mem_of_mem_zipIdx hx
      · rw [not_isName_index] at hname
        cases hname
  | null | bool _ | num _ | infinity _ | str _ => cases h

/-- **A candidate is the node at the end of its way**, where the keys of the way are names, and its path is the
way's. -/
theorem visit_spec : ∀ {left : ℕ} {node : Json} {path : List Char} {inArray : Bool} {way : List Hop} {c : Candidate},
    Parsed node → path = pathOf way → c ∈ visit left node path inArray way →
      c.path = pathOf c.way ∧ ∃ more, c.way = way ++ more ∧ (Named more → follow more node = some c.node) := by
  intro left
  induction left with
  | zero => exact fun _ _ h => nomatch h
  | succ left ih =>
      intro node path inArray way c hparsed hpath h
      have hleaf (hc : c ∈ [(⟨path, inArray, node, way⟩ : Candidate)]) :
          c.path = pathOf c.way ∧ ∃ more, c.way = way ++ more ∧ (Named more → follow more node = some c.node) := by
        obtain rfl := List.mem_singleton.1 hc
        exact ⟨hpath, [], (List.append_nil _).symm, fun _ => rfl⟩
      have hstep {hop : Hop} {child : Json} (hchild : Parsed child)
          (hfollow : ∀ more, isName hop.key = true → follow (hop :: more) node = follow more child)
          (hc : ∃ inRow, c ∈ visit left child (Hop.extend path hop) inRow (way ++ [hop])) :
          c.path = pathOf c.way ∧ ∃ more, c.way = way ++ more ∧ (Named more → follow more node = some c.node) := by
        obtain ⟨inRow, hc⟩ := hc
        obtain ⟨hp, more, hway, hmore⟩ := ih hchild (hpath ▸ (pathOf_append way hop).symm) hc
        refine ⟨hp, hop :: more, by rw [hway, List.append_assoc]; rfl, fun hnamed => ?_⟩
        obtain ⟨hname, hrest⟩ := named_cons.1 hnamed
        rw [hfollow more hname, hmore hrest]
      cases hparsed with
      | null | bool _ | num _ | infinity _ | str _ => exact hleaf h
      | obj hnames hfields =>
          obtain ⟨e, he, hc⟩ := List.mem_flatMap.1 h
          refine hstep (hfields e he) (fun more _ => ?_) ⟨_, hc⟩
          rw [follow_field, lookup_of_mem hnames he, Option.bind_some]
      | @arr items hitems =>
          cases items with
          | nil => exact hleaf h
          | cons first rest =>
              rw [visit] at h
              cases hentries : rowEntries first with
              | none =>
                  rw [hentries] at h
                  exact hleaf h
              | some entries =>
                  rw [hentries] at h
                  obtain ⟨e, he, hc⟩ := List.mem_flatMap.1 h
                  obtain ⟨hchild, hlookup⟩ :=
                    rowEntries_spec hentries (hitems first List.mem_cons_self) (List.mem_filter.1 he).1
                  refine hstep hchild (fun more hname => ?_) ⟨_, hc⟩
                  obtain ⟨rfl, hget⟩ := hlookup hname
                  rw [follow_row, hget, Option.bind_some]

theorem collect_head {f : Json → List Json × Bool} {others : List Json} {ok : Bool} (h : f v = (w :: others, ok))
    (vs : List Json) : ∃ others' ok', collect f (v :: vs) = (w :: others', ok') := by
  rw [collect, h]
  cases ok with
  | true => exact ⟨_, _, rfl⟩
  | false => exact ⟨_, _, rfl⟩

/-- The steps of a way reach its node first. -/
theorem outputs_of_follow : ∀ {way : List Hop} {v : Json}, follow way v = some w →
    ∃ others ok, outputs (stepsOf way) v = (w :: others, ok) := by
  intro way
  induction way with
  | nil => exact fun h => ⟨[], true, by rw [Option.some.inj h]; rfl⟩
  | cons hop way ih =>
      obtain ⟨inRow, key⟩ := hop
      have hfields {fields : List (List Char × Json)} (h : (fields.lookup key).bind (follow way) = some w) :
          ∃ others ok, outputs (.key key :: stepsOf way) (.obj fields) = (w :: others, ok) := by
        obtain ⟨child, hget, hchild⟩ := Option.bind_eq_some_iff.1 h
        obtain ⟨others, ok, hothers⟩ := ih hchild
        refine ⟨others, ok, ?_⟩
        rw [outputs, hget]
        exact hothers
      intro v h
      rw [stepsOf_cons]
      cases inRow with
      | false =>
          cases v with
          | obj fields => exact hfields h
          | null | bool _ | num _ | infinity _ | str _ | arr _ => cases h
      | true =>
          cases v with
          | null | bool _ | num _ | infinity _ | str _ | obj _ => cases h
          | arr items =>
              cases items with
              | nil => cases h
              | cons first rest =>
                  cases first with
                  | obj fields =>
                      obtain ⟨others, ok, hothers⟩ := hfields h
                      exact collect_head hothers rest
                  | null | bool _ | num _ | infinity _ | str _ | arr _ => cases h

end Ways

/-! ## What the extraction reads -/

def scalars (maxDepth maxFields : ℕ) (sample : Sample) : List Candidate :=
  (walkJson maxDepth maxFields sample.value).filter fun c => isScalar c.node

/-- Some of the scalar candidates of a sample. -/
structure Picked (maxDepth maxFields : ℕ) (sample : Sample) where
  chosen : List Candidate
  sub : chosen.Sublist (scalars maxDepth maxFields sample)

/-- Different variables, and programs that yield exactly the values of their leaves. -/
def Reads (jq : Jq) (sample : Sample) (chosen : List Candidate) : Prop :=
  (chosen.map fun c => shellVarName c.path).Nodup ∧ ∀ c ∈ chosen, jq.run (jqProgram c.path) sample.value = [c.node]

/-- What the steps of a candidate reach behind its leaf: the further rows, up to one that is no row. -/
def furtherRows (sample : Sample) (c : Candidate) : List Json := (outputs (stepsOf c.way) sample.value).1.tail

/-- The keys of the candidates differ but for underscores around them, no leaf is false or null, and no further
row has a value. -/
structure Readable (sample : Sample) (chosen : List Candidate) : Prop where
  apart : (chosen.map fun c => trimUnderscores (underscored c.way)).Nodup
  present : ∀ c ∈ chosen, present c.node = true
  alone : ∀ c ∈ chosen, ∀ v ∈ furtherRows sample c, Dashboard.present v = false

section Extraction
variable {maxDepth maxFields : ℕ} {sample : Sample}

theorem Picked.spec (picked : Picked maxDepth maxFields sample) {c : Candidate} (hc : c ∈ picked.chosen)
    (hnamed : Named c.way) : c.path = pathOf c.way ∧ follow c.way sample.value = some c.node := by
  have hvisit := List.mem_of_mem_take (List.mem_filter.1 (picked.sub.mem hc)).1
  obtain ⟨hpath, more, hway, hfollow⟩ := visit_spec sample.parsed (show [] = pathOf [] from rfl) hvisit
  rw [List.nil_append] at hway
  exact ⟨hpath, hway ▸ hfollow (hway ▸ hnamed)⟩

/-- What jq yields for a candidate whose keys are names: the leaf and the further rows, those present. -/
theorem run_eq (jq : Jq) (picked : Picked maxDepth maxFields sample) {c : Candidate} (hc : c ∈ picked.chosen)
    (hnamed : Named c.way) :
    jq.run (jqProgram c.path) sample.value = (c.node :: furtherRows sample c).filter present := by
  obtain ⟨hpath, hfollow⟩ := picked.spec hc hnamed
  obtain ⟨others, ok, hothers⟩ := outputs_of_follow hfollow
  rw [hpath, Jq.run, readProgram_pathOf hnamed]
  dsimp only
  rw [furtherRows, hothers, List.tail_cons]

theorem filter_eq_self_iff {v : Json} {vs : List Json} :
    (v :: vs).filter present = [v] ↔ present v = true ∧ ∀ w ∈ vs, present w = false := by
  have hnone : vs.filter present = [] ↔ ∀ w ∈ vs, present w = false := by
    rw [List.filter_eq_nil_iff]
    exact forall₂_congr fun w _ => Bool.not_eq_true _ ▸ Iff.rfl
  cases hv : present v with
  | true =>
      rw [List.filter_cons_of_pos hv, List.cons_inj_right, hnone]
      exact ⟨fun h => ⟨rfl, h⟩, fun h => h.2⟩
  | false =>
      rw [List.filter_cons_of_neg (by rw [hv]; decide)]
      refine iff_of_false (fun h => ?_) (fun h => nomatch h.1)
      have hmem := List.mem_filter.1 (h ▸ List.mem_cons_self : v ∈ vs.filter present)
      rw [hv] at hmem
      cases hmem.2

/-- **When the extraction reads what was picked**: among keys that are names, exactly when the keys differ but for
underscores around them, no leaf is false or null and no further row has a value. -/
theorem extraction_iff (jq : Jq) (picked : Picked maxDepth maxFields sample)
    (hnames : ∀ c ∈ picked.chosen, Named c.way) : Reads jq sample picked.chosen ↔ Readable sample picked.chosen := by
  have hvars : (picked.chosen.map fun c => shellVarName c.path) =
      (picked.chosen.map fun c => trimUnderscores (underscored c.way)).map fun name => 'F' :: '_' :: name := by
    rw [List.map_map]
    refine List.map_congr_left fun c hc => ?_
    rw [(picked.spec hc (hnames c hc)).1, shellVarName_pathOf (hnames c hc)]
    rfl
  have hinj : Function.Injective fun name : List Char => 'F' :: '_' :: name := fun a b h =>
    (List.cons.inj (List.cons.inj h).2).2
  have hnodup : (picked.chosen.map fun c => shellVarName c.path).Nodup ↔
      (picked.chosen.map fun c => trimUnderscores (underscored c.way)).Nodup := by
    rw [hvars, List.nodup_map_iff hinj]
  have hrun (c : Candidate) (hc : c ∈ picked.chosen) : jq.run (jqProgram c.path) sample.value = [c.node] ↔
      present c.node = true ∧ ∀ v ∈ furtherRows sample c, present v = false := by
    rw [run_eq jq picked hc (hnames c hc), filter_eq_self_iff]
  constructor
  · rintro ⟨hdistinct, hall⟩
    exact ⟨hnodup.1 hdistinct, fun c hc => ((hrun c hc).1 (hall c hc)).1, fun c hc => ((hrun c hc).1 (hall c hc)).2⟩
  · rintro ⟨hapart, hpresent, halone⟩
    exact ⟨hnodup.2 hapart, fun c hc => (hrun c hc).2 ⟨hpresent c hc, halone c hc⟩⟩

/-- `{"cpu": {"load": 3}, "rows": [{"k": 1}]}` -/
def loadSample : Sample where
  value := .obj [(['c', 'p', 'u'], .obj [(['l', 'o', 'a', 'd'], .num 3)]),
    (['r', 'o', 'w', 's'], .arr [.obj [(['k'], .num 1)]])]
  parsed := by
    refine .obj (by decide) fun e he => ?_
    simp only [List.mem_cons, List.not_mem_nil, or_false] at he
    rcases he with rfl | rfl
    · exact .obj (by decide) fun e he => List.mem_singleton.1 he ▸ .num 3
    · refine .arr fun v hv => List.mem_singleton.1 hv ▸ .obj (by decide) fun e he => ?_
      exact List.mem_singleton.1 he ▸ .num 1

theorem extraction_iff_load : Reads ⟨fun _ _ => []⟩ loadSample (scalars 6 200 loadSample) ↔
    Readable loadSample (scalars 6 200 loadSample) :=
  extraction_iff ⟨fun _ _ => []⟩ ⟨scalars 6 200 loadSample, List.Sublist.refl _⟩ (by decide)

end Extraction

/-! ## Keys without underscores -/

def keysOf (c : Candidate) : List (List Char) := c.way.map Hop.key

section Distinct
variable {left : ℕ} {path : List Char} {way : List Hop}

/-- The candidates below different entries have different keys. -/
theorem nodup_entries {entries : List (List Char × Json)} {inRow flag : Bool}
    (ih : ∀ {node : Json} {path : List Char} {inArray : Bool} {way : List Hop}, Parsed node → path = pathOf way →
      ((visit left node path inArray way).map keysOf).Nodup)
    (hkeys : (entries.map Prod.fst).Nodup) (hparsed : ∀ e ∈ entries, Parsed e.2) (hpath : path = pathOf way) :
    ((entries.flatMap fun e =>
      visit left e.2 (Hop.extend path ⟨inRow, e.1⟩) flag (way ++ [⟨inRow, e.1⟩])).map keysOf).Nodup := by
  have hext (key : List Char) : Hop.extend path ⟨inRow, key⟩ = pathOf (way ++ [⟨inRow, key⟩]) := by
    rw [hpath, pathOf_append]
  have hkey {e : List Char × Json} (he : e ∈ entries) {ks : List (List Char)}
      (h : ks ∈ (visit left e.2 (Hop.extend path ⟨inRow, e.1⟩) flag (way ++ [⟨inRow, e.1⟩])).map keysOf) :
      ∃ more, ks = way.map Hop.key ++ e.1 :: more := by
    obtain ⟨c, hc, rfl⟩ := List.mem_map.1 h
    obtain ⟨-, more, hway, -⟩ := visit_spec (hparsed e he) (hext e.1) hc
    exact ⟨more.map Hop.key, by rw [keysOf, hway]; simp⟩
  rw [List.map_flatMap, List.nodup_flatMap]
  refine ⟨fun e he => ih (hparsed e he) (hext e.1), ?_⟩
  refine (List.pairwise_map.1 hkeys).imp_of_mem fun {a b} ha hb hne => ?_
  intro ks hks hks'
  obtain ⟨more, hmore⟩ := hkey ha hks
  obtain ⟨more', hmore'⟩ := hkey hb hks'
  exact hne (List.cons.inj (List.append_cancel_left (hmore.symm.trans hmore'))).1

theorem nodup_rowEntries {first : Json} {entries : List (List Char × Json)} (h : rowEntries first = some entries)
    (hparsed : Parsed first) : (entries.map Prod.fst).Nodup := by
  cases hparsed with
  | obj hnames _ =>
      obtain rfl := Option.some.inj h
      exact hnames
  | arr _ =>
      obtain rfl := Option.some.inj h
      have hinj : Function.Injective fun i : ℕ => (toString i).toList := fun _ _ => decimal_inj
      rw [List.map_map, show (Prod.fst ∘ fun x : Json × ℕ => ((toString x.2).toList, x.1)) =
        (fun i : ℕ => (toString i).toList) ∘ Prod.snd from rfl, ← List.map_map, List.zipIdx_map_snd]
      exact (List.nodup_map_iff hinj).2 List.nodup_range'
  | null | bool _ | num _ | infinity _ | str _ => cases h

theorem nodup_keys : ∀ {left : ℕ} {node : Json} {path : List Char} {inArray : Bool} {way : List Hop}, Parsed node →
    path = pathOf way → ((visit left node path inArray way).map keysOf).Nodup := by
  intro left
  induction left with
  | zero => exact fun _ _ => List.nodup_nil
  | succ left ih =>
      intro node path inArray way hparsed hpath
      cases hparsed with
      | null | bool _ | num _ | infinity _ | str _ => exact List.nodup_singleton _
      | obj hnames hfields => exact nodup_entries ih hnames hfields hpath
      | @arr items hitems =>
          cases items with
          | nil => exact List.nodup_singleton _
          | cons first rest =>
              rw [visit]
              cases hentries : rowEntries first with
              | none => exact List.nodup_singleton _
              | some entries =>
                  have hfirst := hitems first List.mem_cons_self
                  have hsub : (entries.filter fun e => !isObject e.2).Sublist entries := List.filter_sublist
                  have hdistinct := (nodup_rowEntries hentries hfirst).sublist (hsub.map _)
                  refine nodup_entries ih hdistinct (fun e he => ?_) hpath
                  exact (rowEntries_spec hentries hfirst (hsub.mem he)).1

end Distinct

section Underscores
variable {key : List Char} {keys : List (List Char)}

def underscoredKeys (keys : List (List Char)) : List Char := keys.flatMap fun key => '_' :: key

theorem splitOn_underscoredKeys (hkey : '_' ∉ key) (hkeys : ∀ k ∈ keys, '_' ∉ k) :
    (key ++ underscoredKeys keys).splitOn '_' = key :: keys := by
  induction keys generalizing key with
  | nil => rw [underscoredKeys, List.flatMap_nil, List.append_nil, List.splitOn_eq_singleton hkey]
  | cons k keys ih =>
      have hcons : underscoredKeys (k :: keys) = '_' :: (k ++ underscoredKeys keys) := rfl
      rw [hcons, List.splitOn_append_cons_self_of_not_mem hkey, ih (hkeys k List.mem_cons_self) fun k' hk' =>
        hkeys k' (List.mem_cons_of_mem _ hk')]

/-- Around keys without underscores only the first underscore is trimmed. -/
theorem trim_underscoredKeys (hnames : ∀ k ∈ key :: keys, k ≠ [] ∧ '_' ∉ k) :
    trimUnderscores (underscoredKeys (key :: keys)) = key ++ underscoredKeys keys := by
  have hends : ∃ init c, key ++ underscoredKeys keys = init ++ [c] ∧ c ≠ '_' := by
    have hlast {k : List Char} (hk : k ∈ key :: keys) : ∃ init c, k = init ++ [c] ∧ c ≠ '_' := by
      obtain ⟨init, c, rfl⟩ := (List.eq_nil_or_concat' k).resolve_left (hnames k hk).1
      exact ⟨init, c, rfl, fun hc => (hnames _ hk).2 (hc ▸ List.mem_append_right _ List.mem_cons_self)⟩
    rcases List.eq_nil_or_concat' keys with rfl | ⟨ks, k, rfl⟩
    · obtain ⟨init, c, hc, hne⟩ := hlast List.mem_cons_self
      exact ⟨init, c, by rw [hc, underscoredKeys]; simp, hne⟩
    · obtain ⟨init, c, hc, hne⟩ := hlast (List.mem_cons_of_mem _ (List.mem_append_right _ List.mem_cons_self))
      refine ⟨key ++ underscoredKeys ks ++ '_' :: init, c, ?_, hne⟩
      rw [underscoredKeys, List.flatMap_append, hc]
      simp [underscoredKeys]
  obtain ⟨d, ds, hd⟩ := List.exists_cons_of_ne_nil (hnames key List.mem_cons_self).1
  have hfirst : d ≠ '_' := fun h => (hnames key List.mem_cons_self).2 (hd ▸ h ▸ List.mem_cons_self)
  obtain ⟨init, c, hc, hne⟩ := hends
  have hdrop : (key ++ underscoredKeys keys).dropWhile (fun c => decide (c = '_')) = key ++ underscoredKeys keys := by
    rw [hd, List.cons_append, List.dropWhile_cons_of_neg (by simpa using hfirst)]
  show trimUnderscores ('_' :: (key ++ underscoredKeys keys)) = _
  rw [trimUnderscores_cons, trimUnderscores, strip, hdrop, hc, List.reverse_append, List.reverse_singleton,
    List.singleton_append, List.dropWhile_cons_of_neg (by simpa using hne), List.reverse_cons,
    List.reverse_reverse]

theorem trim_underscoredKeys_inj {ks ks' : List (List Char)} (hks : ∀ k ∈ ks, k ≠ [] ∧ '_' ∉ k)
    (hks' : ∀ k ∈ ks', k ≠ [] ∧ '_' ∉ k)
    (h : trimUnderscores (underscoredKeys ks) = trimUnderscores (underscoredKeys ks')) : ks = ks' := by
  have hempty {key : List Char} {keys : List (List Char)} (hnames : ∀ k ∈ key :: keys, k ≠ [] ∧ '_' ∉ k) :
      trimUnderscores (underscoredKeys (key :: keys)) ≠ [] := by
    rw [trim_underscoredKeys hnames]
    exact fun hnil => (hnames key List.mem_cons_self).1 (List.append_eq_nil_iff.1 hnil).1
  cases ks with
  | nil =>
      cases ks' with
      | nil => rfl
      | cons k' ks' => exact absurd h.symm (hempty hks')
  | cons k ks =>
      cases ks' with
      | nil => exact absurd h (hempty hks)
      | cons k' ks' =>
          rw [trim_underscoredKeys hks, trim_underscoredKeys hks'] at h
          have htail : ∀ k ∈ ks, '_' ∉ k := fun k hk => (hks k (List.mem_cons_of_mem _ hk)).2
          rw [← splitOn_underscoredKeys (hks k List.mem_cons_self).2 htail, h,
            splitOn_underscoredKeys (hks' k' List.mem_cons_self).2 fun k hk => (hks' k (List.mem_cons_of_mem _ hk)).2]

end Underscores

/-- **Keys that are names without underscores never share a variable**, at any depth and through any rows. -/
theorem variables_distinct {maxDepth maxFields : ℕ} {sample : Sample} (picked : Picked maxDepth maxFields sample)
    (hnames : ∀ c ∈ picked.chosen, ∀ key ∈ keysOf c, isName key = true ∧ '_' ∉ key) :
    (picked.chosen.map fun c => shellVarName c.path).Nodup := by
  have hnamed (c : Candidate) (hc : c ∈ picked.chosen) : Named c.way := fun hop hhop =>
    (hnames c hc hop.key (List.mem_map_of_mem hhop)).1
  have hplain (c : Candidate) (hc : c ∈ picked.chosen) : ∀ k ∈ keysOf c, k ≠ [] ∧ '_' ∉ k := fun k hk =>
    ⟨isName_ne_nil (hnames c hc k hk).1, (hnames c hc k hk).2⟩
  have hkeys : (picked.chosen.map keysOf).Nodup := by
    have hwalk : ((visit (maxDepth + 1) sample.value [] false []).map keysOf).Nodup := nodup_keys sample.parsed rfl
    exact hwalk.sublist ((picked.sub.trans (List.filter_sublist.trans (List.take_sublist _ _))).map _)
  have hvars : (picked.chosen.map fun c => shellVarName c.path) =
      (picked.chosen.map keysOf).map fun ks => 'F' :: '_' :: trimUnderscores (underscoredKeys ks) := by
    rw [List.map_map]
    refine List.map_congr_left fun c hc => ?_
    rw [(picked.spec hc (hnamed c hc)).1, shellVarName_pathOf (hnamed c hc), Function.comp_apply, underscored,
      underscoredKeys, keysOf, List.flatMap_map]
  rw [hvars]
  refine hkeys.map_on fun ks hks ks' hks' h => ?_
  obtain ⟨c, hc, rfl⟩ := List.mem_map.1 hks
  obtain ⟨c', hc', rfl⟩ := List.mem_map.1 hks'
  exact trim_underscoredKeys_inj (hplain c hc) (hplain c' hc') (List.cons.inj (List.cons.inj h).2).2

theorem variables_distinct_load : ((scalars 6 200 loadSample).map fun c => shellVarName c.path).Nodup :=
  variables_distinct ⟨scalars 6 200 loadSample, List.Sublist.refl _⟩ (by decide)

end Obliance.Dashboard
