import Mathlib.Data.List.Infix
import Obliance.Agent.Updates
import Obliance.Lib.AsciiCase

/-!
# The uids of updates (`src/agent/updates.go`)

The agent reports an update under a uid, and the server sends the uid back to have it installed.

* `sanitizeUID` : the slug of a text; `sanitizeUID_eq_self_iff` : the texts that are their own;
* `scanChocolateyUpdates`, `scanWingetUpdates` : the packages that the two managers list, as updates;
* `installUpdate` : what is asked of the package managers;
* `installUpdate_iff` : when the package that was found is asked for.
-/

namespace Obliance.Agent.Uids
open Numerals
open Obliance.Updates (ReportedUpdate)

abbrev Text := List Char

/-- `unicode.ToLower` and `unicode.ToUpper`. -/
structure LetterCase where
  lower : Char → Char
  upper : Char → Char
  lower_plain : ∀ c, c.isLower = true ∨ c.isDigit = true ∨ c = '-' → lower c = c

/-! ## Slugs -/

def isSlugChar (c : Char) : Bool := c.isLower || c.isDigit

/-- `strings.Contains(slug, "--")` -/
def hasDashes : Text → Bool
  | '-' :: '-' :: _ => true
  | _ :: cs => hasDashes cs
  | [] => false

/-- `strings.ReplaceAll(slug, "--", "-")` -/
def replaceDashes : Text → Text
  | '-' :: '-' :: cs => '-' :: replaceDashes cs
  | c :: cs => c :: replaceDashes cs
  | [] => []

theorem length_replaceDashes_le (s : Text) : (replaceDashes s).length ≤ s.length := by
  fun_induction replaceDashes s with
  | case1 cs ih =>
      rw [List.length_cons, List.length_cons, List.length_cons]
      omega
  | case2 c cs _ ih => exact Nat.succ_le_succ ih
  | case3 => exact le_rfl

theorem length_replaceDashes_lt {s : Text} (h : hasDashes s = true) : (replaceDashes s).length < s.length := by
  fun_induction hasDashes s with
  | case1 cs =>
      have hcs := length_replaceDashes_le cs
      rw [replaceDashes, List.length_cons, List.length_cons, List.length_cons]
      omega
  | case2 c cs hno ih =>
      rw [replaceDashes.eq_2 c cs hno]
      exact Nat.succ_lt_succ (ih h)
  | case3 => cases h

/-- The loop over `replaceDashes`. -/
def collapseDashes (s : Text) : Text := if _h : hasDashes s = true then collapseDashes (replaceDashes s) else s
termination_by s.length
decreasing_by exact length_replaceDashes_lt _h

def sanitizeUID (u : LetterCase) (title : Text) : Text :=
  let slug := (title.map u.lower).map fun r => if isSlugChar r then r else '-'
  (strip (fun c => decide (c = '-')) (collapseDashes slug)).take 64

/-! ## What is found -/

/-- A package of a package manager, and the update that is reported for it. -/
structure Found where
  package : Text
  update : ReportedUpdate

def arrow : Text := [' ', '→', ' ']

def applicationUpdate (uid title source : Text) : ReportedUpdate where
  updateUid := String.ofList uid
  title := some (String.ofList title)
  description := none
  severity := some "moderate"
  category := some "Application"
  source := some (String.ofList source)
  sizeBytes := none
  requiresReboot := some false

def chocoPrefix : Text := ['c', 'h', 'o', 'c', 'o', '-']

/-- A line `packagename|currentVersion|newVersion|isPinned`, of `SplitN(line, "|", 4)`. -/
def chocoUpdate (u : LetterCase) (line : Text) : Option Found :=
  match (strip isGoSpace line).splitOn '|' with
  | name :: _ :: available :: rest =>
      let name := strip isGoSpace name
      let available := strip isGoSpace available
      let isPinned := strip isGoSpace (['|'].intercalate rest)
      if name = [] ∨ available = [] ∨ isPinned.map Char.toLower = ['t', 'r', 'u', 'e'] then none
      else some ⟨name, applicationUpdate (sanitizeUID u (chocoPrefix ++ name)) (name ++ arrow ++ available)
        "chocolatey".toList⟩
  | _ => none

def scanChocolateyUpdates (u : LetterCase) (out : Text) : List Found :=
  ((strip isGoSpace out).splitOn '\n').filterMap (chocoUpdate u)

/-! ### winget -/

/-- A sequence `ESC [ … letter` goes; `inSequence` behind its bracket. -/
def stripANSI : Bool → Text → Text
  | _, [] => []
  | true, c :: cs => stripANSI (!c.isAlpha) cs
  | false, '\x1b' :: '[' :: cs => stripANSI true cs
  | false, c :: cs => c :: stripANSI false cs

/-- Both replacements of carriage returns. -/
def unixLines : Text → Text
  | '\r' :: '\n' :: cs => '\n' :: unixLines cs
  | '\r' :: cs => '\n' :: unixLines cs
  | c :: cs => c :: unixLines cs
  | [] => []

/-- `strings.Index`, in bytes. -/
def indexOf (pattern : Text) : Text → Option ℕ
  | [] => if pattern = [] then some 0 else none
  | c :: cs => if pattern <+: c :: cs then some 0 else (indexOf pattern cs).map (· + c.utf8Size)

/-- A line of at least 21 dashes and blanks. -/
def isSeparator (line : Text) : Bool :=
  decide (20 < line.length) && line.all fun c => decide (c ∈ ['-', ' ', '\t'])

/-- `runeSlice`, which panics when `end` is before `start`. -/
def runeSlice (runes : Text) (start stop : Option ℕ) : Option Text :=
  match start with
  | none => some []
  | some i =>
      if runes.length ≤ i then some []
      else
        match stop with
        | some j =>
            if j = 0 ∨ runes.length < j then some (strip isGoSpace (runes.drop i))
            else if j < i then none
            else some (strip isGoSpace ((runes.take j).drop i))
        | none => some (strip isGoSpace (runes.drop i))

/-- The words of `MyAppName`. -/
def camelWords : Text → Text → List Text
  | word, [] => if word = [] then [] else [word]
  | word, c :: cs => if c.isUpper ∧ word ≠ [] then word :: camelWords [c] cs else camelWords (word ++ [c]) cs

def prettifyWingetID (id : Text) : Text :=
  let id := match indexOf ['-'] id with
    | some i => if i < 20 then (id.dropWhile fun c => decide (c ≠ '-')).tail else id
    | none => id
  let parts := id.splitOn '.'
  let product := if 2 < parts.length then parts.drop 1 else parts
  let named := product.takeWhile fun p => !(p.head?.any Char.isDigit)
  let result := [' '].intercalate (named.map fun p => [' '].intercalate (camelWords [] p))
  if result = [] then id else result

/-- The offsets of the columns in the header. -/
structure Columns where
  name : ℕ
  id : Option ℕ
  version : Option ℕ
  available : ℕ
  source : Option ℕ

/-- The rows behind the separator, with the columns of the header before it. -/
def wingetTable (out : Text) : Option (Columns × List Text) :=
  let lines := (unixLines (stripANSI false out)).splitOn '\n'
  let sepIdx := lines.findIdx isSeparator
  if sepIdx = 0 ∨ lines.length - 1 ≤ sepIdx then none
  else
    let header := lines.getD (sepIdx - 1) []
    match indexOf "Name".toList header, indexOf "Available".toList header with
    | some name, some available => some
        (⟨name, indexOf "Id".toList header, indexOf "Version".toList header, available,
          indexOf "Source".toList header⟩, lines.drop (sepIdx + 1))
    | _, _ => none

/-- A row of winget. -/
structure WingetRow where
  name : Text
  id : Text
  available : Text
  source : Text

/-- A row that is reported, none when it is passed over; the outer `none` is a panic. -/
def wingetRow (u : LetterCase) (cols : Columns) (line : Text) : Option (Option WingetRow) :=
  if line.length ≤ cols.available then some none
  else do
    let name ← runeSlice line (some cols.name) cols.id
    let id ← runeSlice line cols.id cols.version
    let available ← runeSlice line (some cols.available) cols.source
    if available = [] ∨ name = "Name".toList then return none
    let name := if name = [] then id else name
    if "upgrade".toList <:+: name.map u.lower ∧ '.' ∈ name then return none
    let source := strip isGoSpace (line.drop (cols.source.getD line.length))
    return some ⟨name, id, available, if source = [] then "winget".toList else source⟩

def wingetUpdate (u : LetterCase) (row : WingetRow) : Found :=
  let uid := if sanitizeUID u row.id = [] then sanitizeUID u row.name else sanitizeUID u row.id
  let displayName := if 2 ≤ row.name.count '.' ∧ ' ' ∉ row.name then prettifyWingetID row.name else row.name
  ⟨row.id, applicationUpdate uid (displayName ++ arrow ++ row.available) row.source⟩

def scanWingetUpdates (u : LetterCase) (out : Text) : Option (List Found) :=
  match wingetTable out with
  | none => some []
  | some (cols, lines) => (lines.mapM (wingetRow u cols)).map fun rows => (rows.filterMap id).map (wingetUpdate u)

/-! ## What is installed -/

/-- What is asked of a package manager. -/
inductive Request where
  | choco (package : Text)
  | winget (id : Text)
  /-- The article for PSWindowsUpdate, and its number for the COM interface. -/
  | windowsUpdate (article number : Text)
  | softwareUpdate (label : Text)
  /-- The first of apt, dnf and yum that is installed. -/
  | linux (package : Text)
  | pkg (package : Text)
  deriving DecidableEq

/-- `strings.TrimPrefix` -/
def trimPrefix (pre s : Text) : Text := if pre <+: s then s.drop pre.length else s

def installChocolateyUpdate (pkgName : Text) : Request := .choco (trimPrefix chocoPrefix pkgName)

def installWingetUpdate (pkgID : Text) : Request := .winget pkgID

def installWindowsKBUpdate (u : LetterCase) (updateUID : Text) : Request :=
  let kbID := if ['K', 'B'] <+: updateUID.map u.upper then updateUID else 'K' :: 'B' :: updateUID
  .windowsUpdate kbID (trimPrefix ['K', 'B'] (kbID.map u.upper))

def installWindowsUpdate (u : LetterCase) (updateUID source : Text) : Request :=
  if source = "chocolatey".toList then installChocolateyUpdate updateUID
  else if source = "winget".toList then installWingetUpdate updateUID
  else installWindowsKBUpdate u updateUID

inductive Platform where
  | windows
  | linux
  | darwin
  | freebsd

/-- `InstallUpdate`, up to the command that it runs. -/
def installUpdate (u : LetterCase) (p : Platform) (updateUID source : Text) : Request :=
  match p with
  | .windows => installWindowsUpdate u updateUID source
  | .linux => .linux updateUID
  | .darwin => .softwareUpdate updateUID
  | .freebsd => .pkg updateUID

/-- The install of a reported update, under the uid and the source that the server sends back. -/
def installFound (u : LetterCase) (f : Found) : Request :=
  installUpdate u .windows f.update.updateUid.toList (f.update.source.getD "").toList

/-! ## The texts that are their own slug -/

/-- Lower-case letters and digits, with single dashes between them. -/
structure Slug (maxLength : ℕ) (s : Text) : Prop where
  chars : ∀ c ∈ s, isSlugChar c = true ∨ c = '-'
  dashes : hasDashes s = false
  head : s.head? ≠ some '-'
  last : s.getLast? ≠ some '-'
  length : s.length ≤ maxLength

section Dashes
variable {s a b : Text} {c : Char}

theorem hasDashes_cons (c : Char) (s : Text) :
    hasDashes (c :: s) = (decide (c = '-' ∧ s.head? = some '-') || hasDashes s) := by
  by_cases hfirst : c = '-' ∧ s.head? = some '-'
  · obtain ⟨rfl, hhead⟩ := hfirst
    obtain ⟨tail, rfl⟩ := List.head?_eq_some_iff.1 hhead
    rw [hasDashes.eq_1, decide_eq_true ⟨rfl, rfl⟩, Bool.true_or]
  · have hno : ∀ tail, c = '-' → s = '-' :: tail → False := fun tail hc hs => hfirst ⟨hc, hs ▸ rfl⟩
    rw [hasDashes.eq_2 c s hno, decide_eq_false hfirst, Bool.false_or]

theorem hasDashes_eq_true_iff : hasDashes s = true ↔ ['-', '-'] <:+: s := by
  induction s with
  | nil => exact ⟨fun h => (nomatch h), fun h => absurd h.length_le (by decide)⟩
  | cons c s ih =>
      rw [hasDashes_cons, Bool.or_eq_true_iff, decide_eq_true_eq, ih, List.infix_cons_iff]
      refine or_congr_left ⟨fun ⟨hc, hs⟩ => ?_, fun ⟨tail, htail⟩ => ?_⟩
      · obtain ⟨tail, rfl⟩ := List.head?_eq_some_iff.1 hs
        exact ⟨tail, by rw [hc]; rfl⟩
      · obtain ⟨rfl, rfl⟩ := List.cons.inj htail
        exact ⟨rfl, rfl⟩

theorem hasDashes_infix (h : a <:+: s) (hs : hasDashes s = false) : hasDashes a = false := by
  rw [← Bool.not_eq_true, hasDashes_eq_true_iff] at hs ⊢
  exact fun hin => hs (hin.trans h)

theorem mem_replaceDashes (h : c ∈ replaceDashes s) : c ∈ s := by
  fun_induction replaceDashes s with
  | case1 cs ih =>
      rcases List.mem_cons.1 h with rfl | h
      · exact List.mem_cons_self
      · exact List.mem_cons_of_mem _ (List.mem_cons_of_mem _ (ih h))
  | case2 d cs _ ih =>
      rcases List.mem_cons.1 h with rfl | h
      · exact List.mem_cons_self
      · exact List.mem_cons_of_mem _ (ih h)
  | case3 => exact h

/-- The loop ends without double dashes, and adds no character. -/
theorem collapseDashes_spec (s : Text) :
    hasDashes (collapseDashes s) = false ∧ ∀ c ∈ collapseDashes s, c ∈ s := by
  fun_induction collapseDashes s with
  | case1 s _ ih => exact ⟨ih.1, fun c hc => mem_replaceDashes (ih.2 c hc)⟩
  | case2 s hno => exact ⟨Bool.not_eq_true _ ▸ hno, fun c hc => hc⟩

theorem collapseDashes_self (h : hasDashes s = false) : collapseDashes s = s := by
  rw [collapseDashes, dif_neg (by rw [h]; decide)]

end Dashes

section Strip
variable {blank : Char → Bool} {s : Text}

theorem head?_dropWhile_not : ∀ c ∈ (s.dropWhile blank).head?, blank c = false := by
  intro c hc
  have hnot := List.head?_dropWhile_not blank s
  rw [Option.mem_def.1 hc] at hnot
  exact hnot

theorem strip_prefix (blank : Char → Bool) (s : Text) : strip blank s <+: s.dropWhile blank := by
  rw [strip, ← List.reverse_suffix, List.reverse_reverse]
  exact List.dropWhile_suffix _

theorem strip_part (blank : Char → Bool) (s : Text) : strip blank s <:+: s := by
  obtain ⟨a, b, -, -, h⟩ := strip_between blank s
  exact ⟨a, b, by rw [List.append_assoc]; exact h.symm⟩

theorem head?_strip : ∀ c ∈ (strip blank s).head?, blank c = false := by
  intro c hc
  obtain ⟨tail, htail⟩ := List.head?_eq_some_iff.1 (Option.mem_def.1 hc)
  obtain ⟨rest, hrest⟩ := strip_prefix blank s
  refine head?_dropWhile_not (s := s) c ?_
  rw [← hrest, htail]
  rfl

theorem getLast?_strip : ∀ c ∈ (strip blank s).getLast?, blank c = false := by
  intro c hc
  rw [strip, List.getLast?_reverse] at hc
  exact head?_dropWhile_not c hc

theorem dropWhile_self (h : ∀ c ∈ s.head?, blank c = false) : s.dropWhile blank = s := by
  cases s with
  | nil => rfl
  | cons c s => exact List.dropWhile_cons_of_neg (by rw [h c rfl]; decide)

/-- A text that neither begins nor ends with a blank is left. -/
theorem strip_self (hhead : ∀ c ∈ s.head?, blank c = false) (hlast : ∀ c ∈ s.getLast?, blank c = false) :
    strip blank s = s := by
  rw [strip, dropWhile_self hhead, dropWhile_self, List.reverse_reverse]
  rw [List.head?_reverse]
  exact hlast

end Strip

section Slugs
variable {u : LetterCase} {s name : Text} {n : ℕ}

/-- The characters of a slug, before the dashes are treated. -/
theorem slugged_chars : ∀ c ∈ (s.map u.lower).map (fun r => if isSlugChar r then r else '-'),
    isSlugChar c = true ∨ c = '-' := by
  intro c hc
  obtain ⟨r, -, rfl⟩ := List.mem_map.1 hc
  split_ifs with hr
  · exact .inl hr
  · exact .inr rfl

theorem slugged_self (h : ∀ c ∈ s, isSlugChar c = true ∨ c = '-') :
    (s.map u.lower).map (fun r => if isSlugChar r then r else '-') = s := by
  rw [List.map_map]
  refine (List.map_congr_left fun c hc => ?_).trans (List.map_id s)
  have hlower : u.lower c = c := by
    refine u.lower_plain c ?_
    rcases h c hc with hchar | hdash
    · rw [isSlugChar, Bool.or_eq_true] at hchar
      exact hchar.imp id .inl
    · exact .inr (.inr hdash)
  rw [Function.comp_apply, hlower]
  split_ifs with hchar
  · rfl
  · exact ((h c hc).resolve_left hchar).symm

/-- What a uid is: a slug, but for a dash where it was cut. -/
theorem sanitizeUID_spec (u : LetterCase) (title : Text) :
    (∀ c ∈ sanitizeUID u title, isSlugChar c = true ∨ c = '-') ∧ hasDashes (sanitizeUID u title) = false ∧
      (sanitizeUID u title).head? ≠ some '-' ∧ (sanitizeUID u title).length ≤ 64 := by
  obtain ⟨hdashes, hmem⟩ :=
    collapseDashes_spec ((title.map u.lower).map fun r => if isSlugChar r then r else '-')
  rw [sanitizeUID]
  generalize collapseDashes _ = slug at hdashes hmem ⊢
  have hprefix := List.take_prefix 64 (strip (fun c => decide (c = '-')) slug)
  have hpart := hprefix.isInfix.trans (strip_part _ slug)
  refine ⟨fun c hc => slugged_chars c (hmem c (hpart.subset hc)), hasDashes_infix hpart hdashes, fun hhead => ?_,
    List.length_take_le _ _⟩
  obtain ⟨tail, htail⟩ := List.head?_eq_some_iff.1 hhead
  obtain ⟨rest, hrest⟩ := hprefix
  have hfirst : (strip (fun c => decide (c = '-')) slug).head? = some '-' := by
    rw [← hrest, htail]
    rfl
  exact absurd (head?_strip '-' hfirst) (by decide)

theorem strip_dashes_self (hhead : s.head? ≠ some '-') (hlast : s.getLast? ≠ some '-') :
    strip (fun c => decide (c = '-')) s = s := by
  refine strip_self (fun c hc => decide_eq_false fun h => hhead ?_) (fun c hc => decide_eq_false fun h => hlast ?_)
  · rw [Option.mem_def.1 hc, h]
  · rw [Option.mem_def.1 hc, h]

theorem sanitizeUID_plain (hchars : ∀ c ∈ s, isSlugChar c = true ∨ c = '-') (hdashes : hasDashes s = false) :
    sanitizeUID u s = (strip (fun c => decide (c = '-')) s).take 64 := by
  rw [sanitizeUID, slugged_self hchars, collapseDashes_self hdashes]

/-- The texts that are their own uid. -/
theorem sanitizeUID_eq_self_iff : sanitizeUID u s = s ↔ Slug 64 s := by
  constructor
  · intro h
    obtain ⟨hchars, hdashes, hhead, hlength⟩ := sanitizeUID_spec u s
    rw [h] at hchars hdashes hhead hlength
    refine ⟨hchars, hdashes, hhead, fun hlast => ?_, hlength⟩
    -- nothing can have been trimmed
    rw [sanitizeUID_plain hchars hdashes] at h
    have hle : s.length ≤ (strip (fun c => decide (c = '-')) s).length := by
      have htake := List.length_take_le' 64 (strip (fun c => decide (c = '-')) s)
      rwa [h] at htake
    have hself := (strip_part (fun c => decide (c = '-')) s).eq_of_length_le hle
    rw [← hself] at hlast
    exact absurd (getLast?_strip '-' hlast) (by decide)
  · intro h
    rw [sanitizeUID_plain h.chars h.dashes, strip_dashes_self h.head h.last, List.take_of_length_le h.length]

end Slugs

/-! ## The way back -/

section Back
variable {u : LetterCase} {name id : Text}

theorem slug_choco_iff (hne : name ≠ []) : Slug 64 (chocoPrefix ++ name) ↔ Slug 58 name := by
  have hlast : (chocoPrefix ++ name).getLast? = name.getLast? := List.getLast?_append_of_ne_nil _ hne
  have hlength : (chocoPrefix ++ name).length = 6 + name.length := List.length_append
  constructor
  · intro h
    refine ⟨fun c hc => h.chars c (List.mem_append_right _ hc),
      hasDashes_infix (List.suffix_append _ _).isInfix h.dashes, fun hhead => ?_, hlast ▸ h.last, ?_⟩
    · obtain ⟨tail, rfl⟩ := List.head?_eq_some_iff.1 hhead
      have hdashes : hasDashes (chocoPrefix ++ '-' :: tail) = true :=
        hasDashes_eq_true_iff.2 ⟨['c', 'h', 'o', 'c', 'o'], tail, rfl⟩
      rw [h.dashes] at hdashes
      cases hdashes
    · have hmax := h.length
      omega
  · intro h
    refine ⟨fun c hc => ?_, ?_, fun hhead => ?_, hlast.symm ▸ h.last, ?_⟩
    · rcases List.mem_append.1 hc with hc | hc
      · have hall : ∀ c ∈ chocoPrefix, isSlugChar c = true ∨ c = '-' := List.all_iff_forall_prop.1 (by decide)
        exact hall c hc
      · exact h.chars c hc
    · have hhead : ¬ name.head? = some '-' := h.head
      have hdashes := h.dashes
      change hasDashes ('c' :: 'h' :: 'o' :: 'c' :: 'o' :: '-' :: name) = false
      simp [hasDashes_cons, hhead, hdashes]
    · exact absurd (Option.some.inj hhead) (by decide)
    · have hmax := h.length
      omega

/-- The prefix of a uid is not trimmed away, as the name does not begin with a dash. -/
theorem prefix_strip {c : Char} (hc : c ≠ '-') (rest : Text) :
    chocoPrefix <+: strip (fun c => decide (c = '-')) (chocoPrefix ++ c :: rest) := by
  obtain ⟨a, b, ha, hb, h⟩ := strip_between (fun c => decide (c = '-')) (chocoPrefix ++ c :: rest)
  have hnil : a = [] := by
    cases a with
    | nil => rfl
    | cons d a =>
        have hd := ha d List.mem_cons_self
        rw [← (List.cons.inj h).1] at hd
        exact absurd hd (by decide)
  rw [hnil, List.nil_append] at h
  rcases List.append_eq_append_iff.1 h with ⟨tail, htail, -⟩ | ⟨tail, -, htail⟩
  · exact ⟨tail, htail.symm⟩
  · have hmem : c ∈ b := htail ▸ List.mem_append_right _ List.mem_cons_self
    exact absurd (of_decide_eq_true (hb c hmem)) hc

theorem trimPrefix_append (pre s : Text) : trimPrefix pre (pre ++ s) = s := by
  rw [trimPrefix, if_pos (List.prefix_append _ _), List.drop_left]

/-- Chocolatey is asked for the package exactly where the name is a slug that is not cut. -/
theorem trimPrefix_sanitizeUID_iff (hne : name ≠ []) :
    trimPrefix chocoPrefix (sanitizeUID u (chocoPrefix ++ name)) = name ↔ Slug 58 name := by
  rw [← slug_choco_iff hne]
  constructor
  · intro h
    by_cases hprefix : chocoPrefix <+: sanitizeUID u (chocoPrefix ++ name)
    · obtain ⟨rest, hrest⟩ := hprefix
      rw [← hrest, trimPrefix_append] at h
      rw [← sanitizeUID_eq_self_iff (u := u), ← hrest, h]
    · -- a uid without the prefix would be the name, and then it has the prefix
      rw [trimPrefix, if_neg hprefix] at h
      obtain ⟨hchars, hdashes, hhead, -⟩ := sanitizeUID_spec u (chocoPrefix ++ name)
      rw [h] at hchars hdashes hhead
      obtain ⟨c, rest, rfl⟩ := List.exists_cons_of_ne_nil hne
      have hc : c ≠ '-' := fun heq => hhead (congrArg some heq)
      have hdash : ¬ (some c = some '-') := fun heq => hc (Option.some.inj heq)
      have hplain : ∀ c' ∈ chocoPrefix ++ c :: rest, isSlugChar c' = true ∨ c' = '-' := fun c' hc' => by
        rcases List.mem_append.1 hc' with hc' | hc'
        · have hall : ∀ c ∈ chocoPrefix, isSlugChar c = true ∨ c = '-' := List.all_iff_forall_prop.1 (by decide)
          exact hall c' hc'
        · exact hchars c' hc'
      have hsingle : hasDashes (chocoPrefix ++ c :: rest) = false := by
        change hasDashes ('c' :: 'h' :: 'o' :: 'c' :: 'o' :: '-' :: c :: rest) = false
        rw [hasDashes_cons, hasDashes_cons, hasDashes_cons, hasDashes_cons, hasDashes_cons, hasDashes_cons, hdashes]
        simp [hc]
      refine absurd ?_ hprefix
      rw [sanitizeUID_plain hplain hsingle, List.prefix_take_iff]
      exact ⟨prefix_strip hc rest, by decide⟩
  · intro h
    rw [sanitizeUID_eq_self_iff.2 h, trimPrefix_append]

/-- winget is asked for the id exactly where it is a slug, also where the uid falls back to the name. -/
theorem wingetUid_iff (hne : id ≠ []) :
    (if sanitizeUID u id = [] then sanitizeUID u name else sanitizeUID u id) = id ↔ Slug 64 id := by
  split_ifs with hempty
  · refine ⟨fun h => ?_, fun h => absurd ((sanitizeUID_eq_self_iff.2 h).symm.trans hempty) hne⟩
    obtain ⟨hchars, hdashes, hhead, -⟩ := sanitizeUID_spec u name
    rw [h] at hchars hdashes hhead
    rw [sanitizeUID_plain hchars hdashes, List.take_eq_nil_iff, or_iff_right (by decide)] at hempty
    obtain ⟨c, rest, rfl⟩ := List.exists_cons_of_ne_nil hne
    obtain ⟨a, b, ha, hb, hsplit⟩ := strip_between (fun c => decide (c = '-')) (c :: rest)
    rw [hempty, List.nil_append] at hsplit
    have hc : decide (c = '-') = true := by
      have hmem : c ∈ a ++ b := hsplit ▸ List.mem_cons_self
      exact (List.mem_append.1 hmem).elim (ha c) (hb c)
    exact absurd (congrArg some (of_decide_eq_true hc)) hhead
  · exact sanitizeUID_eq_self_iff

theorem installFound_choco {title : Text} (hne : name ≠ []) :
    installFound u ⟨name, applicationUpdate (sanitizeUID u (chocoPrefix ++ name)) title "chocolatey".toList⟩ =
      .choco name ↔ Slug 58 name := by
  rw [← trimPrefix_sanitizeUID_iff (u := u) hne, installFound, applicationUpdate, String.toList_ofList,
    Option.getD_some, String.toList_ofList, installUpdate, installWindowsUpdate, if_pos rfl, installChocolateyUpdate,
    Request.choco.injEq]

theorem found_of_chocoUpdate {line : Text} {f : Found} (h : chocoUpdate u line = some f) : ∃ name title,
    name ≠ [] ∧ f = ⟨name, applicationUpdate (sanitizeUID u (chocoPrefix ++ name)) title "chocolatey".toList⟩ := by
  unfold chocoUpdate at h
  split at h
  · dsimp only at h
    split_ifs at h with hskip
    exact ⟨_, _, fun hempty => hskip (.inl hempty), (Option.some.inj h).symm⟩
  · cases h

theorem installFound_winget (row : WingetRow) (hne : row.id ≠ []) :
    installFound u (wingetUpdate u row) = .winget row.id ↔ row.source = "winget".toList ∧ Slug 64 row.id := by
  have hrequest : installFound u (wingetUpdate u row) = installWindowsUpdate u
      (if sanitizeUID u row.id = [] then sanitizeUID u row.name else sanitizeUID u row.id) row.source := by
    rw [installFound, wingetUpdate, applicationUpdate, String.toList_ofList, Option.getD_some, String.toList_ofList]
    rfl
  rw [hrequest, installWindowsUpdate, ← @wingetUid_iff u row.name row.id hne]
  by_cases hchoco : row.source = "chocolatey".toList
  · rw [if_pos hchoco]
    refine iff_of_false (fun h => nomatch h) fun h => ?_
    exact absurd (hchoco.symm.trans h.1) (by decide)
  · rw [if_neg hchoco]
    by_cases hwinget : row.source = "winget".toList
    · rw [if_pos hwinget, installWingetUpdate, Request.winget.injEq]
      exact ⟨fun h => ⟨hwinget, h⟩, fun h => h.2⟩
    · rw [if_neg hwinget]
      exact iff_of_false (fun h => nomatch h) fun h => hwinget h.1

theorem row_of_scanWinget {out : Text} {f : Found} (h : f ∈ (scanWingetUpdates u out).getD []) :
    ∃ row, f = wingetUpdate u row := by
  unfold scanWingetUpdates at h
  split at h
  · cases h
  · next cols lines _ =>
      cases hrows : lines.mapM (wingetRow u cols) with
      | none =>
          rw [hrows] at h
          cases h
      | some rows =>
          rw [hrows, Option.map_some, Option.getD_some] at h
          obtain ⟨row, -, rfl⟩ := List.mem_map.1 h
          exact ⟨row, rfl⟩

end Back

/-- **A uid leads back to its package** where the package's name is a slug, and nowhere else: of every output of the
two managers, the package that is reported is the one that is asked for. -/
theorem installUpdate_iff (u : LetterCase) (out : Text) :
    (∀ f ∈ scanChocolateyUpdates u out, installFound u f = .choco f.package ↔ Slug 58 f.package) ∧
      ∀ f ∈ (scanWingetUpdates u out).getD [], f.package ≠ [] →
        (installFound u f = .winget f.package ↔ f.update.source = some "winget" ∧ Slug 64 f.package) := by
  constructor
  · intro f hf
    obtain ⟨line, -, hline⟩ := List.mem_filterMap.1 hf
    obtain ⟨name, title, hne, rfl⟩ := found_of_chocoUpdate hline
    exact installFound_choco hne
  · intro f hf hne
    obtain ⟨row, rfl⟩ := row_of_scanWinget hf
    have hsource : (wingetUpdate u row).update.source = some "winget" ↔ row.source = "winget".toList := by
      change some (String.ofList row.source) = some "winget" ↔ _
      rw [Option.some.injEq]
      refine ⟨fun h => ?_, fun h => ?_⟩
      · rw [← h, String.toList_ofList]
      · rw [h, String.ofList_toList]
    rw [hsource]
    exact installFound_winget row hne

instance : Inhabited LetterCase where
  default :=
    { lower := Char.toLower
      upper := Char.toUpper
      lower_plain := fun c h => by
        rcases h with h | h | rfl
        · exact AsciiCase.toLower_of_isLower h
        · exact AsciiCase.toLower_of_isDigit h
        · decide }

/-- A package with a dot in its name, and one without. -/
def chocoListing : Text := "7zip|24.08|24.09|false\nnotepad++.install|8.6|8.7|false".toList

def wingetListing : Text :=
  ("Name       Id           Version Available Source\n" ++
    "------------------------------------------------\n" ++
    "Rust       rustup       1.27.0  1.28.0    winget\n" ++
    "Git        Git.Git      2.44.0  2.45.0    winget").toList

example : (scanChocolateyUpdates default chocoListing).map (fun f => installFound default f) =
    [.choco "7zip".toList, .choco "notepad-install".toList] := by decide +kernel

/-- Of the two packages in a listing of winget the second is asked for under another id. -/
theorem installUpdate_iff_listings :
    ((scanWingetUpdates default wingetListing).getD []).map (fun f => (f.package, installFound default f)) =
      [("rustup".toList, .winget "rustup".toList), ("Git.Git".toList, .winget "git-git".toList)] ∧
    (∀ f ∈ scanChocolateyUpdates default chocoListing,
      installFound default f = .choco f.package ↔ Slug 58 f.package) ∧
    ∀ f ∈ (scanWingetUpdates default wingetListing).getD [], f.package ≠ [] →
      (installFound default f = .winget f.package ↔ f.update.source = some "winget" ∧ Slug 64 f.package) :=
  ⟨by decide +kernel, (installUpdate_iff default chocoListing).1, (installUpdate_iff default wingetListing).2⟩

end Obliance.Agent.Uids
