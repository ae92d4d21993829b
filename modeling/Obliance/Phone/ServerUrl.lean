import Mathlib.Data.List.Basic
import Mathlib.Data.List.TakeWhile
import Obliance.Lib.AsciiCase
import Obliance.Lib.Numerals

/-!
# Server addresses on the phone (`core/common` `ServerUrl.kt`, `Origins.kt`)

* `CharTables` : what the two files use of Unicode, with the facts they rest on;
* `originOf` (`Origins.of`), `normalize` : the origin of a URL, and the address as it is stored;
* `Host`, `Stored` : a host that is read back unchanged, and the origins that are stored;
* `normalize_spec` : a stored address is normalised to itself.
-/

namespace Obliance.Phone.Servers
open Numerals

abbrev Text := List Char

/-- The characters that end or divide an authority. -/
def isDelimiter (c : Char) : Bool := decide (c ∈ ['/', '?', '#', '\\', '@', '[', ']'])

/-- The part of Unicode that addresses are read with. -/
structure CharTables where
  isWhitespace : Char → Bool
  isLetterOrDigit : Char → Bool
  /-- The value of a character that `isDigit`. -/
  digit : Char → Option ℕ
  lowercase : Text → Text
  lowercase_lowercase : ∀ s, lowercase (lowercase s) = lowercase s
  /-- A slash or a bracket is no letter, and no letter's case depends on what is behind it. -/
  lowercase_break : ∀ a c b, c ∈ ['/', '[', ']'] → lowercase (a ++ c :: b) = lowercase a ++ c :: lowercase b
  lowercase_plain : ∀ s, (∀ c ∈ s, c ∈ ['h', 't', 'p', 's', ':']) → lowercase s = s
  /-- Delimiters and blanks come from themselves only. -/
  mem_lowercase : ∀ s, ∀ c ∈ lowercase s, isDelimiter c = true ∨ isWhitespace c = true → c ∈ s
  letterOrDigit_spec : ∀ c, isLetterOrDigit c = true → isDelimiter c = false ∧ isWhitespace c = false ∧ c ≠ ':'
  whitespace_spec : ∀ c, isWhitespace c = true → c ∉ ['h', 't', 'p', 's', ':', '/', '.', '-', '_', '[', ']'] ∧
    c.isDigit = false
  digit_spec : ∀ c, c.isDigit = true → digit c = some (c.toNat - '0'.toNat)

/-! ## Origins -/

def isAsciiLetter (c : Char) : Bool := c.isAlpha

/-- `[a-zA-Z0-9+.-]` -/
def isSchemeChar (c : Char) : Bool := c.isAlphanum || decide (c ∈ ['+', '.', '-'])

/-- `head`: the scheme, and the authority behind two slashes. -/
def head : Text → Option (Text × Option Text)
  | [] => none
  | c :: cs =>
      if isAsciiLetter c then
        match cs.dropWhile isSchemeChar with
        | ':' :: '/' :: '/' :: rest =>
            some (c :: cs.takeWhile isSchemeChar, some (rest.takeWhile fun c => decide (c ∉ ['/', '?', '#', '\\'])))
        | ':' :: _ => some (c :: cs.takeWhile isSchemeChar, none)
        | _ => none
      else none

/-- `substringAfterLast`, the whole text where the character is not in it. -/
def afterLast (sep : Char) (cs : Text) : Text := (cs.reverse.takeWhile fun c => decide (c ≠ sep)).reverse

/-- The text before the last separator. -/
def beforeLast (sep : Char) (cs : Text) : Text := (cs.reverse.dropWhile fun c => decide (c ≠ sep)).tail.reverse

namespace CharTables
variable (t : CharTables)

def isHostChar (c : Char) : Bool := t.isLetterOrDigit c || decide (c ∈ ['.', '-', '_'])

/-- The host in lower case and the text of the port. -/
def hostPort : Text → Option (Text × Option Text)
  | '[' :: cs =>
      let host := t.lowercase ('[' :: (cs.takeWhile fun c => decide (c ≠ ']')) ++ [']'])
      match cs.dropWhile fun c => decide (c ≠ ']') with
      | [_] => some (host, none)
      | _ :: ':' :: port => some (host, some port)
      | _ => none
  | authority =>
      let host := t.lowercase (if ':' ∈ authority then beforeLast ':' authority else authority)
      let port := if ':' ∈ authority then some (afterLast ':' authority) else none
      if host = [] ∨ host.all t.isHostChar = false then none else some (host, port)

def toInt : ℕ → Text → Option ℕ
  | acc, [] => some acc
  | acc, c :: cs => (t.digit c).bind fun d => toInt (acc * 10 + d) cs

/-- The port of its text; none where it is empty, an error where it is no port. -/
def portOf : Option Text → Option (Option ℕ)
  | none | some [] => some none
  | some port =>
      if port.all (fun c => (t.digit c).isSome) = true ∧ port.length ≤ 5 then
        (t.toInt 0 port).bind fun n => if 1 ≤ n ∧ n ≤ 65535 then some (some n) else none
      else none

end CharTables

def schemeHttps : Text := ['h', 't', 't', 'p', 's']

def schemeHttp : Text := ['h', 't', 't', 'p']

def portPart (defaultPort : ℕ) : Option ℕ → Text
  | none => []
  | some n => if n = defaultPort then [] else ':' :: (toString n).toList

/-- `Origins.of` -/
def originOf (t : CharTables) (url : Text) : Option Text :=
  (head (strip t.isWhitespace url)).bind fun (scheme, group) =>
    let scheme := t.lowercase scheme
    if scheme ≠ schemeHttp ∧ scheme ≠ schemeHttps then none
    else
      group.bind fun g =>
        let authority := afterLast '@' g
        if authority = [] then none
        else
          (t.hostPort authority).bind fun (host, port) =>
            (t.portOf port).map fun port =>
              scheme ++ ':' :: '/' :: '/' :: host ++ portPart (if scheme = schemeHttps then 443 else 80) port

/-! ## The address of a server -/

inductive Problem where
  | EMPTY
  | NOT_HTTPS
  | MALFORMED
  | HAS_CREDENTIALS
  deriving DecidableEq

def httpsPrefix : Text := ['h', 't', 't', 'p', 's', ':', '/', '/']

def httpPrefix : Text := ['h', 't', 't', 'p', ':', '/', '/']

/-- `^[a-z0-9.-]+:\d{1,5}(?:[/?#].*)?$` -/
def looksLikeHostPort (s : Text) : Bool :=
  let isHost (c : Char) : Bool := decide (c.isLower = true ∨ c.isDigit = true ∨ c = '.' ∨ c = '-')
  match s.takeWhile isHost, s.dropWhile isHost with
  | _ :: _, ':' :: rest =>
      let digits := rest.takeWhile Char.isDigit
      decide (1 ≤ digits.length ∧ digits.length ≤ 5) &&
        match rest.dropWhile Char.isDigit with
        | [] => true
        | c :: cs => decide (c ∈ ['/', '?', '#']) &&
            cs.all fun c => decide (c ∉ ['\n', '\r', '\u0085', '\u2028', '\u2029'])
  | _, _ => false

/-- The part of `normalize` behind the scheme. -/
def normalizeHttps (t : CharTables) (s : Text) : Except Problem Text :=
  let authority := (s.drop 8).takeWhile fun c => decide (c ∉ ['/', '?', '#'])
  if authority = [] then .error .MALFORMED
  else if '@' ∈ authority then .error .HAS_CREDENTIALS
  else
    match originOf t (httpsPrefix ++ authority) with
    | some origin => .ok origin
    | none => .error .MALFORMED

def normalize (t : CharTables) (input : Text) : Except Problem Text :=
  let s := strip t.isWhitespace input
  let lower := t.lowercase s
  if s = [] then .error .EMPTY
  else if s.any t.isWhitespace then .error .MALFORMED
  else if httpsPrefix <+: lower then normalizeHttps t s
  else if httpPrefix <+: lower then .error .NOT_HTTPS
  else if (head lower).isSome = true ∧ looksLikeHostPort lower = false then .error .NOT_HTTPS
  else normalizeHttps t (httpsPrefix ++ s)

/-! ## Addresses that are stored -/

/-- A host that is read back as it is. -/
inductive Host (t : CharTables) : Text → Prop
  | name {host : Text} : host ≠ [] → (∀ c ∈ host, t.isHostChar c = true) → t.lowercase host = host → Host t host
  | bracket {inner : Text} : (∀ c ∈ inner, c = '[' ∨ isDelimiter c = false ∧ t.isWhitespace c = false) →
      t.lowercase inner = inner → Host t ('[' :: inner ++ [']'])

/-- `https`, a host, and a port that is not 443. -/
structure Stored (t : CharTables) (origin : Text) : Prop where
  spec : ∃ host, ∃ port : Option ℕ, Host t host ∧ (∀ n ∈ port, 1 ≤ n ∧ n ≤ 65535) ∧
    origin = httpsPrefix ++ (host ++ portPart 443 port)

section Https
variable {t : CharTables} {a host port : Text}

theorem noWhitespace_prefix : ∀ c ∈ httpsPrefix, t.isWhitespace c = false := by
  have hplain : ∀ c ∈ httpsPrefix, c ∈ ['h', 't', 'p', 's', ':', '/', '.', '-', '_', '[', ']'] :=
    List.all_iff_forall_prop.1 (by decide)
  intro c hc
  cases hspace : t.isWhitespace c with
  | false => rfl
  | true => exact absurd (hplain c hc) (t.whitespace_spec c hspace).1

theorem takeWhile_congr {p q : Char → Bool} (h : ∀ c ∈ a, p c = q c) : a.takeWhile p = a.takeWhile q := by
  induction a with
  | nil => rfl
  | cons c a ih =>
      rw [List.takeWhile_cons, List.takeWhile_cons, h c List.mem_cons_self,
        ih fun c hc => h c (List.mem_cons_of_mem _ hc)]

/-- Without blanks there is nothing to trim. -/
theorem strip_self (h : ∀ c ∈ a, t.isWhitespace c = false) (hne : a ≠ []) : strip t.isWhitespace a = a := by
  have hstrip := strip_eq (a := []) (b := []) (fun _ hc => nomatch hc) (fun _ hc => nomatch hc) h hne
  rwa [List.append_nil, List.nil_append] at hstrip

theorem ne_of_mem_takeWhile {sep c : Char} (h : c ∈ a.takeWhile fun c => decide (c ≠ sep)) : c ≠ sep := by
  have hc := List.mem_takeWhile_imp h
  exact of_decide_eq_true hc

theorem head_https (a : Text) : head (httpsPrefix ++ a) =
    some (schemeHttps, some (a.takeWhile fun c => decide (c ∉ ['/', '?', '#', '\\']))) := rfl

theorem afterLast_of_notMem {sep : Char} (h : sep ∉ a) : afterLast sep a = a := by
  have hall : ∀ c ∈ a.reverse, decide (c ≠ sep) = true := fun c hc =>
    decide_eq_true fun heq => h (heq ▸ List.mem_reverse.1 hc)
  rw [afterLast, List.takeWhile_eq_self_iff.2 hall, List.reverse_reverse]

theorem afterLast_append {sep : Char} (h : sep ∉ a) : afterLast sep (host ++ sep :: a) = a := by
  have hall : ∀ c ∈ a.reverse, decide (c ≠ sep) = true := fun c hc =>
    decide_eq_true fun heq => h (heq ▸ List.mem_reverse.1 hc)
  rw [afterLast, List.reverse_append, List.reverse_cons, List.append_assoc, List.takeWhile_append_of_pos hall,
    List.singleton_append, List.takeWhile_cons_of_neg (by simp), List.append_nil, List.reverse_reverse]

theorem beforeLast_append {sep : Char} (h : sep ∉ a) : beforeLast sep (host ++ sep :: a) = host := by
  have hall : ∀ c ∈ a.reverse, decide (c ≠ sep) = true := fun c hc =>
    decide_eq_true fun heq => h (heq ▸ List.mem_reverse.1 hc)
  rw [beforeLast, List.reverse_append, List.reverse_cons, List.append_assoc, List.dropWhile_append_of_pos hall,
    List.singleton_append, List.dropWhile_cons_of_neg (by simp), List.tail_cons, List.reverse_reverse]

/-- The origin of an `https` authority. -/
theorem originOf_https (hspace : ∀ c ∈ a, t.isWhitespace c = false) (hat : '@' ∉ a)
    (hdelim : ∀ c ∈ a, c ∉ ['/', '?', '#']) :
    originOf t (httpsPrefix ++ a) =
      let g := a.takeWhile fun c => decide (c ≠ '\\')
      if g = [] then none
      else (t.hostPort g).bind fun (host, port) =>
        (t.portOf port).map fun port => httpsPrefix ++ (host ++ portPart 443 port) := by
  have hgroup : (a.takeWhile fun c => decide (c ∉ ['/', '?', '#', '\\'])) = a.takeWhile fun c => decide (c ≠ '\\') := by
    refine takeWhile_congr fun c hc => decide_eq_decide.2 ?_
    have hc' := hdelim c hc
    simp only [List.mem_cons, List.not_mem_nil, or_false, not_or] at hc' ⊢
    tauto
  have hlower : t.lowercase schemeHttps = schemeHttps := t.lowercase_plain _ (List.all_iff_forall_prop.1 (by decide))
  have hat' : '@' ∉ a.takeWhile fun c => decide (c ≠ '\\') := fun h => hat ((List.takeWhile_sublist _).subset h)
  have hstrip : strip t.isWhitespace (httpsPrefix ++ a) = httpsPrefix ++ a := by
    refine strip_self (fun c hc => ?_) (List.cons_ne_nil _ _)
    rcases List.mem_append.1 hc with hc | hc
    · exact noWhitespace_prefix c hc
    · exact hspace c hc
  rw [originOf, hstrip, head_https, Option.bind_some]
  dsimp only
  rw [hlower, if_neg (by decide), Option.bind_some, hgroup, afterLast_of_notMem hat']
  rfl

/-! ### Hosts and ports -/

theorem lowercase_nil : t.lowercase [] = [] := t.lowercase_plain [] fun _ hc => nomatch hc

theorem lowercase_bracket (inner : Text) :
    t.lowercase ('[' :: inner ++ [']']) = '[' :: t.lowercase inner ++ [']'] := by
  have hopen := t.lowercase_break [] '[' (inner ++ [']']) (by decide)
  have hclose := t.lowercase_break inner ']' [] (by decide)
  rw [lowercase_nil, List.nil_append, List.nil_append] at hopen
  rw [lowercase_nil] at hclose
  rw [List.cons_append, hopen, hclose]
  rfl

theorem host_of_hostPort {g host : Text} {port : Option Text}
    (hg : ∀ c ∈ g, t.isWhitespace c = false ∧ c ∉ ['/', '?', '#', '\\', '@'])
    (h : t.hostPort g = some (host, port)) : Host t host := by
  unfold CharTables.hostPort at h
  split at h
  · next cs =>
      have hhost : host = t.lowercase ('[' :: (cs.takeWhile fun c => decide (c ≠ ']')) ++ [']']) := by
        dsimp only at h
        split at h
        · exact (Prod.mk.inj (Option.some.inj h)).1.symm
        · exact (Prod.mk.inj (Option.some.inj h)).1.symm
        · cases h
      rw [hhost, lowercase_bracket]
      refine .bracket (fun c hc => ?_) (t.lowercase_lowercase _)
      by_contra hnot
      rw [not_or, not_and_or, Bool.not_eq_false, Bool.not_eq_false] at hnot
      have hmem := t.mem_lowercase _ c hc hnot.2
      obtain ⟨hspace, hdelim⟩ := hg c (List.mem_cons_of_mem _ ((List.takeWhile_sublist _).subset hmem))
      have hclose : c ≠ ']' := ne_of_mem_takeWhile hmem
      rcases hnot.2 with hc | hc
      · simp only [isDelimiter, List.mem_cons, List.not_mem_nil, or_false, decide_eq_true_eq, not_or] at hc hdelim
        tauto
      · rw [hspace] at hc
        cases hc
  · dsimp only at h
    split_ifs at h with hcolon hbad <;>
    · next hbad =>
        obtain ⟨rfl, -⟩ := Prod.mk.inj (Option.some.inj h)
        rw [not_or, Bool.not_eq_false, List.all_eq_true] at hbad
        exact .name hbad.1 hbad.2 (t.lowercase_lowercase _)

theorem portOf_spec {port : Option Text} {n : Option ℕ} (h : t.portOf port = some n) :
    ∀ k ∈ n, 1 ≤ k ∧ k ≤ 65535 := by
  unfold CharTables.portOf at h
  split at h
  · obtain rfl := Option.some.inj h
    exact fun k hk => nomatch hk
  · obtain rfl := Option.some.inj h
    exact fun k hk => nomatch hk
  · split_ifs at h
    obtain ⟨k, -, hk⟩ := Option.bind_eq_some_iff.1 h
    split_ifs at hk with hrange
    obtain rfl := Option.some.inj hk
    intro k' hk'
    obtain rfl := Option.some.inj hk'
    exact hrange

theorem toInt_digits {acc : ℕ} {ds : Text} (h : ∀ c ∈ ds, c.isDigit = true) :
    t.toInt acc ds = readDigits 10 acc ds := by
  induction ds generalizing acc with
  | nil => rfl
  | cons c ds ih =>
      have hc := h c List.mem_cons_self
      rw [CharTables.toInt, readDigits, t.digit_spec c hc, digitOf_decimal hc, Option.bind_some, Option.bind_some,
        ih fun c hc => h c (List.mem_cons_of_mem _ hc)]

/-- The text of a port is read as the port. -/
theorem portOf_decimal {n : ℕ} (hn : 1 ≤ n ∧ n ≤ 65535) : t.portOf (some (toString n).toList) = some (some n) := by
  have hdigits : ∀ c ∈ (toString n).toList, c.isDigit = true := fun c hc => isDigit_of_mem_decimal hc
  have hall : ((toString n).toList.all fun c => (t.digit c).isSome) = true :=
    List.all_eq_true.2 fun c hc => by rw [t.digit_spec c (hdigits c hc)]; rfl
  have hlength : (toString n).toList.length ≤ 5 := by
    rw [Nat.toString_eq_repr, Nat.toList_repr, Nat.length_toDigits_le_iff (by decide) (by decide)]
    omega
  have hvalue : t.toInt 0 (toString n).toList = some n := (toInt_digits hdigits).trans (readDigits_decimal n)
  unfold CharTables.portOf
  split
  · next hnone => cases hnone
  · next hempty =>
      rw [Option.some.inj hempty] at hvalue
      obtain rfl := Option.some.inj hvalue
      omega
  · next port _ hport =>
      obtain rfl := Option.some.inj hport
      rw [if_pos ⟨hall, hlength⟩, hvalue, Option.bind_some, if_pos hn]

/-- Every authority that gives an origin gives a stored one. -/
theorem stored_of_originOf {origin : Text} (hspace : ∀ c ∈ a, t.isWhitespace c = false) (hat : '@' ∉ a)
    (hdelim : ∀ c ∈ a, c ∉ ['/', '?', '#']) (h : originOf t (httpsPrefix ++ a) = some origin) : Stored t origin := by
  rw [originOf_https hspace hat hdelim] at h
  dsimp only at h
  split_ifs at h
  obtain ⟨⟨host, port⟩, hhost, hport⟩ := Option.bind_eq_some_iff.1 h
  obtain ⟨n, hn, rfl⟩ := Option.map_eq_some_iff.1 hport
  refine ⟨host, n, host_of_hostPort (fun c hc => ?_) hhost, portOf_spec hn, rfl⟩
  have hmem : c ∈ a := (List.takeWhile_sublist _).subset hc
  have hslash : c ≠ '\\' := ne_of_mem_takeWhile hc
  have hd := hdelim c hmem
  refine ⟨hspace c hmem, ?_⟩
  simp only [List.mem_cons, List.not_mem_nil, or_false, not_or] at hd ⊢
  exact ⟨hd.1, hd.2.1, hd.2.2, hslash, fun heq => hat (heq ▸ hmem)⟩

theorem takeWhile_self {p : Char → Bool} (h : ∀ c ∈ a, p c = true) : a.takeWhile p = a :=
  List.takeWhile_eq_self_iff.2 h

/-- A host is read back in front of nothing and of a port. -/
theorem hostPort_host (hhost : Host t host) :
    t.hostPort host = some (host, none) ∧
      ∀ ds, ':' ∉ ds → t.hostPort (host ++ ':' :: ds) = some (host, some ds) := by
  cases hhost with
  | name hne hchars hlower =>
      have hcolon : ':' ∉ host := fun h => by
        rcases Bool.or_eq_true_iff.1 (hchars _ h) with hc | hc
        · exact (t.letterOrDigit_spec _ hc).2.2 rfl
        · exact absurd hc (by decide)
      have hopen (x cs : Text) : host ++ x ≠ '[' :: cs := fun h => by
        obtain ⟨c, host, rfl⟩ := List.exists_cons_of_ne_nil hne
        obtain rfl := (List.cons.inj h).1
        rcases Bool.or_eq_true_iff.1 (hchars _ List.mem_cons_self) with hc | hc
        · exact absurd (t.letterOrDigit_spec _ hc).1 (by decide)
        · exact absurd hc (by decide)
      have hgood : ¬ (host = [] ∨ host.all t.isHostChar = false) := by
        rw [not_or, Bool.not_eq_false, List.all_eq_true]
        exact ⟨hne, hchars⟩
      constructor
      · unfold CharTables.hostPort
        split
        · next cs => exact absurd (List.append_nil _) (hopen [] cs)
        · dsimp only
          rw [if_neg hcolon, if_neg hcolon, hlower, if_neg hgood]
      · intro ds hds
        unfold CharTables.hostPort
        split
        · next cs h => exact absurd h (hopen _ cs)
        · have hmem : ':' ∈ host ++ ':' :: ds := List.mem_append_right _ List.mem_cons_self
          dsimp only
          rw [if_pos hmem, if_pos hmem, beforeLast_append hds, afterLast_append hds, hlower, if_neg hgood]
  | @bracket inner hinner hlower =>
      have hall : ∀ c ∈ inner, decide (c ≠ ']') = true := fun c hc => decide_eq_true fun heq => by
        rcases hinner c hc with h | h
        · exact absurd (heq.symm.trans h) (by decide)
        · rw [heq] at h
          exact absurd h.1 (by decide)
      have htake (x : Text) : (inner ++ ']' :: x).takeWhile (fun c => decide (c ≠ ']')) = inner := by
        rw [List.takeWhile_append_of_pos hall, List.takeWhile_cons_of_neg (by decide), List.append_nil]
      have hdrop (x : Text) : (inner ++ ']' :: x).dropWhile (fun c => decide (c ≠ ']')) = ']' :: x := by
        rw [List.dropWhile_append_of_pos hall, List.dropWhile_cons_of_neg (by decide)]
      constructor
      · rw [List.cons_append, CharTables.hostPort, htake, hdrop, lowercase_bracket, hlower]
        rfl
      · intro ds _
        rw [List.append_assoc, List.cons_append, List.singleton_append, CharTables.hostPort, htake, hdrop,
          lowercase_bracket, hlower]
        rfl

/-- The characters of a host and its port end no authority, and are no blanks. -/
theorem plain_of_stored {port : Option ℕ} (hhost : Host t host) : ∀ c ∈ host ++ portPart 443 port,
    t.isWhitespace c = false ∧ c ∉ ['/', '?', '#', '\\', '@'] := by
  have hno (c : Char) (h : isDelimiter c = false) : c ∉ ['/', '?', '#', '\\', '@'] := by
    simp only [isDelimiter, List.mem_cons, List.not_mem_nil, or_false, decide_eq_false_iff_not, not_or] at h ⊢
    tauto
  have hvisible (c : Char) (h : c ∈ ['h', 't', 'p', 's', ':', '/', '.', '-', '_', '[', ']']) :
      t.isWhitespace c = false :=
    Bool.eq_false_iff.2 fun hspace => (t.whitespace_spec c hspace).1 h
  intro c hc
  rcases List.mem_append.1 hc with hc | hc
  · cases hhost with
    | name _ hchars _ =>
        rcases Bool.or_eq_true_iff.1 (hchars c hc) with hletter | hsign
        · obtain ⟨hdelim, hspace, -⟩ := t.letterOrDigit_spec c hletter
          exact ⟨hspace, hno c hdelim⟩
        · rcases List.mem_cons.1 (of_decide_eq_true hsign) with rfl | hsign
          · exact ⟨hvisible _ (by decide), by decide⟩
          · rcases List.mem_pair.1 hsign with rfl | rfl <;> exact ⟨hvisible _ (by decide), by decide⟩
    | bracket hinner _ =>
        rcases List.mem_append.1 hc with hc | hc
        · rcases List.mem_cons.1 hc with rfl | hc
          · exact ⟨hvisible _ (by decide), by decide⟩
          · rcases hinner c hc with rfl | ⟨hdelim, hspace⟩
            · exact ⟨hvisible _ (by decide), by decide⟩
            · exact ⟨hspace, hno c hdelim⟩
        · obtain rfl := List.mem_singleton.1 hc
          exact ⟨hvisible _ (by decide), by decide⟩
  · cases port with
    | none => cases hc
    | some n =>
        rw [portPart] at hc
        split_ifs at hc
        · cases hc
        · rcases List.mem_cons.1 hc with rfl | hc
          · exact ⟨hvisible _ (by decide), by decide⟩
          · have hdigit : c.isDigit = true := isDigit_of_mem_decimal hc
            refine ⟨Bool.eq_false_iff.2 fun hspace => ?_, fun hmem => ?_⟩
            · rw [(t.whitespace_spec c hspace).2] at hdigit
              cases hdigit
            · have hnone : ∀ c ∈ ['/', '?', '#', '\\', '@'], c.isDigit = false := List.all_iff_forall_prop.1 (by decide)
              rw [hnone c hmem] at hdigit
              cases hdigit

theorem stored_ne_nil (hhost : Host t host) {p : Text} : host ++ p ≠ [] := by
  intro h
  obtain ⟨rfl, -⟩ := List.append_eq_nil_iff.1 h
  cases hhost with
  | name hne _ _ => exact hne rfl

theorem lowercase_https (rest : Text) : t.lowercase (httpsPrefix ++ rest) = httpsPrefix ++ t.lowercase rest := by
  have hscheme : t.lowercase ['h', 't', 't', 'p', 's', ':'] = ['h', 't', 't', 'p', 's', ':'] :=
    t.lowercase_plain _ (List.all_iff_forall_prop.1 (by decide))
  have hfirst := t.lowercase_break ['h', 't', 't', 'p', 's', ':'] '/' ('/' :: rest) (by decide)
  have hsecond := t.lowercase_break [] '/' rest (by decide)
  rw [lowercase_nil, List.nil_append, List.nil_append] at hsecond
  rw [hscheme, hsecond] at hfirst
  exact hfirst

/-- A stored origin is the origin of itself, so that a link to its server is found by it. -/
theorem originOf_stored {origin : Text} (h : Stored t origin) : originOf t origin = some origin := by
  obtain ⟨host, port, hhost, hport, rfl⟩ := h.spec
  have hplain := @plain_of_stored t host port hhost
  have htake : (host ++ portPart 443 port).takeWhile (fun c => decide (c ≠ '\\')) = host ++ portPart 443 port :=
    takeWhile_self fun c hc => decide_eq_true fun heq => by
      subst heq
      exact (hplain _ hc).2 (by decide)
  have hread : (t.hostPort (host ++ portPart 443 port)).bind (fun (h, p) => (t.portOf p).map fun n =>
      httpsPrefix ++ (h ++ portPart 443 n)) = some (httpsPrefix ++ (host ++ portPart 443 port)) := by
    obtain ⟨hbare, hwith⟩ := hostPort_host hhost
    have hnone : some (httpsPrefix ++ (host ++ portPart 443 none)) = some (httpsPrefix ++ host) :=
      congrArg (fun x => some (httpsPrefix ++ x)) (List.append_nil host)
    cases port with
    | none => rw [portPart, List.append_nil, hbare]; exact hnone
    | some n =>
        by_cases hn : n = 443
        · rw [portPart, if_pos hn, List.append_nil, hbare]; exact hnone
        · have hcolon : ':' ∉ (toString n).toList := fun h => absurd (isDigit_of_mem_decimal h) (by decide)
          rw [portPart, if_neg hn, hwith _ hcolon, Option.bind_some]
          dsimp only
          rw [portOf_decimal (hport n rfl), Option.map_some, portPart, if_neg hn]
  rw [originOf_https (fun c hc => (hplain c hc).1) (fun h => (hplain _ h).2 (by decide))
    (fun c hc hdelim => (hplain c hc).2 (List.mem_of_mem_take (i := 3) hdelim))]
  dsimp only
  rw [htake, if_neg (stored_ne_nil hhost), hread]

/-- A stored origin is normalised to itself. -/
theorem normalize_stored {origin : Text} (h : Stored t origin) : normalize t origin = .ok origin := by
  obtain ⟨host, port, hhost, hport, rfl⟩ := h.spec
  have hplain := @plain_of_stored t host port hhost
  generalize hrest : host ++ portPart 443 port = rest at hplain h
  have hne : rest ≠ [] := hrest ▸ stored_ne_nil hhost
  have hvisible : ∀ c ∈ httpsPrefix ++ rest, t.isWhitespace c = false := fun c hc => by
    rcases List.mem_append.1 hc with hc | hc
    · exact noWhitespace_prefix c hc
    · exact (hplain c hc).1
  have hlower : httpsPrefix <+: t.lowercase (httpsPrefix ++ rest) := lowercase_https rest ▸ List.prefix_append _ _
  have hnot {d : Char} (hd : d ∈ ['/', '?', '#', '\\', '@']) : d ∉ rest := fun hmem => (hplain d hmem).2 hd
  have hfull : httpsPrefix ++ rest ≠ [] := List.cons_ne_nil _ _
  have hauthority : ((httpsPrefix ++ rest).drop 8).takeWhile (fun c => decide (c ∉ ['/', '?', '#'])) = rest := by
    refine takeWhile_self fun c hc => decide_eq_true fun hdelim => (hplain c hc).2 ?_
    exact List.mem_of_mem_take (i := 3) hdelim
  rw [normalize, strip_self hvisible hfull, if_neg hfull, if_neg, if_pos hlower, normalizeHttps, hauthority]
  · rw [if_neg hne, if_neg (hnot (by decide)), originOf_stored h]
  · rw [Bool.not_eq_true, List.any_eq_false]
    exact fun c hc => Bool.eq_false_iff.1 (hvisible c hc)

end Https

/-- A text without blanks behind the scheme gives stored origins only. -/
theorem stored_of_normalizeHttps {t : CharTables} {s origin : Text} (hspace : ∀ c ∈ s, t.isWhitespace c = false)
    (h : normalizeHttps t s = .ok origin) : Stored t origin := by
  unfold normalizeHttps at h
  dsimp only at h
  split_ifs at h with hempty hat
  split at h
  · next o ho =>
      obtain rfl := Except.ok.inj h
      refine stored_of_originOf (fun c hc => ?_) hat (fun c hc => ?_) ho
      · exact hspace c (List.mem_of_mem_drop ((List.takeWhile_sublist _).subset hc))
      · have hc' := List.mem_takeWhile_imp hc
        exact of_decide_eq_true hc'
  · cases h

theorem stored_of_normalize {t : CharTables} {input origin : Text} (h : normalize t input = .ok origin) :
    Stored t origin := by
  unfold normalize at h
  dsimp only at h
  split_ifs at h with hempty hblank hhttps hhttp hscheme
  · rw [Bool.not_eq_true, List.any_eq_false] at hblank
    exact stored_of_normalizeHttps (fun c hc => Bool.eq_false_iff.2 (hblank c hc)) h
  · rw [Bool.not_eq_true, List.any_eq_false] at hblank
    refine stored_of_normalizeHttps (fun c hc => ?_) h
    rcases List.mem_append.1 hc with hc | hc
    · exact noWhitespace_prefix c hc
    · exact Bool.eq_false_iff.2 (hblank c hc)

/-! ## ASCII -/

/-- The tables of ASCII. -/
instance : Inhabited CharTables where
  default :=
    { isWhitespace := fun c => decide (c ∈ [' ', '\t', '\n', '\r'])
      isLetterOrDigit := Char.isAlphanum
      digit := fun c => if c.isDigit then some (c.toNat - '0'.toNat) else none
      lowercase := fun s => s.map Char.toLower
      lowercase_lowercase := fun s => by
        rw [List.map_map]
        exact List.map_congr_left fun c _ => AsciiCase.toLower_toLower c
      lowercase_break := fun a c b hc => by
        have hsame : ∀ c ∈ ['/', '[', ']'], Char.toLower c = c := List.all_iff_forall_prop.1 (by decide)
        rw [List.map_append, List.map_cons, hsame c hc]
      lowercase_plain := fun s h => by
        have hsame : ∀ c ∈ ['h', 't', 'p', 's', ':'], Char.toLower c = c := List.all_iff_forall_prop.1 (by decide)
        exact (List.map_congr_left fun c hc => hsame c (h c hc)).trans (List.map_id s)
      mem_lowercase := fun s c hc hplain => by
        obtain ⟨d, hd, hlower⟩ := List.mem_map.1 hc
        have hno : c.isLower = false := by
          rcases hplain with h | h
          · have hall : ∀ c ∈ ['/', '?', '#', '\\', '@', '[', ']'], c.isLower = false :=
              List.all_iff_forall_prop.1 (by decide)
            exact hall c (of_decide_eq_true h)
          · have hall : ∀ c ∈ [' ', '\t', '\n', '\r'], c.isLower = false := List.all_iff_forall_prop.1 (by decide)
            exact hall c (of_decide_eq_true h)
        rwa [← AsciiCase.eq_of_toLower hlower hno]
      letterOrDigit_spec := fun c hc => by
        have hdelim : ∀ c ∈ ['/', '?', '#', '\\', '@', '[', ']'], c.isAlphanum = false :=
          List.all_iff_forall_prop.1 (by decide)
        have hspace : ∀ c ∈ [' ', '\t', '\n', '\r'], c.isAlphanum = false := List.all_iff_forall_prop.1 (by decide)
        refine ⟨decide_eq_false fun h => ?_, decide_eq_false fun h => ?_, fun h => ?_⟩
        · exact absurd hc (Bool.eq_false_iff.1 (hdelim c h))
        · exact absurd hc (Bool.eq_false_iff.1 (hspace c h))
        · rw [h] at hc
          exact absurd hc (by decide)
      whitespace_spec := fun c hc => by
        have hall : ∀ c ∈ [' ', '\t', '\n', '\r'],
            c ∉ ['h', 't', 'p', 's', ':', '/', '.', '-', '_', '[', ']'] ∧ c.isDigit = false :=
          List.all_iff_forall_prop.1 (by decide)
        exact hall c (of_decide_eq_true hc)
      digit_spec := fun c hc => if_pos hc }

/-- **An address is normalised once**: what `normalize` returns is an `https` origin, which it returns for itself,
and which is the origin of itself. -/
theorem normalize_spec (t : CharTables) {input origin : Text} (h : normalize t input = .ok origin) :
    Stored t origin ∧ normalize t origin = .ok origin ∧ originOf t origin = some origin :=
  ⟨stored_of_normalize h, normalize_stored (stored_of_normalize h), originOf_stored (stored_of_normalize h)⟩

theorem normalize_spec_port : Stored default "https://obli.example:8443".toList ∧
    normalize default "https://obli.example:8443".toList = .ok "https://obli.example:8443".toList ∧
    originOf default "https://obli.example:8443".toList = some "https://obli.example:8443".toList :=
  @normalize_spec default " Obli.Example:8443/devices?x ".toList _ (by decide +kernel)

end Obliance.Phone.Servers
