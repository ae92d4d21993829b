import Mathlib.Data.List.Nodup
import Obliance.Lib.Numerals

/-!
# Group slugs (`services/group.service.ts`, `controllers/importExport.controller.ts`)

* `slugify` : lower case, runs of other characters to one dash, a dash at either end dropped;
* `ensureUniqueSlug` : the first of `slug`, `slug-1`, `slug-2`, … that no row of the table has;
* `ensureUniqueSlug_fresh` : the loop ends, with a slug that is not taken.
-/

namespace Obliance.Groups

/-- `toLowerCase`, as far as `[a-z0-9]` sees it: the two characters beyond ASCII whose lower case
has an ASCII letter are İ (U+0130) and the Kelvin sign (U+212A). -/
def lowerChars (c : Char) : List Char :=
  if c = Char.ofNat 0x130 then ['i', Char.ofNat 0x307]
  else if c = Char.ofNat 0x212A then ['k']
  else [c.toLower]

def isSlugChar (c : Char) : Bool := ('a' ≤ c && c ≤ 'z') || ('0' ≤ c && c ≤ '9')

/-- `.replace(/[^a-z0-9]+/g, '-')`; `inRun` after a replaced character. -/
def dashRuns : Bool → List Char → List Char
  | _, [] => []
  | inRun, c :: cs =>
      if isSlugChar c then c :: dashRuns false cs
      else if inRun then dashRuns true cs
      else '-' :: dashRuns true cs

/-- `.replace(/^-|-$/g, '')` -/
def trimDashes (cs : List Char) : List Char :=
  let cs := if cs.head? = some '-' then cs.tail else cs
  if cs.getLast? = some '-' then cs.dropLast else cs

def slugify (name : String) : String :=
  String.ofList (trimDashes (dashRuns false (name.toList.flatMap lowerChars)))

/-- The loop of `ensureUniqueSlug`: `candidate` is tried next, `i` is the next suffix. -/
def slugLoop (taken : String → Bool) (slug : String) : ℕ → ℕ → String → Option String
  | 0, _, _ => none
  | fuel + 1, i, candidate =>
      if taken candidate then slugLoop taken slug fuel (i + 1) (slug ++ "-" ++ toString i)
      else some candidate

/-- The slugs in use, as a list; one more round than there are slugs is enough. -/
def ensureUniqueSlug (used : List String) (slug : String) : String :=
  (slugLoop (fun c => decide (c ∈ used)) slug (used.length + 1) 1 slug).getD slug

/-! ## The loop ends with a free slug -/

def suffixed (slug : String) (i : ℕ) : String := slug ++ "-" ++ toString i

theorem suffixed_inj {slug : String} {i j : ℕ} (h : suffixed slug i = suffixed slug j) : i = j :=
  Numerals.decimal_inj (congrArg String.toList ((String.append_right_inj _).1 h))

theorem suffixed_ne (slug : String) (i : ℕ) : suffixed slug i ≠ slug := by
  intro h
  have := congrArg (fun s => s.toList.length) h
  simp [suffixed, String.toList_append] at this

theorem slugLoop_some {taken : String → Bool} {slug c : String} {fuel i : ℕ} {candidate : String}
    (h : slugLoop taken slug fuel i candidate = some c) : taken c = false := by
  induction fuel generalizing i candidate with
  | zero => cases h
  | succ fuel ih =>
      rw [slugLoop] at h
      split_ifs at h with ht
      · exact ih h
      · rw [Option.some.injEq] at h
        rw [← h]
        simpa using ht

/-- When the loop runs out, all the candidates it tried are taken. -/
theorem slugLoop_none {taken : String → Bool} {slug : String} {fuel i : ℕ} {candidate : String}
    (h : slugLoop taken slug (fuel + 1) i candidate = none) :
    taken candidate = true ∧ ∀ j, i ≤ j → j < i + fuel → taken (suffixed slug j) = true := by
  induction fuel generalizing i candidate with
  | zero =>
      rw [slugLoop] at h
      split_ifs at h with ht
      exact ⟨ht, fun j h1 h2 => by omega⟩
  | succ fuel ih =>
      rw [slugLoop] at h
      split_ifs at h with ht
      obtain ⟨h0, h1⟩ := ih h
      refine ⟨ht, fun j hj hj' => ?_⟩
      rcases Nat.eq_or_lt_of_le hj with rfl | hlt
      · exact h0
      · exact h1 j hlt (by omega)

/-- **`ensureUniqueSlug` returns a slug that is not in use.** -/
theorem ensureUniqueSlug_fresh (used : List String) (slug : String) :
    ensureUniqueSlug used slug ∉ used := by
  unfold ensureUniqueSlug
  cases h : slugLoop (fun c => decide (c ∈ used)) slug (used.length + 1) 1 slug with
  | some c => simpa using slugLoop_some h
  | none =>
      -- more distinct candidates than slugs in use
      obtain ⟨h0, h1⟩ := slugLoop_none h
      have hnodup : (slug :: (List.range' 1 used.length).map (suffixed slug)).Nodup := by
        refine List.nodup_cons.2 ⟨?_, ?_⟩
        · rintro hm
          obtain ⟨i, -, hi⟩ := List.mem_map.1 hm
          exact suffixed_ne slug i hi
        · exact List.Nodup.map (fun _ _ => suffixed_inj) List.nodup_range'
      have hsub : (slug :: (List.range' 1 used.length).map (suffixed slug)) ⊆ used := by
        intro c hc
        rcases List.mem_cons.1 hc with rfl | hc
        · simpa using h0
        · obtain ⟨i, hi, rfl⟩ := List.mem_map.1 hc
          obtain ⟨hi1, hi2⟩ := List.mem_range'_1.1 hi
          simpa using h1 i hi1 hi2
      have hlen := hnodup.length_le_of_subset hsub
      rw [List.length_cons, List.length_map, List.length_range'] at hlen
      exact absurd hlen (Nat.not_succ_le_self _)

end Obliance.Groups
