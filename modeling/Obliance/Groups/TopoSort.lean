import Mathlib.Data.List.Perm.Subperm
import Mathlib.Logic.Relation
import Obliance.Groups.Import

/-!
# What `topoSort` keeps

A visit marks a uuid before its item comes out; between the two the uuid is open, and the open uuids form the path
of parents that the visit goes up.

* `Settled` : each visited uuid is open or came out, once;
* `visit_settled`, `visit_parentsFirst` : what a visit keeps, cycles included, and in which order;
* `Kept` : the items of a list without those that repeat a uuid;
* `mem_topoSort` : with distinct uuids, exactly the items come out;
* `topoSort_iff` : it loses nothing exactly when no two items have the same absent uuid.
-/

namespace Obliance.Groups
open Obliance.Js Relation

/-! ## References -/

/-- The parent's uuid, where the parent is in the list. -/
def HasParent (items : List ImportItem) (g : ImportItem) (u : JsVal) : Prop :=
  g.parentUuid = u ∧ u.truthy = true ∧ ∃ p ∈ items, p.uuid = u

def Refers (items : List ImportItem) (u v : JsVal) : Prop := ∃ g ∈ items, g.uuid = u ∧ HasParent items g v

def Acyclic (items : List ImportItem) : Prop := ∀ u, ¬ TransGen (Refers items) u u

/-- The parent of an item is among the items before it. -/
def ParentsFirst (items sorted : List ImportItem) : Prop :=
  ∀ (i : ℕ) (g : ImportItem), sorted[i]? = some g → ∀ u, HasParent items g u → u ∈ (sorted.take i).map ImportItem.uuid

/-- The items without those that repeat a uuid: all that have none, and one for each that there is. -/
structure Kept (items kept : List ImportItem) : Prop where
  sublist : kept.Sublist items
  without : (kept.filter fun g => !g.uuid.truthy) = items.filter fun g => !g.uuid.truthy
  once : ((kept.filter fun g => g.uuid.truthy).map ImportItem.uuid).Nodup
  all : ∀ g ∈ items, g.uuid.truthy = true → ∃ k ∈ kept, k.uuid = g.uuid

/-- No two items have the same absent uuid: `undefined`, `null`, an empty text and so on. -/
def AbsentOnce (items : List ImportItem) : Prop :=
  ((items.filter fun g => !g.uuid.truthy).map ImportItem.uuid).Nodup

variable {items : List ImportItem} {byUuid : JsMap JsVal ImportItem}

/-- Where all uuids there are differ, nothing is left out. -/
theorem Kept.eq_of_nodup {kept : List ImportItem} (h : Kept items kept)
    (hd : ((items.filter fun g => g.uuid.truthy).map ImportItem.uuid).Nodup) : kept = items := by
  refine h.sublist.eq_of_length_le ?_
  have hpresent : (items.filter fun g => g.uuid.truthy) ⊆ kept.filter fun g => g.uuid.truthy := by
    intro g hg
    obtain ⟨hmem, hu⟩ := List.mem_filter.1 hg
    obtain ⟨k, hk, hku⟩ := h.all g hmem hu
    have hsame : k = g :=
      List.inj_on_of_nodup_map hd (List.mem_filter.2 ⟨h.sublist.subset hk, hku ▸ hu⟩) hg hku
    exact List.mem_filter.2 ⟨hsame ▸ hk, hu⟩
  have hlength := (List.subperm_of_subset (List.Nodup.of_map _ hd) hpresent).length_le
  have hwithout := congrArg List.length h.without
  have hitems := List.length_eq_length_filter_add (l := items) fun g => g.uuid.truthy
  have hkept := List.length_eq_length_filter_add (l := kept) fun g => g.uuid.truthy
  omega

/-! ## One visit -/

/-- The map finds the items by their uuids. -/
def Finds (items : List ImportItem) (byUuid : JsMap JsVal ImportItem) : Prop :=
  ∀ u, u.truthy = true → match byUuid.get u with
    | some p => p ∈ items ∧ p.uuid = u
    | none => ∀ p ∈ items, p.uuid ≠ u

/-- A visit of a new item: its parent's visit first, if it is in the list, then the item. -/
theorem visit_new (hmap : Finds items byUuid) (fuel : ℕ) {item : ImportItem} {st : List JsVal × List ImportItem}
    (hseen : item.uuid ∉ st.1) :
    (∃ parent ∈ items, HasParent items item parent.uuid ∧ visit byUuid (fuel + 1) item st =
        ((visit byUuid fuel parent (item.uuid :: st.1, st.2)).1,
          (visit byUuid fuel parent (item.uuid :: st.1, st.2)).2 ++ [item])) ∨
      (∀ u, ¬ HasParent items item u) ∧ visit byUuid (fuel + 1) item st = (item.uuid :: st.1, st.2 ++ [item]) := by
  obtain ⟨visited, sorted⟩ := st
  rw [visit, if_neg hseen]
  by_cases hp : item.parentUuid.truthy = true
  · rw [if_pos hp]
    have hfinds := hmap item.parentUuid hp
    cases hparent : byUuid.get item.parentUuid with
    | none =>
        rw [hparent] at hfinds
        refine .inr ⟨?_, rfl⟩
        rintro u ⟨rfl, -, p, hmem, hu⟩
        exact hfinds p hmem hu
    | some parent =>
        rw [hparent] at hfinds
        obtain ⟨hmem, hu⟩ := hfinds
        exact .inl ⟨parent, hmem, ⟨hu.symm, hu ▸ hp, parent, hmem, rfl⟩, rfl⟩
  · rw [if_neg hp]
    refine .inr ⟨?_, rfl⟩
    rintro u ⟨rfl, hu, -⟩
    exact hp hu

theorem visit_seen (fuel : ℕ) {item : ImportItem} {st : List JsVal × List ImportItem}
    (hseen : item.uuid ∈ st.1) : visit byUuid fuel item st = st := by
  cases fuel with
  | zero => rfl
  | succ fuel => exact if_pos hseen

def unvisited (items : List ImportItem) (visited : List JsVal) : List ImportItem :=
  items.filter fun g => g.uuid ∉ visited

theorem unvisited_lt {item : ImportItem} {visited : List JsVal} (hitem : item ∈ items)
    (hnew : item.uuid ∉ visited) :
    (unvisited items (item.uuid :: visited)).length < (unvisited items visited).length := by
  have hsplit : unvisited items (item.uuid :: visited) =
      (unvisited items visited).filter fun g => g.uuid ≠ item.uuid := by
    rw [unvisited, unvisited, List.filter_filter]
    apply List.filter_congr
    intro g _
    simp [not_or]
  rw [hsplit, List.length_filter_lt_length_iff_exists]
  exact ⟨item, List.mem_filter.2 ⟨hitem, by simpa using hnew⟩, by simp⟩

/-! ## Each visited item comes out once -/

/-- Each visited uuid is one of the `pending` ones, which are open, or came out with its item. -/
structure Settled (items : List ImportItem) (pending : List JsVal) (st : List JsVal × List ImportItem) : Prop where
  nodup : st.1.Nodup
  visited : st.1.Perm (pending ++ st.2.map ImportItem.uuid)
  sound : ∀ g ∈ st.2, g ∈ items

variable {pending : List JsVal} {st : List JsVal × List ImportItem} {item : ImportItem}

theorem Settled.open (h : Settled items pending st) (hseen : item.uuid ∉ st.1) :
    Settled items (item.uuid :: pending) (item.uuid :: st.1, st.2) where
  nodup := List.nodup_cons.2 ⟨hseen, h.nodup⟩
  visited := h.visited.cons _
  sound := h.sound

/-- Once the item itself is out, its visit is closed. -/
theorem Settled.close (hitem : item ∈ items) (h : Settled items (item.uuid :: pending) st) :
    Settled items pending (st.1, st.2 ++ [item]) where
  nodup := h.nodup
  visited := by
    refine h.visited.trans ?_
    rw [List.map_append, ← List.append_assoc]
    exact (List.perm_append_singleton item.uuid _).symm
  sound := by
    intro g hg
    rcases List.mem_append.1 hg with hg | hg
    · exact h.sound g hg
    · exact List.mem_singleton.1 hg ▸ hitem

/-- With more fuel than unvisited items, a visit ends by itself: the induction is on the fuel, and a
nested visit has one unvisited item less. -/
theorem visit_settled (hmap : Finds items byUuid) (fuel : ℕ) :
    ∀ {item : ImportItem} {st : List JsVal × List ImportItem} {pending : List JsVal}, item ∈ items →
      (unvisited items st.1).length < fuel → Settled items pending st →
      Settled items pending (visit byUuid fuel item st) ∧ item.uuid ∈ (visit byUuid fuel item st).1 ∧
        st.1 ⊆ (visit byUuid fuel item st).1 := by
  induction fuel with
  | zero => exact fun _ hfuel => absurd hfuel (Nat.not_lt_zero _)
  | succ fuel ih =>
      intro item st pending hitem hfuel hst
      by_cases hseen : item.uuid ∈ st.1
      · rw [visit_seen _ hseen]
        exact ⟨hst, hseen, List.Subset.refl _⟩
      obtain ⟨parent, hparent, -, he⟩ | ⟨-, he⟩ := visit_new hmap fuel hseen <;> rw [he]
      · have hless := unvisited_lt hitem hseen
        obtain ⟨hsettled, -, hsub⟩ := ih hparent (by simp only; omega) (hst.open hseen)
        exact ⟨hsettled.close hitem, hsub List.mem_cons_self, fun u hu => hsub (List.mem_cons_of_mem _ hu)⟩
      · exact ⟨(hst.open hseen).close hitem, List.mem_cons_self, List.subset_cons_self _ _⟩

/-! ## Parents come out first -/

theorem ParentsFirst.append {sorted : List ImportItem} (h : ParentsFirst items sorted)
    (hparent : ∀ u, HasParent items item u → u ∈ sorted.map ImportItem.uuid) :
    ParentsFirst items (sorted ++ [item]) := by
  intro i g hg u hu
  rw [List.getElem?_append] at hg
  split_ifs at hg with hi
  · rw [List.take_append_of_le_length hi.le]
    exact h i g hg u hu
  · obtain ⟨hlast, hitem⟩ := List.getElem?_eq_some_iff.1 hg
    rw [List.length_singleton] at hlast
    rw [List.getElem_singleton] at hitem
    rw [show i = sorted.length by omega, List.take_left]
    exact hparent u (hitem ▸ hu)

/-- Going up from the open uuids, the parent of a visited item is never one of them. -/
theorem visit_parentsFirst (hmap : Finds items byUuid) (hacyclic : Acyclic items) (fuel : ℕ) :
    ∀ {item : ImportItem} {st : List JsVal × List ImportItem} {pending : List JsVal}, item ∈ items →
      (unvisited items st.1).length < fuel → Settled items pending st →
      (∀ u ∈ pending, TransGen (Refers items) u item.uuid) → ParentsFirst items st.2 →
      ParentsFirst items (visit byUuid fuel item st).2 := by
  induction fuel with
  | zero => exact fun _ hfuel => absurd hfuel (Nat.not_lt_zero _)
  | succ fuel ih =>
      intro item st pending hitem hfuel hst hpath hfirst
      by_cases hseen : item.uuid ∈ st.1
      · rwa [visit_seen _ hseen]
      obtain ⟨parent, hparent, hhas, he⟩ | ⟨hnone, he⟩ := visit_new hmap fuel hseen <;> rw [he]
      · have hless := unvisited_lt hitem hseen
        have hfuel' : (unvisited items (item.uuid :: st.1)).length < fuel := by omega
        have hrefers : Refers items item.uuid parent.uuid := ⟨item, hitem, rfl, hhas⟩
        have hpath' : ∀ u ∈ item.uuid :: pending, TransGen (Refers items) u parent.uuid := by
          intro u hu
          rcases List.mem_cons.1 hu with rfl | hu
          · exact .single hrefers
          · exact (hpath u hu).tail hrefers
        obtain ⟨hsettled, hvisited, -⟩ := visit_settled hmap fuel hparent hfuel' (hst.open hseen)
        refine (ih hparent hfuel' (hst.open hseen) hpath' hfirst).append ?_
        rintro u ⟨rfl, -⟩
        rw [hhas.1]
        rcases List.mem_append.1 (hsettled.visited.subset hvisited) with hopen | hout
        · exact absurd (hpath' _ hopen) (hacyclic _)
        · exact hout
      · exact hfirst.append fun u hu => absurd hu (hnone u)

/-! ## The whole list -/

theorem finds_byUuid : Finds items
    ((items.filter fun i => i.uuid.truthy).foldl (fun m i => m.set i.uuid i) ([] : JsMap JsVal ImportItem)) := by
  have hfold : ∀ (l : List ImportItem) (m : JsMap JsVal ImportItem) (u : JsVal),
      match (l.foldl (fun m i => m.set i.uuid i) m).get u with
      | some p => p ∈ l ∧ p.uuid = u ∨ m.get u = some p
      | none => (∀ p ∈ l, p.uuid ≠ u) ∧ m.get u = none := by
    intro l
    induction l with
    | nil =>
        intro m u
        cases hget : m.get u with
        | none => simp [hget]
        | some p => simp [hget]
    | cons i l ih =>
        intro m u
        have hrest := ih (m.set i.uuid i) u
        rw [List.foldl_cons]
        rw [JsMap.get_set] at hrest
        split
        · rename_i p hget
          rw [hget] at hrest
          rcases hrest with ⟨hmem, hu⟩ | hset
          · exact .inl ⟨.tail _ hmem, hu⟩
          · split_ifs at hset with hi
            · obtain rfl := Option.some.inj hset
              exact .inl ⟨.head _, hi.symm⟩
            · exact .inr hset
        · rename_i hget
          rw [hget] at hrest
          obtain ⟨hall, hset⟩ := hrest
          split_ifs at hset with hi
          refine ⟨fun p hp => ?_, hset⟩
          rcases List.mem_cons.1 hp with rfl | hp
          · exact fun heq => hi heq.symm
          · exact hall p hp
  intro u hu
  have hmap := hfold (items.filter fun i => i.uuid.truthy) [] u
  split
  · rename_i p hget
    rw [hget] at hmap
    rcases hmap with ⟨hmem, hp⟩ | hempty
    · exact ⟨List.mem_of_mem_filter hmem, hp⟩
    · cases hempty
  · rename_i hget
    rw [hget] at hmap
    intro p hp heq
    exact hmap.1 p (List.mem_filter.2 ⟨hp, heq ▸ hu⟩) heq

/-- The run over the items: each is visited with fuel to spare. -/
theorem foldl_visit (hmap : Finds items byUuid) (l : List ImportItem) :
    ∀ st : List JsVal × List ImportItem, l ⊆ items → Settled items [] st →
      let out := l.foldl (fun st item => visit byUuid (items.length + 1) item st) st
      Settled items [] out ∧ st.1 ⊆ out.1 ∧ (∀ g ∈ l, g.uuid ∈ out.1) ∧
        (Acyclic items → ParentsFirst items st.2 → ParentsFirst items out.2) := by
  induction l with
  | nil =>
      intro st _ hst
      exact ⟨hst, List.Subset.refl _, List.forall_mem_nil _, fun _ hfirst => hfirst⟩
  | cons item l ih =>
      intro st hl hst
      have hitem : item ∈ items := hl List.mem_cons_self
      have hfuel : (unvisited items st.1).length < items.length + 1 :=
        Nat.lt_succ_of_le (List.length_filter_le _ _)
      obtain ⟨hsettled, hmem, hsub⟩ := visit_settled hmap _ hitem hfuel hst
      obtain ⟨hout, hsub', hall, hfirst⟩ := ih _ (fun g hg => hl (List.mem_cons_of_mem _ hg)) hsettled
      refine ⟨hout, List.Subset.trans hsub hsub', fun g hg => ?_, fun hacyclic hst' => hfirst hacyclic ?_⟩
      · rcases List.mem_cons.1 hg with rfl | hg
        · exact hsub' hmem
        · exact hall g hg
      · exact visit_parentsFirst hmap hacyclic _ hitem hfuel hst (fun u hu => by cases hu) hst'

/-- Each uuid of the items comes out once, with one of them, and parents come out first. -/
theorem topoSort_spec (items : List ImportItem) :
    ((topoSort items).map ImportItem.uuid).Nodup ∧ (∀ g ∈ topoSort items, g ∈ items) ∧
      (∀ g ∈ items, g.uuid ∈ (topoSort items).map ImportItem.uuid) ∧
      (Acyclic items → ParentsFirst items (topoSort items)) := by
  obtain ⟨hsettled, -, hall, hfirst⟩ := foldl_visit finds_byUuid items ([], []) (List.Subset.refl _)
    ⟨List.nodup_nil, .refl _, fun g hg => by cases hg⟩
  refine ⟨(hsettled.visited.nodup_iff).1 hsettled.nodup, hsettled.sound, fun g hg => ?_, fun hacyclic => ?_⟩
  · exact hsettled.visited.subset (hall g hg)
  · exact hfirst hacyclic fun i g hg => by cases hg

theorem mem_topoSort (hd : (items.map ImportItem.uuid).Nodup) {g : ImportItem} :
    g ∈ topoSort items ↔ g ∈ items := by
  obtain ⟨-, hsound, hall, -⟩ := topoSort_spec items
  refine ⟨hsound g, fun hg => ?_⟩
  obtain ⟨g', hg', hu⟩ := List.mem_map.1 (hall g hg)
  have : g' = g := List.inj_on_of_nodup_map hd (hsound g' hg') hg hu
  exact this ▸ hg'

/-- What comes out of a list in which each absent uuid is that of one item. -/
theorem kept_of_absentOnce (h : AbsentOnce items) : ∃ kept, Kept items kept ∧ (topoSort items).Perm kept := by
  obtain ⟨hnodup, hsound, hall, -⟩ := topoSort_spec items
  obtain ⟨kept, hperm, hsub⟩ := List.subperm_of_subset (List.Nodup.of_map _ hnodup) hsound
  have hkept : (kept.map ImportItem.uuid).Nodup := ((hperm.map _).nodup_iff).2 hnodup
  have hmem : ∀ g ∈ items, ∃ k ∈ kept, k.uuid = g.uuid := by
    intro g hg
    obtain ⟨k, hk, hu⟩ := List.mem_map.1 (hall g hg)
    exact ⟨k, hperm.symm.subset hk, hu⟩
  refine ⟨kept, ⟨hsub, ?_, hkept.sublist (List.filter_sublist.map _), fun g hg _ => hmem g hg⟩, hperm.symm⟩
  -- an item without a uuid is the only one with its value
  refine (hsub.filter _).eq_of_length_le ((List.subperm_of_subset (List.Nodup.of_map _ h) ?_).length_le)
  intro g hg
  obtain ⟨hgmem, hu⟩ := List.mem_filter.1 hg
  obtain ⟨k, hk, hku⟩ := hmem g hgmem
  have hsame : k = g :=
    List.inj_on_of_nodup_map h (List.mem_filter.2 ⟨hsub.subset hk, by rw [hku, hu]⟩) hg hku
  exact List.mem_filter.2 ⟨hsame ▸ hk, hu⟩

/-- **An import order loses nothing exactly when each absent uuid is that of one item**: what comes out is then a
permutation of the items that do not repeat a uuid, with parents first where the references have no cycle. -/
theorem topoSort_iff (items : List ImportItem) :
    ((∃ kept, Kept items kept ∧ (topoSort items).Perm kept) ∧
      (Acyclic items → ParentsFirst items (topoSort items))) ↔ AbsentOnce items := by
  constructor
  · rintro ⟨⟨kept, hkept, hperm⟩, -⟩
    have hnodup : (kept.map ImportItem.uuid).Nodup := ((hperm.map _).nodup_iff).1 (topoSort_spec items).1
    rw [AbsentOnce, ← hkept.without]
    exact hnodup.sublist (List.filter_sublist.map _)
  · exact fun h => ⟨kept_of_absentOnce h, (topoSort_spec items).2.2.2⟩

/-- With distinct uuids, absent ones apart, all items come out. -/
theorem topoSort_perm (habsent : AbsentOnce items)
    (hd : ((items.filter fun g => g.uuid.truthy).map ImportItem.uuid).Nodup) : (topoSort items).Perm items := by
  obtain ⟨kept, hkept, hperm⟩ := kept_of_absentOnce habsent
  rwa [hkept.eq_of_nodup hd] at hperm

/-- Two groups without a uuid: the second does not come out. -/
theorem topoSort_loses_second : ¬ ∀ items : List ImportItem, (∃ kept, Kept items kept ∧ (topoSort items).Perm kept) ∧
    (Acyclic items → ParentsFirst items (topoSort items)) := by
  intro h
  obtain ⟨kept, hkept, hperm⟩ := (h [⟨.undefined, .null, .str "web", .null, .null, .null, .null⟩,
    ⟨.undefined, .null, .str "db", .null, .null, .null, .null⟩]).1
  have hlength := congrArg List.length hkept.without
  have hkeptLength : kept.length = 1 := hperm.length_eq.symm.trans (by decide)
  have hle := List.length_filter_le (fun g : ImportItem => !g.uuid.truthy) kept
  rw [hlength, hkeptLength] at hle
  exact absurd hle (by decide)

end Obliance.Groups
