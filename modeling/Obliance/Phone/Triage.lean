import Mathlib.Data.List.Sort
import Obliance.Lib.JsSet
import Obliance.Lib.SlidingWindow
import Obliance.Phone.Alerts

/-!
# Site outages on the phone (`domain` `Triage.kt`)

* `Instant`, `parseInstant` : the date of an alert, in two spellings;
* `ServerAlert`, `Dated`, `dated` : an alert with its server, the offline alerts that have a date;
* `SiteOutage`, `outages` : one outage for a pair of server and tenant, from its widest window;
* `outages_exact` : an outage is reported exactly for the pairs with enough offline alerts near each other,
  and its alerts are as many as can be.
-/

namespace Obliance.Phone.Triage
open Obliance.Phone SlidingWindow

/-! ## Dates -/

/-- `java.time.Instant` -/
structure Instant where
  epochSecond : ℤ
  nano : ℕ
  deriving DecidableEq, Repr

/-- `compareTo` is not positive. -/
def Instant.le (s t : Instant) : Bool :=
  decide (s.epochSecond < t.epochSecond ∨ s.epochSecond = t.epochSecond ∧ s.nano ≤ t.nano)

theorem Instant.le_iff {s t : Instant} :
    s.le t = true ↔ s.epochSecond < t.epochSecond ∨ s.epochSecond = t.epochSecond ∧ s.nano ≤ t.nano :=
  decide_eq_true_iff

theorem Instant.le_trans (s t u : Instant) (hst : s.le t = true) (htu : t.le u = true) : s.le u = true := by
  rw [Instant.le_iff] at *
  omega

theorem Instant.le_total (s t : Instant) : (s.le t || t.le s) = true := by
  rw [Bool.or_eq_true, Instant.le_iff, Instant.le_iff]
  omega

theorem Instant.epochSecond_le {s t : Instant} (h : s.le t = true) : s.epochSecond ≤ t.epochSecond := by
  rw [Instant.le_iff] at h
  omega

/-- The two parsers of `java.time`, `none` when they throw. -/
structure Dates where
  instant : String → Option Instant
  offsetDateTime : String → Option Instant

variable (p : Platform) (dates : Dates)

/-- `Regex("[+-]\\d{2}$")` finds a match. -/
def endsInHours (text : String) : Bool :=
  match text.toList.reverse with
  | d :: e :: sign :: _ => (p.digit d).isSome && (p.digit e).isSome && decide (sign = '+' ∨ sign = '-')
  | _ => false

def parseInstant (raw : Option String) : Option Instant :=
  raw.bind fun raw =>
    if raw.toList.all p.blank then none
    else
      let text := trim p raw
      let iso := text.map fun c => if c = ' ' then 'T' else c
      (dates.instant text).or (dates.offsetDateTime (if endsInHours p iso then iso ++ ":00" else iso))

/-! ## The alerts -/

structure ServerAlert where
  serverId : String
  alert : LiveAlert
  deriving DecidableEq, Repr

/-- An alert whose `createdAt` is not null. -/
structure Dated where
  of : ServerAlert
  createdAt : Instant
  deriving DecidableEq, Repr

namespace Dated

/-- `it.serverId to it.alert.tenantId` -/
def pair (a : Dated) : String × Option ℤ := (a.of.serverId, a.of.alert.tenantId)

def second (a : Dated) : ℤ := a.createdAt.epochSecond

end Dated

/-- The filter of `outages`. -/
def dated (alerts : List ServerAlert) : List Dated :=
  alerts.filterMap fun a =>
    if category p a.alert.title = .offline then (parseInstant p dates a.alert.createdAt).map (Dated.mk a) else none

/-- The group of a pair. -/
def groupOf (alerts : List ServerAlert) (pair : String × Option ℤ) : List Dated :=
  (dated p dates alerts).filter fun a => decide (a.pair = pair)

/-! ## The outages -/

def OUTAGE_MIN : ℕ := 3

def OUTAGE_WINDOW_SEC : ℤ := 5 * 60

structure SiteOutage where
  serverId : String
  tenantId : Option ℤ
  alerts : List Dated
  start : Instant
  stop : Instant
  deriving DecidableEq, Repr

def SiteOutage.pair (o : SiteOutage) : String × Option ℤ := (o.serverId, o.tenantId)

/-- `group.sortedBy { it.createdAt }` -/
def sorted (group : List Dated) : List Dated := group.mergeSort fun a b => a.createdAt.le b.createdAt

/-- What is reported for a group, given its largest cluster. -/
def report (pair : String × Option ℤ) (best : List Dated) : Option SiteOutage :=
  if best.length < OUTAGE_MIN then none
  else match best.head?, best.getLast? with
    | some first, some last => some ⟨pair.1, pair.2, best, first.createdAt, last.createdAt⟩
    | _, _ => none

/-- The body of `flatMap`; `none` when the left end leaves the group. -/
def outageOf (pair : String × Option ℤ) (group : List Dated) : Option (Option SiteOutage) :=
  (widest Dated.second OUTAGE_WINDOW_SEC (sorted group)).map (report pair)

def outages (alerts : List ServerAlert) : Option (List SiteOutage) :=
  ((JsSet.ofList ((dated p dates alerts).map Dated.pair)).mapM fun pair => outageOf pair (groupOf p dates alerts pair)).map
    (List.filterMap id)

/-! ## What is reported -/

/-- An offline alert of the pair, with the instant its date says. -/
structure OfflineOf (pair : String × Option ℤ) (a : Dated) : Prop where
  server : a.of.serverId = pair.1
  tenant : a.of.alert.tenantId = pair.2
  offline : category p a.of.alert.title = .offline
  date : parseInstant p dates a.of.alert.createdAt = some a.createdAt

/-- Offline alerts of the pair within the window, enough of them for an outage. -/
structure Cluster (alerts : List ServerAlert) (pair : String × Option ℤ) (g : List Dated) : Prop where
  among : (g.map Dated.of).Subperm alerts
  offline : ∀ a ∈ g, OfflineOf p dates pair a
  within : Within Dated.second OUTAGE_WINDOW_SEC g
  enough : OUTAGE_MIN ≤ g.length

/-- The outages reported for the alerts are the site outages. -/
structure Exact (alerts : List ServerAlert) (found : List SiteOutage) : Prop where
  once : (found.map SiteOutage.pair).Nodup
  reported_iff : ∀ pair, (∃ o ∈ found, o.pair = pair) ↔ ∃ g, Cluster p dates alerts pair g
  cluster : ∀ o ∈ found, Cluster p dates alerts o.pair o.alerts
  largest : ∀ o ∈ found, ∀ g, Cluster p dates alerts o.pair g → g.length ≤ o.alerts.length
  unmixed : ∀ o ∈ found, ∀ a ∈ o.alerts, a.of.serverId = o.serverId ∧ a.of.alert.tenantId = o.tenantId
  between : ∀ o ∈ found, ∀ a ∈ o.alerts, o.start.le a.createdAt = true ∧ a.createdAt.le o.stop = true

section Groups
variable {p dates} {alerts : List ServerAlert}

theorem pair_of_mem_group {pair : String × Option ℤ} {a : Dated} (h : a ∈ groupOf p dates alerts pair) :
    a.pair = pair :=
  of_decide_eq_true (List.mem_filter.1 h).2

/-- The alerts of a group, with their dates, are those of the pair among all alerts. -/
def inGroup (p : Platform) (dates : Dates) (pair : String × Option ℤ) (a : ServerAlert) : Option Dated :=
  if category p a.alert.title = .offline then
    ((parseInstant p dates a.alert.createdAt).map (Dated.mk a)).filter fun a => decide (a.pair = pair)
  else none

theorem groupOf_eq (pair : String × Option ℤ) :
    groupOf p dates alerts pair = alerts.filterMap (inGroup p dates pair) := by
  rw [groupOf, dated, List.filter_filterMap]
  refine List.filterMap_congr fun a _ => ?_
  unfold inGroup
  split_ifs <;> rfl

theorem inGroup_eq_some {pair : String × Option ℤ} {b : ServerAlert} {a : Dated} :
    inGroup p dates pair b = some a ↔ a.of = b ∧ OfflineOf p dates pair a := by
  unfold inGroup
  constructor
  · intro h
    split_ifs at h with hoffline
    obtain ⟨hdated, hpair⟩ := Option.filter_eq_some_iff.1 h
    obtain ⟨t, ht, rfl⟩ := Option.map_eq_some_iff.1 hdated
    obtain ⟨hserver, htenant⟩ := Prod.ext_iff.1 (of_decide_eq_true hpair)
    exact ⟨rfl, hserver, htenant, hoffline, ht⟩
  · rintro ⟨rfl, h⟩
    rw [if_pos h.offline, h.date]
    refine Option.filter_eq_some_iff.2 ⟨rfl, decide_eq_true ?_⟩
    exact Prod.ext h.server h.tenant

theorem map_of_inGroup {pair : String × Option ℤ} :
    ∀ alerts : List ServerAlert, ((alerts.filterMap (inGroup p dates pair)).map Dated.of).Sublist alerts
  | [] => .slnil
  | b :: alerts => by
      rw [List.filterMap_cons]
      split
      case h_1 => exact (map_of_inGroup alerts).cons b
      case h_2 a ha =>
        rw [List.map_cons, (inGroup_eq_some.1 ha).1]
        exact (map_of_inGroup alerts).cons_cons b

/-- Parts of a group are groups of offline alerts of the pair. -/
theorem subperm_groupOf {pair : String × Option ℤ} {g : List Dated} :
    g.Subperm (groupOf p dates alerts pair) ↔ (g.map Dated.of).Subperm alerts ∧ ∀ a ∈ g, OfflineOf p dates pair a := by
  rw [groupOf_eq]
  constructor
  · intro h
    refine ⟨?_, fun a ha => ?_⟩
    · obtain ⟨l, hperm, hsublist⟩ := h
      exact ⟨_, hperm.map Dated.of, (hsublist.map Dated.of).trans (map_of_inGroup alerts)⟩
    · obtain ⟨b, -, hb⟩ := List.mem_filterMap.1 (h.subset ha)
      exact (inGroup_eq_some.1 hb).2
  · rintro ⟨hsub, hoffline⟩
    have hself : (g.map Dated.of).filterMap (inGroup p dates pair) = g := by
      rw [List.filterMap_map]
      have hsome : ∀ a ∈ g, (inGroup p dates pair ∘ Dated.of) a = some a := fun a ha =>
        inGroup_eq_some.2 ⟨rfl, hoffline a ha⟩
      rw [List.filterMap_congr hsome, List.filterMap_some]
    obtain ⟨l, hperm, hsublist⟩ := hsub
    rw [← hself]
    exact ⟨_, hperm.filterMap _, hsublist.filterMap _⟩

theorem cluster_iff {pair : String × Option ℤ} {g : List Dated} :
    Cluster p dates alerts pair g ↔ g.Subperm (groupOf p dates alerts pair) ∧
      Within Dated.second OUTAGE_WINDOW_SEC g ∧ OUTAGE_MIN ≤ g.length := by
  rw [subperm_groupOf]
  exact ⟨fun h => ⟨⟨h.among, h.offline⟩, h.within, h.enough⟩, fun h => ⟨h.1.1, h.1.2, h.2.1, h.2.2⟩⟩

/-- A pair that is no key of the grouping has no alert. -/
theorem mem_keys_of_cluster {pair : String × Option ℤ} {g : List Dated} (h : Cluster p dates alerts pair g) :
    pair ∈ JsSet.ofList ((dated p dates alerts).map Dated.pair) := by
  obtain ⟨hg, -, hlength⟩ := cluster_iff.1 h
  have hpos : 0 < g.length := Nat.lt_of_lt_of_le (by decide) hlength
  have hmem := hg.subset (List.getElem_mem hpos)
  rw [JsSet.mem_ofList, List.mem_map]
  exact ⟨_, (List.mem_filter.1 hmem).1, pair_of_mem_group hmem⟩

end Groups

section Sorted
variable {group best : List Dated}

theorem sorted_pairwise (group : List Dated) :
    (sorted group).Pairwise fun a b => a.createdAt.le b.createdAt = true := by
  rw [sorted]
  apply List.pairwise_mergeSort
  · exact fun a b c => Instant.le_trans a.createdAt b.createdAt c.createdAt
  · exact fun a b => Instant.le_total a.createdAt b.createdAt

theorem sorted_perm (group : List Dated) : (sorted group).Perm group := List.mergeSort_perm _ _

/-- The window of a group is a largest one, sorted by date. -/
theorem widest_sorted (group : List Dated) :
    ∃ best, widest Dated.second OUTAGE_WINDOW_SEC (sorted group) = some best ∧ best.Subperm group ∧
      (best.Pairwise fun a b => a.createdAt.le b.createdAt = true) ∧ Within Dated.second OUTAGE_WINDOW_SEC best ∧
      ∀ g, g.Subperm group → Within Dated.second OUTAGE_WINDOW_SEC g → g.length ≤ best.length := by
  have hseconds : (sorted group).Pairwise fun a b => a.second ≤ b.second :=
    (sorted_pairwise group).imp Instant.epochSecond_le
  have hwidth : 0 ≤ OUTAGE_WINDOW_SEC := by decide
  obtain ⟨best, hbest, hsub, hwithin, hlargest⟩ := widest_spec hseconds hwidth
  refine ⟨best, hbest, hsub.subperm.trans (sorted_perm group).subperm, (sorted_pairwise group).sublist hsub, hwithin,
    ?_⟩
  exact fun g hg => hlargest g (hg.trans (sorted_perm group).symm.subperm)

theorem report_eq_none (h : best.length < OUTAGE_MIN) (pair : String × Option ℤ) : report pair best = none := if_pos h

/-- A report carries its cluster, between its first and its last date. -/
theorem report_spec (hsorted : best.Pairwise fun a b => a.createdAt.le b.createdAt = true)
    (h : OUTAGE_MIN ≤ best.length) (pair : String × Option ℤ) :
    ∃ o, report pair best = some o ∧ o.pair = pair ∧ o.alerts = best ∧
      ∀ a ∈ best, o.start.le a.createdAt = true ∧ a.createdAt.le o.stop = true := by
  have hself (t : Instant) : t.le t = true := Instant.le_iff.2 (.inr ⟨rfl, Nat.le_refl _⟩)
  cases best with
  | nil => exact absurd h (by decide)
  | cons first rest =>
      obtain ⟨last, hlast⟩ := Option.ne_none_iff_exists'.1 fun h =>
        List.cons_ne_nil first rest (List.getLast?_eq_none_iff.1 h)
      refine ⟨⟨pair.1, pair.2, first :: rest, first.createdAt, last.createdAt⟩, ?_, rfl, rfl, fun a ha => ⟨?_, ?_⟩⟩
      · rw [report, if_neg (Nat.not_lt.2 h), hlast]
        rfl
      · rcases List.mem_cons.1 ha with rfl | ha
        · exact hself _
        · exact (List.pairwise_cons.1 hsorted).1 a ha
      · obtain ⟨init, hinit⟩ := List.getLast?_eq_some_iff.1 hlast
        rw [hinit] at ha hsorted
        rcases List.mem_append.1 ha with ha | ha
        · exact (List.pairwise_append.1 hsorted).2.2 a ha last (List.mem_singleton_self last)
        · obtain rfl := List.mem_singleton.1 ha
          exact hself _

end Sorted

/-- What is reported for one group. -/
structure Reported (alerts : List ServerAlert) (pair : String × Option ℤ) (r : Option SiteOutage) : Prop where
  cluster_of_none : r = none → ∀ g, ¬ Cluster p dates alerts pair g
  of_some : ∀ o, r = some o → o.pair = pair ∧ Cluster p dates alerts pair o.alerts ∧
    (∀ g, Cluster p dates alerts pair g → g.length ≤ o.alerts.length) ∧
    ∀ a ∈ o.alerts, o.start.le a.createdAt = true ∧ a.createdAt.le o.stop = true

theorem outageOf_spec (alerts : List ServerAlert) (pair : String × Option ℤ) :
    ∃ r, outageOf pair (groupOf p dates alerts pair) = some r ∧ Reported p dates alerts pair r := by
  obtain ⟨best, hbest, hsub, hsorted, hwithin, hlargest⟩ := widest_sorted (groupOf p dates alerts pair)
  refine ⟨report pair best, by rw [outageOf, hbest]; rfl, ?_⟩
  by_cases hfew : best.length < OUTAGE_MIN
  · refine ⟨fun _ g hg => ?_, fun o ho => ?_⟩
    · obtain ⟨hamong, hwithin, hmin⟩ := cluster_iff.1 hg
      have hle := hlargest g hamong hwithin
      omega
    · rw [report_eq_none hfew] at ho
      cases ho
  · obtain ⟨o, ho, hpair, halerts, hbetween⟩ := report_spec hsorted (Nat.not_lt.1 hfew) pair
    refine ⟨fun hnone => ?_, fun o' ho' => ?_⟩
    · rw [ho] at hnone
      cases hnone
    · obtain rfl := Option.some.inj (ho.symm.trans ho')
      rw [halerts]
      refine ⟨hpair, cluster_iff.2 ⟨hsub, hwithin, Nat.not_lt.1 hfew⟩, fun g hg => ?_, hbetween⟩
      obtain ⟨hamong, hwithin, -⟩ := cluster_iff.1 hg
      exact hlargest g hamong hwithin

/-- Where every element has an answer, the list has its answers. -/
theorem exists_mapM {κ β : Type} {f : κ → Option β} {P : κ → β → Prop} (h : ∀ k, ∃ r, f k = some r ∧ P k r) :
    ∀ keys : List κ, ∃ xs : List (κ × β), keys.mapM f = some (xs.map Prod.snd) ∧ xs.map Prod.fst = keys ∧
      ∀ x ∈ xs, P x.1 x.2
  | [] => ⟨[], rfl, rfl, fun _ hx => absurd hx List.not_mem_nil⟩
  | k :: keys => by
      obtain ⟨r, hr, hP⟩ := h k
      obtain ⟨xs, hxs, hkeys, hall⟩ := exists_mapM h keys
      refine ⟨(k, r) :: xs, ?_, by rw [List.map_cons, hkeys], fun x hx => ?_⟩
      · rw [List.mapM_cons, hr, hxs]
        rfl
      · rcases List.mem_cons.1 hx with rfl | hx
        · exact hP
        · exact hall x hx

/-- The reports of distinct pairs are about distinct pairs. -/
theorem nodup_pairs {alerts : List ServerAlert} :
    ∀ {xs : List ((String × Option ℤ) × Option SiteOutage)}, (xs.map Prod.fst).Nodup →
      (∀ x ∈ xs, Reported p dates alerts x.1 x.2) → (((xs.map Prod.snd).filterMap id).map SiteOutage.pair).Nodup := by
  intro xs hnodup hreported
  have hsub : (((xs.map Prod.snd).filterMap id).map SiteOutage.pair).Sublist (xs.map Prod.fst) := by
    clear hnodup
    induction xs with
    | nil => exact List.Sublist.refl _
    | cons x xs ih =>
        have htail := ih fun y hy => hreported y (List.mem_cons_of_mem _ hy)
        obtain ⟨pair, r⟩ := x
        cases r with
        | none => exact htail.cons pair
        | some o =>
            have hpair : o.pair = pair := ((hreported _ List.mem_cons_self).of_some o rfl).1
            show (o.pair :: _).Sublist (pair :: _)
            rw [hpair]
            exact htail.cons_cons pair
  exact hnodup.sublist hsub

/-- **Site outages are found exactly**, whatever the order and the dates of the alerts. -/
theorem outages_exact (alerts : List ServerAlert) :
    ∃ found, outages p dates alerts = some found ∧ Exact p dates alerts found := by
  obtain ⟨xs, hxs, hkeys, hreported⟩ := exists_mapM
    (fun pair => outageOf_spec p dates alerts pair) (JsSet.ofList ((dated p dates alerts).map Dated.pair))
  have hmem {o : SiteOutage} (h : o ∈ (xs.map Prod.snd).filterMap id) :
      ∃ x ∈ xs, x.2 = some o ∧ x.1 = o.pair := by
    obtain ⟨r, hr, ho⟩ := List.mem_filterMap.1 h
    obtain ⟨x, hx, rfl⟩ := List.mem_map.1 hr
    exact ⟨x, hx, ho, ((hreported x hx).of_some o ho).1.symm⟩
  have hspec {o : SiteOutage} (h : o ∈ (xs.map Prod.snd).filterMap id) :
      Cluster p dates alerts o.pair o.alerts ∧
        (∀ g, Cluster p dates alerts o.pair g → g.length ≤ o.alerts.length) ∧
        ∀ a ∈ o.alerts, o.start.le a.createdAt = true ∧ a.createdAt.le o.stop = true := by
    obtain ⟨x, hx, ho, hpair⟩ := hmem h
    rw [← hpair]
    exact ((hreported x hx).of_some o ho).2
  refine ⟨_, by rw [outages, hxs]; rfl, ?_⟩
  refine ⟨nodup_pairs p dates (hkeys ▸ JsSet.nodup_ofList _) hreported, fun pair => ⟨?_, ?_⟩, fun o ho => (hspec ho).1,
    fun o ho => (hspec ho).2.1, fun o ho a ha => ?_, fun o ho => (hspec ho).2.2⟩
  · rintro ⟨o, ho, rfl⟩
    exact ⟨o.alerts, (hspec ho).1⟩
  · rintro ⟨g, hg⟩
    have hkey := mem_keys_of_cluster hg
    rw [← hkeys] at hkey
    obtain ⟨x, hx, rfl⟩ := List.mem_map.1 hkey
    cases hr : x.2 with
    | none => exact absurd hg ((hreported x hx).cluster_of_none hr g)
    | some o =>
        refine ⟨o, List.mem_filterMap.2 ⟨some o, List.mem_map.2 ⟨x, hx, hr⟩, rfl⟩, ?_⟩
        exact ((hreported x hx).of_some o hr).1
  · have hoffline := (hspec ho).1.offline a ha
    exact ⟨hoffline.server, hoffline.tenant⟩

/-- Texts of one morning, as `Instant.parse` reads them. -/
def morning : Dates where
  instant text :=
    if text = "2026-09-25T03:12:00Z" then some ⟨1790305920, 0⟩
    else if text = "2026-09-25T03:14:30Z" then some ⟨1790306070, 0⟩
    else if text = "2026-09-25T03:17:00Z" then some ⟨1790306220, 0⟩
    else if text = "2026-09-25T03:40:00Z" then some ⟨1790307600, 0⟩
    else none
  offsetDateTime _ := none

def plainPlatform : Platform where
  fold c := c
  blank c := decide (c = ' ')
  digit _ := none
  lineEnd c := decide (c = '\n')
  uriPath _ := none
  parseTime _ := none

def offlineAlert (id : ℤ) (serverId title : String) (createdAt : Option String) : ServerAlert :=
  ⟨serverId, ⟨id, some 7, .critical, title, none, none, createdAt, none⟩⟩

/-- Three devices of a tenant go offline within five minutes, one later, one of another server, one without date. -/
def siteAlerts : List ServerAlert :=
  [offlineAlert 3 "a" "pc3: Hors ligne" (some "2026-09-25T03:17:00Z"),
    offlineAlert 4 "a" "pc4: Hors ligne" (some "2026-09-25T03:40:00Z"),
    offlineAlert 1 "a" "pc1: Hors ligne" (some "2026-09-25T03:12:00Z"),
    offlineAlert 5 "b" "pc5: Hors ligne" (some "2026-09-25T03:14:30Z"), offlineAlert 6 "a" "pc6: Hors ligne" none,
    offlineAlert 2 "a" "pc2: Hors ligne" (some "2026-09-25T03:14:30Z")]

/-- Those three, with their instants. -/
def siteCluster : List Dated :=
  [⟨offlineAlert 1 "a" "pc1: Hors ligne" (some "2026-09-25T03:12:00Z"), ⟨1790305920, 0⟩⟩,
    ⟨offlineAlert 2 "a" "pc2: Hors ligne" (some "2026-09-25T03:14:30Z"), ⟨1790306070, 0⟩⟩,
    ⟨offlineAlert 3 "a" "pc3: Hors ligne" (some "2026-09-25T03:17:00Z"), ⟨1790306220, 0⟩⟩]

theorem cluster_siteCluster : Cluster plainPlatform morning siteAlerts ("a", some 7) siteCluster where
  among := by decide +kernel
  offline := by
    intro a ha
    simp only [siteCluster, List.mem_cons, List.not_mem_nil, or_false] at ha
    rcases ha with rfl | rfl | rfl <;> exact ⟨rfl, rfl, by decide +kernel, by decide +kernel⟩
  within := by
    intro a ha b hb
    simp only [siteCluster, List.mem_cons, List.not_mem_nil, or_false] at ha hb
    rcases ha with rfl | rfl | rfl <;> rcases hb with rfl | rfl | rfl <;> decide
  enough := by decide

/-- The three are reported as an outage of their server and tenant. -/
theorem outages_exact_site : ∃ found, outages plainPlatform morning siteAlerts = some found ∧
    Exact plainPlatform morning siteAlerts found ∧
    ∃ o ∈ found, o.pair = ("a", some 7) ∧ 3 ≤ o.alerts.length := by
  obtain ⟨found, hfound, hexact⟩ := outages_exact plainPlatform morning siteAlerts
  obtain ⟨o, ho, hpair⟩ := (hexact.reported_iff ("a", some 7)).2 ⟨siteCluster, cluster_siteCluster⟩
  exact ⟨found, hfound, hexact, o, ho, hpair, (hexact.cluster o ho).enough⟩

end Obliance.Phone.Triage
