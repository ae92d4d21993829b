import Obliance.Js.Number
import Obliance.Updates.Fleet
import Obliance.Users.DeviceAccess

/-!
# What the listings of a non-admin show (`routes/update.routes.ts`, `routes/softwareCompliance.routes.ts`)

* `getUpdates`, `getResults` : GET /updates and GET /software-compliance/results;
* `listing` : the rows of the unfiltered listing of the same request;
* `ShowsVisible` : a response shows the rows of the visible devices, and is refused for a hidden device only;
* `getUpdates_all`, `getUpdates_device`, `getResults_visible` : what each branch returns;
* `shows_visible_iff` : when the responses are exact.
-/

namespace Obliance.Users
open Js (Json)
open KeyedTable Updates

/-- A row of `software_compliance_results`. -/
structure ResultRow where
  id : ℕ
  deviceId : ℕ
  listId : ℕ
  tenantId : ℕ
  results : Option Json
  complianceScore : ℚ
  checkedAt : ℤ
  createdAt : ℤ

/-- The columns of `software_compliance_lists` that a result joins. -/
structure ListHead where
  name : String
  listType : String

/-- The database: ids are serial, and an update or a result belongs to a device. -/
structure ListingDb extends RbacState where
  columns : ℕ → DeviceColumns
  updates : List FleetRow
  results : List ResultRow
  lists : ℕ → Option ListHead
  devices_pos : ∀ d ∈ devices, 0 < d.id
  update_device : ∀ r ∈ updates, ∃ d ∈ devices, d.id = r.deviceId
  result_device : ∀ r ∈ results, ∃ d ∈ devices, d.id = r.deviceId

/-- What the route reads of the session. -/
structure ListingSession where
  userId : ℤ
  tenantId : ℕ
  role : String

/-- The texts of the query string. -/
structure UpdatesQuery where
  status : Option String
  severity : Option String
  deviceId : Option String

structure ResultsQuery where
  deviceId : Option String
  page : Option String

inductive Response where
  | items (l : List Json)
  /-- 403 -/
  | refused
  /-- A query throws. -/
  | failed

variable (s : ListingDb)

def ListingDb.device (id : ℕ) : Option DeviceColumns :=
  (get RightsDevice.id s.devices id).map fun d => s.columns d.id

/-! ## The listings -/

/-- `rowToResult`, with the list of the result. -/
def rowToResult (r : ResultRow) (d : Option DeviceColumns) (list : Option ListHead) : Json :=
  .obj ([field "id" (jsonNat r.id), field "deviceId" (jsonNat r.deviceId),
      field "deviceName" (orNull (fun d => jsonText d.deviceName) d), field "listId" (jsonNat r.listId),
      field "tenantId" (jsonNat r.tenantId), field "results" (r.results.getD (.arr [])),
      field "complianceScore" (.num r.complianceScore), field "checkedAt" (jsonTime r.checkedAt),
      field "createdAt" (jsonTime r.createdAt)] ++
    match list.filter (·.name ≠ "") with
    | none => []
    | some head => [field "list" (.obj [field "id" (jsonNat r.listId), field "name" (jsonText head.name),
        field "listType" (jsonText head.listType)])])

def ListingDb.resultItem (r : ResultRow) : Json := rowToResult r (s.device r.deviceId) (s.lists r.listId)

def newestResults (p : ResultRow → Bool) : List ResultRow :=
  (s.results.filter p).mergeSort fun a b => decide (b.checkedAt ≤ a.checkedAt)

/-- The rows of `getLatestResults`. -/
def latestResultRows (deviceId : ℤ) (tenantId : ℕ) : List ResultRow :=
  (newestResults s fun r => (r.deviceId : ℤ) = deviceId && r.tenantId = tenantId).take 50

/-- The rows of `getAllResults`; the page `none` is NaN, which leaves the offset out, and an offset that is
negative or no `bigint` throws. -/
def allResultRows (tenantId : ℕ) (page : Option ℤ) : Option (List ResultRow) :=
  let offset := (page.map fun page => (page - 1) * 100).getD 0
  if offset < 0 ∨ 9223372036854775807 < offset then none
  else some (((newestResults s fun r => r.tenantId = tenantId).drop offset.toNat).take 100)

/-! ## The routes -/

/-- A text that is not empty. -/
def present (param : Option String) : Option String := param.filter (· ≠ "")

/-- `canReadDevice(userId, parseInt(deviceId), false)`; `none` where the query throws. -/
def canReadParam (userId : ℤ) (deviceId : String) : Option (ℤ × Bool) :=
  ((Js.parseInt deviceId).filter isInt4).map fun id =>
    (id, decide (0 ≤ id) && canReadDevice s.toRbacState userId id.toNat false)

/-- `visibleIds.includes(v)` -/
def includesId (ids : List ℕ) (v : Option Json) : Bool :=
  match Json.int? v with
  | some z => ids.any fun id => (id : ℤ) = z
  | none => false

/-- The items of the visible devices, by a field of an item. -/
def filterVisible (userId : ℤ) (idField : String) (items : List Json) : List Json :=
  match getVisibleDeviceIds s.toRbacState userId false with
  | .all => items
  | .ids ids => items.filter fun item => includesId ids (item.get idField)

def UpdatesQuery.filters (q : UpdatesQuery) (deviceId : Option ℤ) : UpdateFilters :=
  ⟨q.status, q.severity, deviceId⟩

def answer : Option (List Json) → Response
  | some items => .items items
  | none => .failed

/-- GET /updates -/
def getUpdates (session : ListingSession) (q : UpdatesQuery) : Response :=
  let list := fun deviceId => getTenantUpdates s.updates s.device session.tenantId (q.filters deviceId)
  match present q.deviceId with
  | some deviceId =>
      if session.role = "admin" then answer (list (Js.parseInt deviceId))
      else match canReadParam s session.userId deviceId with
        | none => .failed
        | some (_, false) => .refused
        | some (id, true) => answer (list (some id))
  | none =>
      if session.role = "admin" then answer (list none)
      else answer ((list none).map (filterVisible s session.userId "device_id"))

/-- GET /software-compliance/results -/
def getResults (session : ListingSession) (q : ResultsQuery) : Response :=
  match present q.deviceId with
  | some deviceId =>
      let list := fun id => (latestResultRows s id session.tenantId).map s.resultItem
      if session.role = "admin" then
        answer (((Js.parseInt deviceId).filter isInt4).map list)
      else match canReadParam s session.userId deviceId with
        | none => .failed
        | some (_, false) => .refused
        | some (id, true) => answer (some (list id))
  | none =>
      let page := match present q.page with
        | some page => Js.parseInt page
        | none => some 1
      let list := (allResultRows s session.tenantId page).map fun rows => rows.map s.resultItem
      if session.role = "admin" then answer list
      else answer (list.map (filterVisible s session.userId "deviceId"))

inductive Request where
  | updates (q : UpdatesQuery)
  | results (q : ResultsQuery)

def respond (session : ListingSession) : Request → Response
  | .updates q => getUpdates s session q
  | .results q => getResults s session q

/-! ## The unfiltered listing -/

def Request.deviceId : Request → Option String
  | .updates q => q.deviceId
  | .results q => q.deviceId

/-- The rows that an administrator gets, each with its device. -/
def listing (session : ListingSession) : Request → Option (List (ℕ × Json))
  | .updates q =>
      let filters := q.filters ((present q.deviceId).bind Js.parseInt)
      if filters.valid then
        some ((tenantUpdateRows s.updates s.device session.tenantId filters).map fun (r, d) =>
          (r.deviceId, rowToUpdate r d))
      else none
  | .results q =>
      let rows := match present q.deviceId with
        | some deviceId => ((Js.parseInt deviceId).filter isInt4).map fun id => latestResultRows s id session.tenantId
        | none => allResultRows s session.tenantId (match present q.page with
            | some page => Js.parseInt page
            | none => some 1)
      rows.map fun rows => rows.map fun r => (r.deviceId, s.resultItem r)

def visible (userId : ℤ) (id : ℕ) : Bool :=
  match getVisibleDeviceIds s.toRbacState userId false with
  | .all => true
  | .ids ids => ids.contains id

/-- A listing shows the items of the visible devices and no others; a refusal is about a hidden device. -/
def ShowsVisible (session : ListingSession) (req : Request) : Prop :=
  match respond s session req with
  | .items items => ∃ rows, listing s session req = some rows ∧
      items = (rows.filter fun r => visible s session.userId r.1).map Prod.snd
  | .refused => ∀ d ∈ s.devices, (present req.deviceId).bind Js.parseInt = some (d.id : ℤ) →
      visible s session.userId d.id = false
  | .failed => True

section
variable {s} {session : ListingSession} {req : Request}

/-- The unfiltered listing is what an administrator gets. -/
theorem respond_admin (hrole : session.role = "admin") :
    respond s session req = answer ((listing s session req).map fun rows => rows.map Prod.snd) := by
  cases req with
  | updates q =>
      simp only [respond, getUpdates, listing, getTenantUpdates, if_pos hrole]
      cases present q.deviceId with
      | none =>
          dsimp only [Option.bind_none]
          split <;> simp [Function.comp_def]
      | some deviceId =>
          dsimp only [Option.bind_some]
          split <;> simp [Function.comp_def]
  | results q =>
      simp only [respond, getResults, listing, if_pos hrole]
      cases present q.deviceId with
      | none => simp [Function.comp_def]
      | some deviceId => simp [Function.comp_def]

/-! ## Visibility -/

theorem visible_eq (s : ListingDb) (session : ListingSession) : ∃ ids,
    getVisibleDeviceIds s.toRbacState session.userId false = .ids ids ∧
    (∀ id, visible s session.userId id = ids.contains id) ∧
    ∀ d ∈ s.devices, (d.id ∈ ids ↔ canReadDevice s.toRbacState session.userId d.id false = true) := by
  obtain ⟨ids, hids, hmem⟩ := mem_getVisibleDeviceIds s.toRbacState session.userId
  refine ⟨ids, hids, fun id => ?_, fun d hd => ?_⟩
  · rw [visible, hids]
  · rw [hmem d hd, canReadDevice, decide_eq_true_eq, getDevicePermission_iff hd]

theorem visible_iff_canRead {d : RightsDevice} (hd : d ∈ s.devices) :
    visible s session.userId d.id = canReadDevice s.toRbacState session.userId d.id false := by
  obtain ⟨ids, -, hvis, hread⟩ := visible_eq s session
  rw [hvis, Bool.eq_iff_iff, List.contains_iff_mem]
  exact hread d hd

/-- Only an existing device is readable. -/
theorem exists_of_canRead {id : ℕ} (h : canReadDevice s.toRbacState session.userId id false = true) :
    ∃ d ∈ s.devices, d.id = id := by
  rw [canReadDevice, decide_eq_true_eq, getDevicePermission, if_neg Bool.false_ne_true] at h
  cases hget : get RightsDevice.id s.devices id with
  | none => exact absurd (by rw [hget]; rfl) h
  | some d => exact ⟨d, mem_of_get hget, key_of_get hget⟩

theorem rowToResult_deviceId {r : ResultRow} {d : Option DeviceColumns} {list : Option ListHead} :
    (rowToResult r d list).get "deviceId" = some (jsonNat r.deviceId) := rfl

theorem includesId_jsonNat {ids : List ℕ} {n : ℕ} : includesId ids (some (jsonNat n)) = ids.contains n := by
  have hint : Json.int? (some (jsonNat n)) = some (n : ℤ) := rfl
  rw [includesId, hint]
  dsimp only
  rw [Bool.eq_iff_iff, List.any_eq_true, List.contains_iff_mem]
  simp

/-! ## The branches -/

/-- What the check of a device id finds. -/
theorem canReadParam_eq_some {text : String} {id : ℤ} {ok : Bool}
    (h : canReadParam s session.userId text = some (id, ok)) : Js.parseInt text = some id ∧ isInt4 id = true ∧
      ∀ d ∈ s.devices, (d.id : ℤ) = id → visible s session.userId d.id = ok := by
  obtain ⟨v, hv, heq⟩ := Option.map_eq_some_iff.1 h
  obtain ⟨hparse, hint⟩ := Option.filter_eq_some_iff.1 hv
  obtain ⟨rfl, rfl⟩ := Prod.mk.inj heq
  refine ⟨hparse, hint, ?_⟩
  rintro d hd rfl
  rw [visible_iff_canRead hd]
  simp

theorem canReadParam_true {text : String} {id : ℤ} (h : canReadParam s session.userId text = some (id, true)) :
    ∃ d ∈ s.devices, (d.id : ℤ) = id := by
  obtain ⟨v, -, heq⟩ := Option.map_eq_some_iff.1 h
  obtain ⟨rfl, hread⟩ := Prod.mk.inj heq
  obtain ⟨hnonneg, hread⟩ := Bool.and_eq_true_iff.1 hread
  obtain ⟨d, hd, hid⟩ := exists_of_canRead hread
  exact ⟨d, hd, by rw [hid, Int.toNat_of_nonneg (of_decide_eq_true hnonneg)]⟩

/-- The listing of a readable device is shown whole. -/
theorem filter_of_device {rows : List (ℕ × Json)} {id : ℤ} {d : RightsDevice} (hid : (d.id : ℤ) = id)
    (hvis : visible s session.userId d.id = true)
    (hrows : ∀ r ∈ rows, (r.1 : ℤ) = id) :
    rows.map Prod.snd = (rows.filter fun r => visible s session.userId r.1).map Prod.snd := by
  rw [List.filter_eq_self.2]
  intro r hr
  rw [show r.1 = d.id from Int.ofNat_inj.1 ((hrows r hr).trans hid.symm)]
  exact hvis

theorem getUpdates_device {q : UpdatesQuery} {text : String} (hrole : session.role ≠ "admin")
    (htext : present q.deviceId = some text) : ShowsVisible s session (.updates q) := by
  unfold ShowsVisible
  simp only [respond, getUpdates, listing, Request.deviceId, htext, if_neg hrole, Option.bind_some]
  cases hread : canReadParam s session.userId text with
  | none => trivial
  | some found =>
      obtain ⟨id, ok⟩ := found
      obtain ⟨hparse, -, hvis⟩ := canReadParam_eq_some hread
      cases ok with
      | false =>
          intro d hd hasked
          exact hvis d hd (Option.some.inj (hasked.symm.trans hparse))
      | true =>
          obtain ⟨d, hd, hid⟩ := canReadParam_true hread
          have hpos : id ≠ 0 := fun hzero => (s.devices_pos d hd).ne' (by omega)
          dsimp only
          rw [getTenantUpdates, hparse]
          by_cases hvalid : (q.filters (some id)).valid = true
          · rw [if_pos hvalid, if_pos hvalid]
            refine ⟨_, rfl, ?_⟩
            rw [← filter_of_device hid (hvis d hd hid), List.map_map]
            · rfl
            · intro r hr
              obtain ⟨⟨u, c⟩, hu, rfl⟩ := List.mem_map.1 hr
              have hsel := (Bool.and_eq_true_iff.1 (selects_of_mem hu)).2
              simpa [UpdatesQuery.filters, Option.filter, hpos] using hsel
          · rw [if_neg hvalid]
            trivial

theorem getResults_visible {q : ResultsQuery} (hrole : session.role ≠ "admin") :
    ShowsVisible s session (.results q) := by
  unfold ShowsVisible
  simp only [respond, getResults, listing, Request.deviceId, if_neg hrole]
  cases htext : present q.deviceId with
  | none =>
      dsimp only
      cases allResultRows s session.tenantId _ with
      | none => trivial
      | some rows =>
          refine ⟨_, rfl, ?_⟩
          obtain ⟨ids, hids, hvis, -⟩ := visible_eq s session
          rw [filterVisible, hids]
          dsimp only
          rw [List.filter_map, List.filter_map, List.map_map]
          congr 1
          refine List.filter_congr fun r _ => ?_
          change includesId ids ((s.resultItem r).get "deviceId") = visible s session.userId r.deviceId
          rw [ListingDb.resultItem, rowToResult_deviceId, includesId_jsonNat, hvis]
  | some text =>
      dsimp only
      cases hread : canReadParam s session.userId text with
      | none => trivial
      | some found =>
          obtain ⟨id, ok⟩ := found
          obtain ⟨hparse, hint, hvis⟩ := canReadParam_eq_some hread
          cases ok with
          | false =>
              intro d hd hasked
              exact hvis d hd (Option.some.inj (hasked.symm.trans hparse))
          | true =>
              obtain ⟨d, hd, hid⟩ := canReadParam_true hread
              refine ⟨_, by rw [hparse, Option.filter_some_pos hint]; rfl, ?_⟩
              rw [← filter_of_device hid (hvis d hd hid), List.map_map]
              · rfl
              · intro r hr
                obtain ⟨u, hu, rfl⟩ := List.mem_map.1 hr
                have hsel := (List.mem_filter.1 (List.mem_mergeSort.1 (List.mem_of_mem_take hu))).2
                exact of_decide_eq_true (Bool.and_eq_true_iff.1 hsel).1

/-- Without a device id the route finds no item of GET /updates visible. -/
theorem filterVisible_updates {rows : List (FleetRow × DeviceColumns)} :
    filterVisible s session.userId "device_id" (rows.map fun (r, d) => rowToUpdate r d) = [] := by
  obtain ⟨ids, hids, -, -⟩ := visible_eq s session
  rw [filterVisible, hids]
  refine List.filter_eq_nil_iff.2 fun item hitem => ?_
  obtain ⟨⟨r, d⟩, -, rfl⟩ := List.mem_map.1 hitem
  rw [rowToUpdate_device_id]
  exact Bool.false_ne_true

theorem getUpdates_all {q : UpdatesQuery} (hrole : session.role ≠ "admin") (htext : present q.deviceId = none) :
    ShowsVisible s session (.updates q) ↔ ∀ rows, listing s session (.updates q) = some rows →
      ∀ r ∈ rows, visible s session.userId r.1 = false := by
  unfold ShowsVisible
  simp only [respond, getUpdates, listing, htext, if_neg hrole, Option.bind_none, getTenantUpdates]
  by_cases hvalid : (q.filters none).valid = true
  · simp only [if_pos hvalid, Option.map_some, filterVisible_updates, answer, Option.some.injEq, exists_eq_left',
      forall_eq', eq_comm (a := []), List.map_eq_nil_iff, List.filter_eq_nil_iff, Bool.not_eq_true]
  · simp only [if_neg hvalid, Option.map_none, answer, reduceCtorEq, false_imp_iff, implies_true]

end

/-! ## Exactness -/

/-- **The listings of a non-admin show exactly the visible devices, except that GET /updates without a device
id shows nothing: it is exact when no row of the tenant's listing has a visible device.** -/
theorem shows_visible_iff (session : ListingSession) (hrole : session.role ≠ "admin") (req : Request) :
    ShowsVisible s session req ↔ ∀ q, req = .updates q → present q.deviceId = none →
      ∀ rows, listing s session req = some rows → ∀ r ∈ rows, visible s session.userId r.1 = false := by
  cases req with
  | results q => exact ⟨fun _ _ hq => (nomatch hq), fun _ => getResults_visible hrole⟩
  | updates q =>
      cases htext : present q.deviceId with
      | none =>
          rw [getUpdates_all hrole htext]
          constructor
          · intro h _ hq _
            cases hq
            exact h
          · exact fun h => h q rfl htext
      | some text =>
          refine ⟨fun _ _ hq hnone => ?_, fun _ => getUpdates_device hrole htext⟩
          cases hq
          rw [htext] at hnone
          cases hnone

/-! ## A team that reads one group -/

def oneUpdateRow : FleetRow :=
  ⟨⟨7, 2, "KB1", none, none, "critical", none, "windows_update", none, false, .available, none, none, none, none,
    0, 0⟩, 20, 0⟩

/-- User 4 reads group 3 and what is below it: device 20, with one update. -/
def oneUpdate : ListingDb where
  memberships := [⟨1, 4⟩]
  permissions := [⟨1, .group, 3, .ro, []⟩]
  closure := ungroupedTeam.closure
  apiKeys := []
  groups_pos := ungroupedTeam.groups_pos
  devices := [⟨20, some 5, none⟩]
  devices_keyed := by decide
  apiKeys_keyed := no_apiKeys_keyed
  apiKeys_pos := no_apiKeys_pos
  groupIds_pos := by decide
  ungrouped_zero := by decide
  columns _ := ⟨2, none, "web-1"⟩
  updates := [oneUpdateRow]
  results := []
  lists _ := none
  devices_pos := by decide
  update_device := by decide
  result_device := by decide

/-- User 4 sees no update, although device 20 is visible. -/
theorem oneUpdate_hidden : ¬ ∀ (s : ListingDb) (session : ListingSession) (req : Request), session.role ≠ "admin" →
    ShowsVisible s session req := by
  intro h
  have hshown := h oneUpdate ⟨4, 2, "user"⟩ (.updates ⟨none, none, none⟩) (by decide)
  have hhidden := (getUpdates_all (by decide) rfl).1 hshown _ rfl
  have hrows : tenantUpdateRows oneUpdate.updates oneUpdate.device 2 ⟨none, none, none⟩ =
      [(oneUpdateRow, ⟨2, none, "web-1"⟩)] := by
    unfold tenantUpdateRows
    exact congrArg (List.take 500) (List.mergeSort_singleton _)
  refine absurd (hhidden (20, rowToUpdate oneUpdateRow ⟨2, none, "web-1"⟩) ?_) (by decide)
  exact List.mem_map.2 ⟨(oneUpdateRow, ⟨2, none, "web-1"⟩), hrows ▸ List.mem_singleton_self _, rfl⟩

/-- Asked for by its device, the update is shown. -/
theorem oneUpdate_device : ShowsVisible oneUpdate ⟨4, 2, "user"⟩ (.updates ⟨none, none, some "20"⟩) :=
  (shows_visible_iff oneUpdate ⟨4, 2, "user"⟩ (by decide) _).2 fun q hq hnone => by
    cases hq
    exact absurd hnone (by decide)

end Obliance.Users
