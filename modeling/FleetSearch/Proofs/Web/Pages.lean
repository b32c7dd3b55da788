import FleetSearch.Proofs.Inventory.Projection
import FleetSearch.Proofs.Web.Transparency
import FleetSearch.Web.Router

/-! Pages of remembered rows. Each page is a window of the rows, and pages of which each starts
where the one before stops tile the rows, whatever the numbers that were asked for. -/

namespace FleetSearch

namespace Inventory

/-- A key that is among the keys already can be named again. -/
theorem project_snoc {keys : List String} {key : String} (member : key ∈ keys) (row : Row) :
    project (keys ++ [key]) row = project keys row := by
  refine project_congr (fun other => ?_) fun _ _ => rfl
  rw [List.mem_append, List.mem_singleton, or_iff_left_iff_imp]
  rintro rfl
  exact member

end Inventory

namespace Web

open FleetSearch.Inventory (Collection Row projectAll)

section Windows

variable {start stop : Nat} {rows : List Row}

/-- Where a page stops among so many rows. -/
def lastRow (stop : Option Nat) (count : Nat) : Nat :=
  min (stop.getD defaultStop) count

theorem page_eq (start : Nat) (stop : Option Nat) (rows : List Row) :
    page start stop rows = (rows.take (lastRow stop rows.length)).drop start := by
  unfold page lastRow
  rw [← List.drop_take]
  rcases Nat.le_total start (min (stop.getD defaultStop) rows.length) with inside | beyond
  · rw [Nat.min_eq_left inside]
  · rw [Nat.min_eq_right beyond, List.drop_eq_nil_of_le (by simp),
      List.drop_eq_nil_of_le (by simp; omega)]

/-- A page continues the rows that come before it. -/
theorem take_append_page (forward : start ≤ stop) :
    rows.take start ++ page start (some stop) rows = rows.take stop := by
  have reached : rows.take (lastRow (some stop) rows.length) = rows.take stop := by
    simp [lastRow, List.take_eq_take_iff]
  have earlier : rows.take start = (rows.take stop).take start := by
    rw [List.take_take, Nat.min_eq_left forward]
  rw [page_eq, reached, earlier, List.take_append_drop]

end Windows

/-- The rows of which a page shows some: with the wanted keys and with the raw object. -/
def Params.shownRows (params : Params) (data : List Row) : List Row :=
  projectAll (params.keysOr Inventory.columns ++ [Inventory.rawKey]) data

theorem projectAll_pageKeys (params : Params) (data : List Row) :
    projectAll (pageKeys params) data = params.shownRows data := by
  by_cases named : Inventory.rawKey ∈ params.keysOr Inventory.columns
  · have same : pageKeys params = params.keysOr Inventory.columns := by simp [pageKeys, named]
    rw [same]
    unfold Params.shownRows projectAll
    exact List.map_congr_left fun row _ => (Inventory.project_snoc named row).symm
  · simp [pageKeys, named, Params.shownRows]

/-- Whether a response shows these rows, and says in its header how many there are in all. -/
structure Response.Shows (response : Response) (total : Nat) (rows : List Row) : Prop where
  served : response.status = 200
  counted : Entries.get? totalHeader response.headers = some (Text.decimal total)
  body : response.body = some (rowsValue rows)

theorem get?_totalHeader (answer : Answer) (total : Nat) (counted : answer.total = some total) :
    Entries.get? totalHeader (Response.ofAnswer answer).headers = some (Text.decimal total) := by
  simp [Response.ofAnswer, counted, exposingHeaders, commonHeaders, totalHeader, Entries.ofPairs,
    Entries.get?_insert_of_ne, Entries.get?_insert_self]

theorem shows_pageAnswer (params : Params) (data : List Row) :
    (Response.ofAnswer (pageAnswer params data)).Shows data.length
      (page params.start params.stop (params.shownRows data)) := by
  constructor
  · rfl
  · apply get?_totalHeader
    simp [pageAnswer, projectAll]
  · simp [Response.ofAnswer, pageAnswer, projectAll_pageKeys]

/-- Whether a request asks for instances with these parameters. -/
structure Request.AsksFor (request : Request) (params : Params) : Prop where
  method : request.method = "GET"
  path : request.target.path = "/api/instances"
  read : Params.read request.target.query = .ok params

namespace Service

variable {service : Service} {request : Request} {params : Params} {data : List Row}

/-- Whether these are the rows that the service remembers for the parameters, or finds for them
where it remembers none. -/
def Has (service : Service) (params : Params) (data : List Row) : Prop :=
  service.remembered? params = some data ∨
    service.remembered? params = none ∧
      ∃ items, (service.find params.request).1 = some (.ok items) ∧ data = items.flatten

private theorem respond_instances (asked : request.AsksFor params) {answer : Answer}
    (answered : (service.instances request.target.query).1 = some answer) :
    service.respond request =
      (some (.ofAnswer answer), (service.instances request.target.query).2) := by
  simp [respond, asked.method, asked.path, Route.ofPath?, Service.answer, answered]

theorem respond_of_remembered (asked : request.AsksFor params)
    (remembered : service.remembered? params = some data) :
    service.respond request = (some (.ofAnswer (pageAnswer params data)), service) := by
  have answered : service.instances request.target.query =
      (some (pageAnswer params data), service) := by
    simp [instances, asked.read, remembered]
  rw [respond_instances asked (by rw [answered]), answered]

theorem respond_of_has (asked : request.AsksFor params) (has : service.Has params data) :
    (service.respond request).1 = some (.ofAnswer (pageAnswer params data)) := by
  rcases has with remembered | ⟨unknown, items, found, rfl⟩
  · rw [respond_of_remembered asked remembered]
  · cases sought : service.find params.request with
    | mk result next =>
      rw [sought] at found
      cases found
      have answered : (service.instances request.target.query).1 =
          some (pageAnswer params items.flatten) := by
        simp [instances, asked.read, unknown, sought]
      rw [respond_instances asked answered]

/-- Pages of the same rows, one after another. The first page starts with the first row, and each
further one where the page before it stops. Between two pages anything may happen, as long as the
rows stay remembered. -/
inductive Leafs (params : Params) (data : List Row) :
    Service → Nat → List (Option Response) → Prop where
  | start (service : Service) : Leafs params data service 0 []
  | turn {service : Service} {start stop : Nat} {responses : List (Option Response)}
      {request : Request} (leafs : Leafs params data service start responses)
      (visits : List Visit) (forward : start ≤ stop)
      (asked : request.AsksFor { params with start, stop := some stop })
      (retained : (service.after visits).remembered? params = some data) :
      Leafs params data ((service.after visits).respond request).2 stop
        (responses ++ [((service.after visits).respond request).1])

/-- Which responses show which pages. -/
def Show (total : Nat) (responses : List (Option Response)) (pages : List (List Row)) : Prop :=
  List.Forall₂ (fun response shown => ∃ given, response = some given ∧ given.Shows total shown)
    responses pages

/-- One more page takes the rows that are shown as far as it goes. -/
theorem shows_turn {start stop : Nat} (forward : start ≤ stop)
    (asked : request.AsksFor { params with start, stop := some stop })
    (retained : service.remembered? params = some data) :
    ∃ response shown, (service.respond request).1 = some response ∧
      response.Shows data.length shown ∧
      (params.shownRows data).take start ++ shown = (params.shownRows data).take stop :=
  ⟨_, _, respond_of_has asked (.inl retained), shows_pageAnswer _ data,
    take_append_page forward⟩

theorem Leafs.take {stop : Nat} {responses : List (Option Response)}
    (leafs : Leafs params data service stop responses) :
    ∃ pages, Show data.length responses pages ∧
      pages.flatten = (params.shownRows data).take stop := by
  induction leafs with
  | start service => exact ⟨[], .nil, rfl⟩
  | @turn service start stop responses request leafs visits forward asked retained ih =>
    obtain ⟨pages, shows, tiled⟩ := ih
    obtain ⟨response, shown, responded, given, continued⟩ := shows_turn forward asked retained
    refine ⟨pages ++ [shown], List.rel_append shows (.cons ⟨response, responded, given⟩ .nil), ?_⟩
    rw [List.flatten_append, tiled, List.flatten_singleton, continued]

end Service

end Web

end FleetSearch
