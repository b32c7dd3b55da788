import Mathlib.Data.List.Forall2
import FleetSearch.Proofs.Backend.RestAnswers
import FleetSearch.Proofs.Json.Paths

/-! What an inventory lists of a document: of the array that its path leads to, in order, the items
whose names match, each as an instance with the texts that the paths of the inventory lead to. -/

namespace FleetSearch.Backend

open FleetSearch.Inventory (Collection Instance)
open FleetSearch.Json (Decoder ReadsAs Value pathSteps)
open FleetSearch.Network (Client Message fetched)

variable {item : Value} {path text : String}

/-- The text that a path gives for an item: a string as it is and other values in their compact
spelling, with the members of objects in order; none for null, and where the path leads nowhere. -/
inductive Shows (item : Value) (path : String) : String → Prop where
  | nothing (nowhere : ∀ value, ¬ item.Leads (pathSteps path) value) : Shows item path ""
  | null (reached : item.Leads (pathSteps path) .null) : Shows item path ""
  | verbatim {text : String} (reached : item.Leads (pathSteps path) (.string text)) :
      Shows item path text
  | spelled {value : Value} (reached : item.Leads (pathSteps path) value)
      (sorted : value.Every Value.IsSorted) (notNull : value ≠ .null)
      (noText : ∀ text, value ≠ .string text) : Shows item path value.write

theorem render_eq_write {value : Value} (notNull : value ≠ .null)
    (noText : ∀ text, value ≠ .string text) : value.render = value.write := by
  cases value with
  | null => exact absurd rfl notNull
  | string text => exact absurd rfl (noText text)
  | _ => rfl

theorem shows_iff (sorted : item.Every Value.IsSorted) :
    Shows item path text ↔ Rest.fieldText item path = text := by
  have leads (value : Value) :
      item.Leads (pathSteps path) value ↔ item.lookup? path = some value := by
    rw [Value.lookup?_eq, Value.leads_iff sorted]
  constructor
  · intro shows
    cases shows with
    | nothing nowhere =>
      have missing : item.lookup? path = none :=
        Option.eq_none_iff_forall_ne_some.mpr fun value found =>
          nowhere value ((leads value).mpr found)
      rw [Rest.fieldText, missing]
      rfl
    | null reached =>
      rw [Rest.fieldText, (leads _).mp reached]
      rfl
    | verbatim reached =>
      rw [Rest.fieldText, (leads _).mp reached]
      rfl
    | spelled reached _ notNull noText =>
      rw [Rest.fieldText, (leads _).mp reached]
      exact render_eq_write notNull noText
  · rintro rfl
    rw [Rest.fieldText]
    cases found : item.lookup? path with
    | none => exact .nothing fun value reached => by simp [(leads value).mp reached] at found
    | some value =>
      have reached := (leads value).mpr found
      cases value with
      | null => exact .null reached
      | string text => exact .verbatim reached
      | _ => exact .spelled reached ((Value.lookup?_within found).2 _ sorted) nofun nofun

namespace Rest

variable {rest : Rest} {filter : Pattern.Regex} {document : Value}

/-- Whether an instance is what an inventory makes of an item. -/
structure Extracts (rest : Rest) (item : Value) (found : Instance) : Prop where
  raw : found.raw = item
  backendName : found.backendName = name
  id : Shows item rest.fields.id found.id
  name : Shows item rest.fields.name found.name
  kind : Shows item rest.fields.kind found.kind
  status : Shows item rest.fields.status found.status
  privateIp : Shows item rest.fields.privateIp found.privateIp
  publicIp : Shows item rest.fields.publicIp found.publicIp

theorem extracts_itemInstance (rest : Rest) (sorted : item.Every Value.IsSorted) :
    rest.Extracts item (rest.itemInstance item) where
  raw := rfl
  backendName := rfl
  id := (shows_iff sorted).mpr rfl
  name := (shows_iff sorted).mpr rfl
  kind := (shows_iff sorted).mpr rfl
  status := (shows_iff sorted).mpr rfl
  privateIp := (shows_iff sorted).mpr rfl
  publicIp := (shows_iff sorted).mpr rfl

/-- The instances of the items that a filter keeps, if the document has the array at all. -/
theorem select_eq_ok_iff {found : Collection} (sorted : document.Every Value.IsSorted) :
    rest.select filter document = .ok found ↔
      ∃ items, document.Leads (pathSteps rest.itemsPath) (.array items) ∧
        found = (items.filter fun item =>
          filter.matchesWithin (fieldText item rest.fields.name)).map rest.itemInstance := by
  unfold select
  simp only [Value.lookup?_eq, Value.leads_iff sorted]
  constructor
  · intro selected
    split at selected
    · rename_i items reached
      cases selected
      exact ⟨items, reached, List.filter_map⟩
    · cases selected
  · rintro ⟨items, reached, rfl⟩
    rw [reached]
    exact congrArg Except.ok List.filter_map

/-- With a pattern that compiles, a document in a response is listed exactly if the path of the
inventory leads to an array in it. Listed are items of that array in order, each as the instance
that the inventory makes of it, and of all items those whose names the filter of the pattern
matches. -/
theorem list_extracts [Pattern.Dialect] {pattern : String}
    (compiled : nameFilter? pattern = some filter) (rest : Rest) {client : Client}
    {firedAt : Option Nat} {time status : Nat} {sent : List Message} {body : List Nat}
    (answered : (client.exchange firedAt time sent rest.request).2.2 = .answered status body)
    (reads : fetched Decoder.value rest.url (.answered status body) = .ok document) :
    let listed := ((rest.list pattern).run client firedAt time sent).result
    ((∃ found, listed = .ok found) ↔
      ∃ items, document.Leads (pathSteps rest.itemsPath) (.array items)) ∧
    ∀ found, listed = .ok found →
      ∃ (items : List Value) (keeps : Value → Bool),
        document.Leads (pathSteps rest.itemsPath) (.array items) ∧
        List.Forall₂ rest.Extracts (items.filter keeps) found ∧
        ∀ item ∈ items, ∀ name, Shows item rest.fields.name name →
          keeps item = filter.matchesWithin name := by
  intro listed
  have run : listed = rest.select filter document := by
    have answer : listed = rest.answer pattern fun _ => (status, body) := result_run_list answered
    rw [answer_eq, compiled] at answer
    dsimp only at answer
    rwa [reads] at answer
  have sorted : document.Every Value.IsSorted := by
    obtain ⟨_, _, _, term, _, _, _, read⟩ := Network.exists_term_of_fetched reads
    exact (Json.Term.readsAs read).sorted
  rw [run]
  refine ⟨?_, fun found selected => ?_⟩
  · simp only [select_eq_ok_iff sorted]
    constructor
    · rintro ⟨_, items, reached, _⟩
      exact ⟨items, reached⟩
    · rintro ⟨items, reached⟩
      exact ⟨_, items, reached, rfl⟩
  · obtain ⟨items, reached, rfl⟩ := (select_eq_ok_iff sorted).mp selected
    have inner : ∀ item ∈ items, item.Every Value.IsSorted := by
      have array := ((Value.leads_iff sorted).mp reached)
      exact Json.itemsEvery_iff.mp ((Value.follow?_within array).2 _ sorted).2
    refine ⟨items, fun item => filter.matchesWithin (fieldText item rest.fields.name), reached,
      ?_, fun item member name shows => ?_⟩
    · refine List.forall₂_map_right_iff.mpr (List.forall₂_same.mpr fun item member => ?_)
      exact rest.extracts_itemInstance (inner item (List.mem_filter.mp member).1)
    · exact congrArg filter.matchesWithin ((shows_iff (inner item member)).mp shows)

/-- An inventory whose items are two levels down in a document. -/
def nestedHosts : Rest :=
  { url := "http://h/", itemsPath := "data.hosts"
    fields := { id := "uuid", name := "hostname", kind := "net", status := "state"
                privateIp := "net.0.ip", publicIp := "" } }

/-- A host that says more than its name. -/
def webHost : Value :=
  .object [("hostname", .string "web-1"),
    ("net", .array [.object [("ip", .string "10.0.0.1")]]), ("uuid", .whole 7)]

/-- A host with another name. -/
def databaseHost : Value := .object [("hostname", .string "db-1"), ("uuid", .null)]

/-- A document with both hosts. -/
def hostsDocument : Value :=
  (Value.array [webHost, databaseHost]).along (pathSteps nestedHosts.itemsPath)

theorem reads_hostsDocument : ReadsAs 127 True hostsDocument := by
  have sorted : Value.IsSorted webHost ∧ Value.IsSorted databaseHost := by
    constructor
    · show List.Pairwise (· < ·) ["hostname", "net", "uuid"]
      decide
    · show List.Pairwise (· < ·) ["hostname", "uuid"]
      decide
  have items : ReadsAs 4 True (.array [webHost, databaseHost]) := by
    refine ⟨by decide, ⟨trivial, ⟨sorted.1, ?_⟩, ⟨sorted.2, ?_⟩, trivial⟩, fun _ => ?_⟩
    all_goals
      simp [webHost, databaseHost, Value.whole, Value.Every, Json.ItemsEvery, Json.MembersEvery,
        Value.IsSorted, Value.IsWhole, Json.Number.IsWhole, Entries.Sorted, Entries.keys]
  obtain ⟨shallow, sorted, whole⟩ := Value.readsAs_along items (pathSteps nestedHosts.itemsPath)
  exact ⟨Nat.le_trans shallow (by decide), sorted, whole⟩

theorem list_extracts_hosts : ∃ found,
    ((nestedHosts.list "WEB").run (.servedWith (Network.bodyOf hostsDocument)) none 0 []).result =
      .ok found ∧ List.Forall₂ nestedHosts.Extracts [webHost] found := by
  have matched : (nameFilter? "WEB").any
      (fun filter => filter.matchesWithin "web-1" && !filter.matchesWithin "db-1") = true := by
    decide +kernel
  obtain ⟨filter, compiled, matched⟩ := (Option.any_eq_true _ _).mp matched
  obtain ⟨web, database⟩ : filter.matchesWithin "web-1" = true ∧
      filter.matchesWithin "db-1" = false := by simpa using matched
  obtain ⟨listed, extracted⟩ := list_extracts compiled nestedHosts
    (Client.exchange_servedWith (by decide +kernel))
    (Network.fetched_bodyOf reads_hostsDocument nestedHosts.url)
  have leads (items : List Value) : hostsDocument.Leads (pathSteps nestedHosts.itemsPath)
      (.array items) ↔ items = [webHost, databaseHost] := by
    rw [Value.leads_iff reads_hostsDocument.sorted, hostsDocument, Value.follow?_along]
    simp [eq_comm]
  obtain ⟨found, result⟩ := listed.mpr ⟨_, (leads _).mpr rfl⟩
  obtain ⟨items, keeps, reached, instances, names⟩ := extracted found result
  cases (leads items).mp reached
  have inner : ∀ item ∈ [webHost, databaseHost], item.Every Value.IsSorted :=
    Json.itemsEvery_iff.mp ((Value.follow?_within
      ((Value.leads_iff reads_hostsDocument.sorted).mp reached)).2 _ reads_hostsDocument.sorted).2
  have named (item : Value) (member : item ∈ [webHost, databaseHost]) :=
    names item member _ ((shows_iff (inner item member)).mpr rfl)
  have first : keeps webHost = true := (named webHost (by simp)).trans web
  have second : keeps databaseHost = false := (named databaseHost (by simp)).trans database
  rw [List.filter_cons_of_pos first, List.filter_cons_of_neg (by simp [second]),
    List.filter_nil] at instances
  exact ⟨found, result, instances⟩

end Rest

end FleetSearch.Backend
