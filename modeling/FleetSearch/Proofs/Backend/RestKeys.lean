import FleetSearch.Proofs.Backend.Keys
import FleetSearch.Proofs.Backend.RestAnswers
import FleetSearch.Proofs.Json.Paths
import FleetSearch.Proofs.Pattern.Spliced
import FleetSearch.Proofs.Text.Quoted

/-! Which listings of inventories the keys in the cache keep apart. A key is the address, a bar and
the pattern. It says neither where the items are in a document nor where their parts are, and a bar
can also be within an address or a pattern. -/

namespace FleetSearch.Backend

open FleetSearch.Inventory (Collection Instance)
open FleetSearch.Json (Decoder ReadsAs Value pathSteps)
open FleetSearch.Network (fetched)
open FleetSearch.Text (Extends)

/-- Whether two paths lead to one place in all items of an array so many levels deep in a document:
they are equal, or both longer than a document is deep. -/
def SamePlace (levels : Nat) (path other : String) : Prop :=
  path = other ∨
    (Json.depthLimit ≤ levels + (pathSteps path).length ∧
      Json.depthLimit ≤ levels + (pathSteps other).length)

/-- Whether the parts of an instance are found in the same places of an item. -/
structure FieldPaths.SamePlaces (levels : Nat) (paths other : FieldPaths) : Prop where
  id : SamePlace levels paths.id other.id
  name : SamePlace levels paths.name other.name
  kind : SamePlace levels paths.kind other.kind
  status : SamePlace levels paths.status other.status
  privateIp : SamePlace levels paths.privateIp other.privateIp
  publicIp : SamePlace levels paths.publicIp other.publicIp

theorem lookup?_eq_none {item : Value} {path : String}
    (deep : item.nesting < (pathSteps path).length) : item.lookup? path = none := by
  rw [Value.lookup?_eq]
  cases reached : item.follow? (pathSteps path) with
  | none => rfl
  | some inner =>
    have within := Value.nesting_add_length_le reached
    omega

namespace Rest

theorem fieldText_eq {levels : Nat} {item : Value} {path other : String}
    (same : SamePlace levels path other) (shallow : item.nesting + levels < Json.depthLimit) :
    fieldText item path = fieldText item other := by
  rcases same with rfl | ⟨deep, deeper⟩
  · rfl
  · rw [fieldText, fieldText, lookup?_eq_none (by omega), lookup?_eq_none (by omega)]

/-- A text in an item is found by the path to it and by no other path. -/
theorem fieldText_along_iff (path other : String) :
    fieldText ((Value.string "x").along (pathSteps path)) other = "x" ↔ other = path := by
  rw [fieldText, Value.lookup?_eq]
  constructor
  · intro found
    cases reached : ((Value.string "x").along (pathSteps path)).follow? (pathSteps other) with
    | none =>
      rw [reached] at found
      exact absurd found (by decide)
    | some inner =>
      rcases Value.follow?_along_string reached with ⟨same, _⟩ | ⟨members, rfl⟩
      · exact Json.pathSteps_injective same
      · obtain ⟨rest, spelled⟩ := Value.render_object members
        rw [reached, Option.map_some, Option.getD_some] at found
        rw [found] at spelled
        exact absurd (List.cons.inj spelled).1 (by decide)
  · rintro rfl
    rw [Value.follow?_along]
    rfl

variable {rest other : Rest} {pattern text : String} {document : Value}

theorem lookup?_null_ne (path : String) (items : List Value) :
    Value.lookup? .null path ≠ some (.array items) := by
  rw [Value.lookup?_eq]
  cases pathSteps path with
  | nil => exact fun same => nomatch same
  | cons step steps => exact fun same => nomatch same

/-- Without the array, what is listed is an error that tells the address and the path. -/
theorem select_null (rest : Rest) (filter : Pattern.Regex) :
    rest.select filter .null = .error (.ofText rest.noArray) := by
  unfold select
  split
  · rename_i items found
    exact absurd found (lookup?_null_ne _ _)
  · rfl

theorem noArray_inj (same : rest.noArray = other.noArray) :
    rest.itemsPath = other.itemsPath ∧ rest.url = other.url := by
  unfold noArray at same
  simp only [String.append_assoc] at same
  obtain ⟨paths, behind⟩ := Text.quote_append_inj ((String.append_right_inj _).mp same)
  exact ⟨paths, (String.append_right_inj _).mp behind⟩

theorem itemInstance_congr {levels : Nat} {item : Value}
    (fields : rest.fields.SamePlaces levels other.fields)
    (shallow : item.nesting + levels < Json.depthLimit) :
    rest.itemInstance item = other.itemInstance item := by
  rw [itemInstance, itemInstance, fieldText_eq fields.id shallow, fieldText_eq fields.name shallow,
    fieldText_eq fields.kind shallow, fieldText_eq fields.status shallow,
    fieldText_eq fields.privateIp shallow, fieldText_eq fields.publicIp shallow]

theorem select_congr (urls : rest.url = other.url) (paths : rest.itemsPath = other.itemsPath)
    (fields : rest.fields.SamePlaces (pathSteps rest.itemsPath).length other.fields)
    (shallow : document.nesting ≤ Json.depthLimit) (filter : Pattern.Regex) :
    rest.select filter document = other.select filter document := by
  have errors : rest.noArray = other.noArray := by
    unfold noArray
    rw [urls, paths]
  rw [select, select, errors, ← paths]
  split
  · rename_i items found
    rw [Value.lookup?_eq] at found
    have instances : items.map rest.itemInstance = items.map other.itemInstance := by
      refine List.map_congr_left fun item member => itemInstance_congr fields ?_
      have below := (Value.item_within member).2
      have reached := Value.nesting_add_length_le found
      omega
    rw [instances]
  · rfl

theorem ofValues_eq_ok {values : Config.Values} {url : String}
    (given : values.require "url" = .ok url) (valid : (Url.read url).toOption.isSome = true) :
    ofValues values = .ok
      { url, token := values.getOrEmpty "token", itemsPath := values.getOrEmpty "items_path"
        fields := fieldPaths values } := by
  rw [ofValues, given]
  dsimp only
  cases read : Url.read url with
  | error error => simp [read, Except.toOption] at valid
  | ok url => rfl

section

variable [Pattern.Dialect]

/-- Whether the keys of two inventories cover their answers: under one key they list the same, no
matter what is served. -/
def AnswersCovered (rest other : Rest) : Prop :=
  KeysCover rest.cacheKey other.cacheKey rest.answer other.answer

theorem AnswersCovered.symm (covers : rest.AnswersCovered other) : other.AnswersCovered rest :=
  KeysCover.symm covers

theorem nameFilter?_empty :
    ∃ filter, nameFilter? "" = some filter ∧ ∀ name, filter.matchesWithin name = true := by
  obtain ⟨filter, read, empty⟩ := Pattern.Regex.read?_anything
  have compiled : nameFilter? "" = some filter :=
    (if_pos Pattern.Dialect.admits_all).trans read
  exact ⟨filter, compiled, Pattern.Regex.matchesWithin_of_mayBeEmpty empty⟩

theorem answer_empty_items {items : List Value}
    (reads : ReadsAs 127 True ((Value.array items).along (pathSteps rest.itemsPath))) :
    rest.answer "" (serving ((Value.array items).along (pathSteps rest.itemsPath))) =
      .ok (items.map rest.itemInstance) := by
  obtain ⟨filter, compiled, matched⟩ := nameFilter?_empty
  rw [answer_serving compiled reads, select, Value.lookup?_eq, Value.follow?_along]
  simp [matched]

/-- What is listed of a document without items tells the address and the path to the items. -/
theorem eq_of_answer_null
    (same : rest.answer "" (serving .null) = other.answer text (serving .null)) :
    rest.itemsPath = other.itemsPath ∧ rest.url = other.url := by
  obtain ⟨filter, compiled, _⟩ := nameFilter?_empty
  have reads : ReadsAs 127 True Value.null := ⟨Nat.zero_le _, trivial, fun _ => trivial⟩
  rw [answer_serving compiled reads, select_null] at same
  cases again : nameFilter? text with
  | none =>
    rw [answer_eq, again] at same
    simp [Cause.within, Cause.ofText] at same
  | some second =>
    rw [answer_serving again reads, select_null] at same
    exact noArray_inj (by simpa [Cause.ofText] using same)

theorem AnswersCovered.not_extends (covers : rest.AnswersCovered other) :
    ¬ Extends "|" rest.url other.url := by
  intro longer
  obtain ⟨more, same⟩ := covers.eq_of_extends longer
  exact longer.ne rfl (eq_of_answer_null (congrFun same _)).2

theorem AnswersCovered.answer_empty_eq (covers : rest.AnswersCovered other)
    (urls : rest.url = other.url) (served : String → Nat × List Nat) :
    rest.answer "" served = other.answer "" served :=
  congrFun (covers.eq_of_front_eq urls "") served

/-- A part is found in the same place by both inventories if a document is deep enough for it. -/
theorem AnswersCovered.eq_of_reached (covers : rest.AnswersCovered other)
    (urls : rest.url = other.url) (paths : rest.itemsPath = other.itemsPath)
    {part : Instance → String} {place : FieldPaths → String}
    (told : ∀ (rest : Rest) item, part (rest.itemInstance item) =
      fieldText item (place rest.fields))
    (reached : (pathSteps rest.itemsPath).length + (pathSteps (place rest.fields)).length <
      Json.depthLimit) : place rest.fields = place other.fields := by
  let item := (Value.string "x").along (pathSteps (place rest.fields))
  have string : ReadsAs 0 True (Value.string "x") := ⟨Nat.le_refl _, trivial, fun _ => trivial⟩
  have array := ReadsAs.array
    (List.forall_mem_singleton.mpr (Value.readsAs_along string (pathSteps (place rest.fields))))
  have reads : ReadsAs 127 True ((Value.array [item]).along (pathSteps rest.itemsPath)) := by
    obtain ⟨shallow, sorted, whole⟩ := Value.readsAs_along array (pathSteps rest.itemsPath)
    refine ⟨Nat.le_trans shallow ?_, sorted, whole⟩
    simp only [Json.depthLimit] at reached
    omega
  have same := covers.answer_empty_eq urls
    (serving ((Value.array [item]).along (pathSteps rest.itemsPath)))
  rw [answer_empty_items reads, paths, answer_empty_items (paths ▸ reads)] at same
  have instances : rest.itemInstance item = other.itemInstance item := by simpa using same
  have parts := congrArg part instances
  rw [told, told, (fieldText_along_iff _ _).mpr rfl] at parts
  exact ((fieldText_along_iff _ _).mp parts.symm).symm

theorem AnswersCovered.samePlace (covers : rest.AnswersCovered other)
    (urls : rest.url = other.url) (paths : rest.itemsPath = other.itemsPath)
    (part : Instance → String) (place : FieldPaths → String)
    (told : ∀ (rest : Rest) item, part (rest.itemInstance item) =
      fieldText item (place rest.fields)) :
    SamePlace (pathSteps rest.itemsPath).length (place rest.fields) (place other.fields) := by
  by_cases reached : (pathSteps rest.itemsPath).length + (pathSteps (place rest.fields)).length <
      Json.depthLimit
  · exact .inl (covers.eq_of_reached urls paths told reached)
  by_cases again : (pathSteps rest.itemsPath).length + (pathSteps (place other.fields)).length <
      Json.depthLimit
  · rw [paths] at again
    exact .inl (covers.symm.eq_of_reached urls.symm paths.symm told again).symm
  · exact .inr ⟨Nat.le_of_not_lt reached, Nat.le_of_not_lt again⟩

theorem AnswersCovered.samePlaces (covers : rest.AnswersCovered other)
    (urls : rest.url = other.url) (paths : rest.itemsPath = other.itemsPath) :
    rest.fields.SamePlaces (pathSteps rest.itemsPath).length other.fields where
  id := covers.samePlace urls paths Instance.id FieldPaths.id fun _ _ => rfl
  name := covers.samePlace urls paths Instance.name FieldPaths.name fun _ _ => rfl
  kind := covers.samePlace urls paths Instance.kind FieldPaths.kind fun _ _ => rfl
  status := covers.samePlace urls paths Instance.status FieldPaths.status fun _ _ => rfl
  privateIp := covers.samePlace urls paths Instance.privateIp FieldPaths.privateIp fun _ _ => rfl
  publicIp := covers.samePlace urls paths Instance.publicIp FieldPaths.publicIp fun _ _ => rfl

theorem answer_congr (urls : rest.url = other.url) (paths : rest.itemsPath = other.itemsPath)
    (fields : rest.fields.SamePlaces (pathSteps rest.itemsPath).length other.fields)
    (pattern : String) (served : String → Nat × List Nat) :
    rest.answer pattern served = other.answer pattern served := by
  rw [answer_eq, answer_eq, urls]
  cases nameFilter? pattern with
  | none => rfl
  | some filter =>
    dsimp only
    cases fetches : fetched Decoder.value other.url
        (.answered (served other.url).1 (served other.url).2) with
    | error error => rfl
    | ok document => exact select_congr urls paths fields (Network.nesting_le_of_fetched fetches) _

/-- The keys of two inventories cover their answers if and only if neither address extends the other
by a bar and more, and inventories at one address look for items in one place and for the parts of
an instance in the same places of an item. -/
theorem answersCovered_iff (rest other : Rest) : rest.AnswersCovered other ↔
    (¬ Extends "|" rest.url other.url ∧ ¬ Extends "|" other.url rest.url) ∧
      (rest.url = other.url → rest.itemsPath = other.itemsPath ∧
        rest.fields.SamePlaces (pathSteps rest.itemsPath).length other.fields) := by
  constructor
  · intro covers
    refine ⟨⟨covers.not_extends, covers.symm.not_extends⟩, fun urls => ?_⟩
    have paths := (eq_of_answer_null (covers.answer_empty_eq urls _)).1
    exact ⟨paths, covers.samePlaces urls paths⟩
  · rintro ⟨apart, shared⟩
    refine keysCover_of_apart rfl apart fun urls pattern => funext fun served => ?_
    obtain ⟨paths, fields⟩ := shared urls
    exact answer_congr urls paths fields pattern served

end

/-- An item with a text for each part of an instance but its addresses. -/
def webItem : Value :=
  .object [("id", .string "1"), ("name", .string "web"), ("status", .string "up"),
    ("type", .string "t")]

theorem reads_webItem : ReadsAs 127 True (.array [webItem]) := by
  have sorted : Value.IsSorted webItem := by
    show List.Pairwise (· < ·) ["id", "name", "status", "type"]
    decide
  exact ⟨by decide, ⟨trivial, ⟨sorted, trivial, trivial, trivial, trivial, trivial⟩, trivial⟩,
    fun _ => ⟨trivial, ⟨trivial, trivial, trivial, trivial, trivial, trivial⟩, trivial⟩⟩

/-- The keys leave out where the items are in a document: under one key an inventory lists the items
of a document that is an array itself, while another one finds no array in it. -/
theorem hosts_not_answersCovered :
    (let rows : Rest := { url := "http://h/" }
      let hosts : Rest := { url := "http://h/", itemsPath := "hosts" }
      rows.cacheKey "web" = hosts.cacheKey "web" ∧
        rows.answer "web" (serving (.array [webItem])) = .ok [rows.itemInstance webItem] ∧
        hosts.answer "web" (serving (.array [webItem])) =
          .error (.ofText "no array found at \"hosts\" in response from http://h/")) ∧
    ¬ ∀ (values others : Config.Values) (rest other : Rest),
      ofValues values = .ok rest → ofValues others = .ok other → rest.AnswersCovered other := by
  have found : (nameFilter? "web").any (·.matchesWithin "web") = true := by decide +kernel
  obtain ⟨filter, compiled, found⟩ := (Option.any_eq_true _ _).mp found
  have rows : ({ url := "http://h/" } : Rest).answer "web" (serving (.array [webItem])) =
      .ok [({ url := "http://h/" } : Rest).itemInstance webItem] := by
    have root : (Value.array [webItem]).lookup? "" = some (.array [webItem]) := rfl
    have named : (({ url := "http://h/" } : Rest).itemInstance webItem).name = "web" := by
      decide +kernel
    rw [answer_serving compiled reads_webItem, select, root]
    simp [named, found]
  have hosts : ({ url := "http://h/", itemsPath := "hosts" } : Rest).answer "web"
      (serving (.array [webItem])) =
        .error (.ofText "no array found at \"hosts\" in response from http://h/") := by
    have nowhere : (Value.array [webItem]).lookup? "hosts" = none := by decide +kernel
    rw [answer_serving compiled reads_webItem, select, nowhere]
    exact congrArg (Except.error ∘ Cause.ofText) (by decide +kernel)
  refine ⟨⟨rfl, rows, hosts⟩, fun claim => ?_⟩
  have valid : (Url.read "http://h/").toOption.isSome = true := by decide +kernel
  have covers := claim ⟨[("url", "http://h/")]⟩ ⟨[("items_path", "hosts"), ("url", "http://h/")]⟩
    _ _ (ofValues_eq_ok rfl valid) (ofValues_eq_ok rfl valid)
  have same := covers "web" "web" rfl
  cases rows.symm.trans ((congrFun same _).trans hosts)

end Rest

end FleetSearch.Backend
