import FleetSearch.Backend.Consul
import FleetSearch.Proofs.Backend.RestAnswers
import FleetSearch.Proofs.Inventory.Written

/-! Which listings the cache gives back. A response is read with 127 levels of nesting, and so is
the text in the cache, in which a raw value stands one level deeper than it can stand in the
response: a raw value of 126 levels is listed, but its text spells nothing. -/

namespace FleetSearch.Backend

open FleetSearch.Inventory (Collection Instance)
open FleetSearch.Json (Decoder ReadsAs Term Value)
open FleetSearch.Network (Client Message Outcome)

/-- The listings of the two shipped adapters, with all their options. -/
inductive Listing.IsShipped : Listing → Prop where
  | consul (consul : Consul) (pattern : String) : IsShipped (consul.list pattern)
  | rest [Pattern.Dialect] (rest : Rest) (pattern : String) : IsShipped (rest.list pattern)

/-- Whether the raw values of what is listed were read at most 126 levels deep. -/
def IsRead : Except Cause Collection → Prop
  | .ok items => ∀ item ∈ items, ReadsAs 126 True item.raw
  | .error _ => True

private theorem itemValues?_eq (depth : Nat) (items : List Term) :
    items.mapM (Decoder.value depth) = Json.itemValues? depth items := by
  induction items with
  | nil => rfl
  | cons item rest ih =>
    rw [List.mapM_cons, ih]
    rfl

theorem Consul.ensures_listNodes (consul : Consul) {found : Collection} {raws : List Value}
    (earlier : ∀ item ∈ found, ReadsAs 126 True item.raw)
    (read : ∀ raw ∈ raws, ReadsAs 126 True raw) :
    (consul.listNodes found raws).Ensures Outcome.IsWhole IsRead := by
  induction raws generalizing found with
  | nil => exact earlier
  | cons raw rest ih =>
    obtain ⟨first, others⟩ := List.forall_mem_cons.mp read
    rw [listNodes]
    split
    · trivial
    · rename_i node _
      refine Network.Session.ensures_fetch (fun error => trivial) fun term checks _ _ => ?_
      apply ih _ others
      intro item member
      rcases List.mem_append.mp member with early | last
      · exact earlier item early
      · rw [List.mem_singleton.mp last]
        exact first

theorem Consul.ensures_list (consul : Consul) (pattern : String) :
    (consul.list pattern).Ensures Outcome.IsWhole IsRead := by
  refine Network.Session.ensures_fetch (fun error => trivial) fun term raws whole read => ?_
  refine consul.ensures_listNodes (by simp) ?_
  cases term with
  | array items =>
    have values : Json.itemValues? 126 items = some raws := by
      rw [← itemValues?_eq]
      exact read
    exact fun raw member => (Json.items_readAs values raw member).imp fun _ => whole
  | _ => cases read

theorem Rest.isRead_select (rest : Rest) (filter : Pattern.Regex) {document : Value}
    (reads : ReadsAs 127 True document) : IsRead (rest.select filter document) := by
  unfold select
  split
  · rename_i items reached
    intro item member
    obtain ⟨value, present, rfl⟩ := List.mem_map.mp (List.mem_filter.mp member).1
    obtain ⟨within, less⟩ := Value.item_within present
    have array : ReadsAs 127 True (.array items) := reads.within (Value.lookup?_within reached)
    obtain ⟨_, sorted, whole⟩ := array.within within
    exact ⟨Nat.le_of_lt_succ (Nat.lt_of_lt_of_le less array.shallow), sorted, whole⟩
  · trivial

theorem Rest.ensures_list [Pattern.Dialect] (rest : Rest) (pattern : String) :
    (rest.list pattern).Ensures Outcome.IsWhole IsRead := by
  unfold list
  split
  · trivial
  · rename_i filter _
    refine Network.Session.ensures_fetch (fun error => trivial) fun term document whole read => ?_
    exact rest.isRead_select filter ((Term.readsAs read).imp fun _ => whole)

variable {listing : Listing} {client : Client} {firedAt : Option Nat} {time : Nat}
  {sent : List Message} {items : Collection}

/-- What a shipped adapter lists has raw values as they are read, at most 126 levels deep. -/
theorem Listing.IsShipped.isRead (shipped : listing.IsShipped) (whole : client.network.IsWhole)
    (listed : (listing.run client firedAt time sent).result = .ok items) :
    ∀ item ∈ items, ReadsAs 126 True item.raw := by
  have ensures : listing.Ensures Outcome.IsWhole IsRead := by
    cases shipped with
    | consul consul pattern => exact consul.ensures_list pattern
    | rest rest pattern => exact rest.ensures_list pattern
  have read : IsRead (listing.run client firedAt time sent).result := ensures.run whole
  rw [listed] at read
  exact read

/-- What a shipped adapter lists is cached, and before it expires it is given back if its raw values
nest at most 125 levels. They may nest 126, and then the text in the cache spells nothing. -/
theorem Listing.IsShipped.read_back (shipped : listing.IsShipped) (whole : client.network.IsWhole)
    (listed : (listing.run client firedAt time sent).result = .ok items) (place : Cache.Place)
    (lifetime : Cache.Lifetime) {now later : Nat} {store : Cache.Store}
    (opened : store.isOpen = true)
    (inForce : ∀ moment ∈ lifetime.deadline? now, later < moment) :
    let kept := (Cache.put (some ∘ Collection.write) place items lifetime).run now store
    kept.1 = .ok () ∧
      ((Cache.get Collection.decode place).run later kept.2).1 =
        (if items.IsShallow 125 then .ok items else .error .corrupt) ∧
      items.IsShallow 126 := by
  have read : ∀ item ∈ items, ReadsAs 126 True item.raw := shipped.isRead whole listed
  obtain ⟨stored, found⟩ := Collection.found_after_put
    (fun item member => (read item member).sorted)
    (fun item member => (read item member).whole trivial) place lifetime opened inForce
  exact ⟨stored, found, fun item member => (read item member).shallow⟩

/-- An inventory whose document is the list of items itself. -/
def inventory : Rest := { url := "http://h/" }

/-- A client to which every response lists one item. -/
def answering (item : Value) : Client :=
  { network := fun _ _ => (0, .response 200 (Text.encodeUtf8 (Value.array [item]).chars))
    userAgent := "", timeout := 1000 }

/-- A value that nests so many levels. -/
def nested : Nat → Value
  | 0 => .null
  | depth + 1 => .array [nested depth]

theorem nesting_nested (depth : Nat) : (nested depth).nesting = depth := by
  induction depth with
  | zero => rfl
  | succ depth ih => simp [nested, Value.nesting, Json.itemsNesting, ih]

theorem nested_reads (depth : Nat) : ReadsAs depth True (nested depth) := by
  refine ⟨Nat.le_of_eq (nesting_nested depth), ?_, fun _ => ?_⟩
  all_goals
    induction depth with
    | zero => trivial
    | succ depth ih => exact ⟨trivial, ih, trivial⟩

theorem exchange_answering (item : Value) :
    ((answering item).exchange none 0 [] inventory.request).2.2 =
      .answered 200 (Text.encodeUtf8 (Value.array [item]).chars) := by
  have same : (answering item).message? inventory.request =
    (answering .null).message? inventory.request := rfl
  have sendable : ((answering item).message? inventory.request).isSome = true := by
    rw [same]
    decide +kernel
  obtain ⟨message, sent⟩ := Option.isSome_iff_exists.mp sendable
  simp only [Client.exchange, Network.hasFired, sent, Bool.false_eq_true, if_false]
  rfl

variable {item : Value}

theorem isWhole_answering (whole : item.Every Value.IsWhole) :
    (answering item).network.IsWhole := by
  intro sent message delay status body answered chars term decoded read
  have plain : Text.decodeUtf8? (Text.encodeUtf8 (Value.array [item]).chars) =
      some (Value.array [item]).chars := Text.decodeUtf8?_encodeUtf8 _
  have all : (Value.array [item]).Every Value.IsWhole := ⟨trivial, whole, trivial⟩
  cases answered
  cases plain.symm.trans decoded
  cases (Term.read?_write all).symm.trans read
  exact Value.isWhole_ofValue all

theorem listed_answering {pattern : String} (reads : ReadsAs 126 True item)
    (matched : (Rest.nameFilter? pattern).any
      (·.matchesWithin (inventory.itemInstance item).name) = true) :
    ((inventory.list pattern).run (answering item) none 0 []).result =
      .ok [inventory.itemInstance item] := by
  have document : ReadsAs 127 True (Value.array [item]) :=
    ReadsAs.array (List.forall_mem_singleton.mpr reads)
  have run : ((inventory.list pattern).run (answering item) none 0 []).result =
      inventory.answer pattern (Rest.serving (.array [item])) :=
    Rest.result_run_list (exchange_answering item)
  cases filters : Rest.nameFilter? pattern with
  | none => simp [filters] at matched
  | some filter =>
    rw [filters, Option.any_some] at matched
    have root : (Value.array [item]).lookup? inventory.itemsPath = some (.array [item]) := rfl
    rw [run, Rest.answer_serving filters document, Rest.select, root]
    simp [matched]

/-- An item that has only a name. -/
def web : Value := .object [("name", .string "web")]

theorem read_back_web :
    ((inventory.list "we").run (answering web) none 0 []).result =
        .ok [inventory.itemInstance web] ∧
      ((Cache.get Collection.decode ⟨"rest", "we"⟩).run 599
        ((Cache.put (some ∘ Collection.write) ⟨"rest", "we"⟩ [inventory.itemInstance web]
          (.ofMillis 600)).run 0 {}).2).1 = .ok [inventory.itemInstance web] := by
  have sorted : web.Every Value.IsSorted := ⟨List.pairwise_singleton _ _, trivial, trivial⟩
  have whole : web.Every Value.IsWhole := ⟨trivial, trivial, trivial⟩
  have reads : ReadsAs 126 True web := ⟨by decide, sorted, fun _ => whole⟩
  have matched : (Rest.nameFilter? "we").any
      (·.matchesWithin (inventory.itemInstance web).name) = true := by decide +kernel
  have listed := listed_answering reads matched
  have shallow : Collection.IsShallow 125 [inventory.itemInstance web] := by decide
  have opened : ({} : Cache.Store).isOpen = true := rfl
  have inForce : ∀ moment ∈ (Cache.Lifetime.ofMillis 600).deadline? 0, 599 < moment := by decide
  have kept := (Listing.IsShipped.rest inventory "we").read_back
    (isWhole_answering whole) listed ⟨"rest", "we"⟩ _ opened inForce
  exact ⟨listed, kept.2.1.trans (if_pos shallow)⟩

/-- Not all that is listed is given back: a raw value of 126 levels is lost. -/
theorem deep_item_lost : ¬ ∀ (listing : Listing) (client : Client) (firedAt : Option Nat)
    (time : Nat) (sent : List Message) (items : Collection) (place : Cache.Place)
    (lifetime : Cache.Lifetime) (now later : Nat) (store : Cache.Store),
    listing.IsShipped → client.network.IsWhole →
      (listing.run client firedAt time sent).result = .ok items → store.isOpen = true →
      (∀ moment ∈ lifetime.deadline? now, later < moment) →
      ((Cache.get Collection.decode place).run later
        ((Cache.put (some ∘ Collection.write) place items lifetime).run now store).2).1 =
          .ok items := by
  intro claim
  have reads : ReadsAs 126 True (nested 126) := nested_reads 126
  have matched : (Rest.nameFilter? "").any
      (·.matchesWithin (inventory.itemInstance (nested 126)).name) = true := by decide +kernel
  have forever : ∀ moment ∈ Cache.Lifetime.deadline? ⟨0⟩ 0, 0 < moment := by decide
  have opened : ({} : Cache.Store).isOpen = true := rfl
  have sorted : ∀ item ∈ [inventory.itemInstance (nested 126)], item.raw.Every Value.IsSorted :=
    List.forall_mem_singleton.mpr reads.sorted
  have whole : ∀ item ∈ [inventory.itemInstance (nested 126)], item.raw.Every Value.IsWhole :=
    List.forall_mem_singleton.mpr (reads.whole trivial)
  have deep : ¬ Collection.IsShallow 125 [inventory.itemInstance (nested 126)] := by
    intro shallow
    have limit : (nested 126).nesting ≤ 125 := shallow _ List.mem_cons_self
    rw [nesting_nested] at limit
    omega
  have promised := claim (inventory.list "") (answering (nested 126)) none 0 [] _ ⟨"rest", ""⟩ ⟨0⟩
    0 0 {} (.rest inventory "") (isWhole_answering (reads.whole trivial))
    (listed_answering reads matched) opened forever
  have found := (Collection.found_after_put sorted whole ⟨"rest", ""⟩ ⟨0⟩ opened forever).2
  rw [promised, if_neg deep] at found
  cases found

end FleetSearch.Backend
