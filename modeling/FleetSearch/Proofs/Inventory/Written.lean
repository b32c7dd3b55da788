import FleetSearch.Inventory.Written
import FleetSearch.Proofs.Cache.Exchange
import FleetSearch.Proofs.Json.RoundTrip

/-! Collections written and read back. The raw value of an instance stands two levels deep in the
text, so that what it nests itself is all that can be too deep. -/

namespace FleetSearch.Inventory

open FleetSearch.Json

/-- The value as which an instance is written; its members are in the order of its parts. -/
def Instance.written (item : Instance) : Value := .object item.members

theorem Collection.write_eq (items : Collection) :
    items.write = (Value.array (items.map Instance.written)).write := by
  have same : itemsChars (items.map Instance.written) = items.map Instance.chars := by
    induction items with
    | nil => rfl
    | cons item rest ih =>
      rw [List.map_cons, List.map_cons, itemsChars, ih]
      rfl
  rw [write, Value.write, Value.chars, same]

theorem Instance.every_written {item : Instance} (whole : item.raw.Every Value.IsWhole) :
    item.written.Every Value.IsWhole := by
  simp [written, members, row, columns, Value.Every, MembersEvery, Value.IsWhole, whole]

/-- An instance that is written reads back, unless its raw value nests too deep. -/
theorem Instance.decode_written (depth : Nat) {item : Instance}
    (sorted : item.raw.Every Value.IsSorted) :
    decode (depth + 1) (.ofValue item.written) =
      if item.raw.nesting ≤ depth then some item else none := by
  have parts : Decoder.record (columns ++ [rawKey]) (depth + 1) (.ofValue item.written) =
      some (item.row.map (some <| .string <| some ·) ++ [some (.ofValue item.raw)]) := by
    simp [Decoder.record, Decoder.field?, written, members, row, columns, rawKey, Term.ofValue,
      memberTerms]
  have raw : Decoder.value depth (.ofValue item.raw) =
      if item.raw.nesting ≤ depth then some item.raw else none :=
    Value.value?_ofValue depth sorted
  rw [decode, parts]
  by_cases shallow : item.raw.nesting ≤ depth <;>
    simp [row, Decoder.required, Decoder.withDefault, Decoder.text, raw, shallow]

/-- Whether the raw values of instances nest at most so many levels. -/
def Collection.IsShallow (depth : Nat) (items : Collection) : Prop :=
  ∀ item ∈ items, item.raw.nesting ≤ depth

instance (depth : Nat) (items : Collection) : Decidable (items.IsShallow depth) :=
  inferInstanceAs (Decidable (∀ item ∈ items, _))

theorem Collection.decode_written (depth : Nat) {items : Collection}
    (sorted : ∀ item ∈ items, item.raw.Every Value.IsSorted) :
    decode (depth + 2) (.ofValue (.array (items.map Instance.written))) =
      if items.IsShallow depth then some items else none := by
  rw [Term.ofValue, decode, Decoder.list]
  induction items with
  | nil => simp [itemTerms, IsShallow]
  | cons item rest ih =>
    obtain ⟨first, others⟩ := List.forall_mem_cons.mp sorted
    have both : IsShallow depth (item :: rest) ↔
        item.raw.nesting ≤ depth ∧ IsShallow depth rest := List.forall_mem_cons
    rw [List.map_cons, itemTerms, List.mapM_cons, Instance.decode_written depth first, ih others]
    by_cases shallow : item.raw.nesting ≤ depth <;> by_cases more : IsShallow depth rest <;>
      simp [both, shallow, more]

/-- The text of a collection spells the collection if its raw values nest at most 125 levels, and
otherwise nothing. -/
theorem Collection.spelled_write {items : Collection}
    (sorted : ∀ item ∈ items, item.raw.Every Value.IsSorted)
    (whole : ∀ item ∈ items, item.raw.Every Value.IsWhole) :
    Cache.spelled decode items.write =
      if items.IsShallow 125 then .ok items else .error .corrupt := by
  have all : (Value.array (items.map Instance.written)).Every Value.IsWhole := by
    refine ⟨trivial, itemsEvery_iff.mpr fun value member => ?_⟩
    obtain ⟨item, present, rfl⟩ := List.mem_map.mp member
    exact Instance.every_written (whole item present)
  have read : (Term.read? items.write).bind (decode depthLimit) =
      if items.IsShallow 125 then some items else none := by
    rw [write_eq, Term.read?_write all]
    exact decode_written 125 sorted
  rw [Cache.spelled, read]
  by_cases shallow : items.IsShallow 125 <;> simp [shallow]

/-- A collection that is put on an open store is found until it expires, unless it is too deep. -/
theorem Collection.found_after_put {items : Collection}
    (sorted : ∀ item ∈ items, item.raw.Every Value.IsSorted)
    (whole : ∀ item ∈ items, item.raw.Every Value.IsWhole) (place : Cache.Place)
    (lifetime : Cache.Lifetime) {now later : Nat} {store : Cache.Store}
    (opened : store.isOpen = true)
    (inForce : ∀ moment ∈ lifetime.deadline? now, later < moment) :
    let kept := (Cache.put (some ∘ write) place items lifetime).run now store
    kept.1 = .ok () ∧
      ((Cache.get decode place).run later kept.2).1 =
        if items.IsShallow 125 then .ok items else .error .corrupt := by
  have encoded : (some ∘ write) items = some items.write := rfl
  obtain ⟨stored, found⟩ := Cache.run_put_get decode place opened encoded inForce
  exact ⟨stored, found.trans (spelled_write sorted whole)⟩

end FleetSearch.Inventory
