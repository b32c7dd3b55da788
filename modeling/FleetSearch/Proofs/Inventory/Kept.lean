import FleetSearch.Proofs.Backend.Cacheable
import FleetSearch.Proofs.Cache.InForce

/-! Collections in the cache, whatever their texts and raw values: the text that is kept spells the
same collection again, or it nests too deep and spells nothing; it never spells another one. -/

namespace FleetSearch.Inventory

open FleetSearch.Cache (Lifetime Place Store get put spelled)
open FleetSearch.Json (Value)

namespace Collection

variable {items other : Collection} {place : Place} {lifetime : Lifetime} {now : Nat}
  {store : Store}

theorem run_put (opened : store.isOpen = true) :
    (put (some ∘ write) place items lifetime).run now store =
      (.ok (), store.insert place ⟨items.write, lifetime.deadline? now⟩) := by
  simp [put, Cache.Access.run, Cache.Access.reply, Cache.Access.changed, opened]

variable (sorted : ∀ item ∈ items, item.raw.Every Value.IsSorted)
  (whole : ∀ item ∈ items, item.raw.Every Value.IsWhole)

include sorted whole

theorem spelled_write_of_isShallow (shallow : items.IsShallow 125) :
    spelled decode items.write = .ok items :=
  (spelled_write sorted whole).trans (if_pos shallow)

theorem spelled_write_of_not_isShallow (deep : ¬ items.IsShallow 125) :
    spelled decode items.write = .error .corrupt :=
  (spelled_write sorted whole).trans (if_neg deep)

theorem eq_of_spelled_write (spells : spelled decode items.write = .ok other) : other = items := by
  rw [spelled_write sorted whole] at spells
  split at spells
  · exact (Except.ok.inj spells).symm
  · cases spells

/-- The text under which a collection is put spells the collection if its raw values nest at most
125 levels, and otherwise it is corrupt; it never spells another collection. What the text spells
is also what is read until it expires. -/
theorem stored_spells (place : Place) (lifetime : Lifetime) (now : Nat) {store : Store}
    (opened : store.isOpen = true) :
    let kept := (put (some ∘ write) place items lifetime).run now store
    kept.1 = .ok () ∧ ∃ row, kept.2.row? place = some row ∧
      row.deadline = lifetime.deadline? now ∧
      (items.IsShallow 125 → spelled decode row.text = .ok items) ∧
      (¬ items.IsShallow 125 → spelled decode row.text = .error .corrupt) ∧
      (∀ other, spelled decode row.text = .ok other → other = items) ∧
      ∀ later, row.isExpired later = false →
        ((get decode place).run later kept.2).1 = spelled decode row.text := by
  rw [run_put opened]
  have stands : (store.insert place ⟨items.write, lifetime.deadline? now⟩).row? place =
      some ⟨items.write, lifetime.deadline? now⟩ := Store.row?_insert_self ..
  refine ⟨rfl, _, stands, rfl, ?_, ?_, ?_, ?_⟩
  · exact spelled_write_of_isShallow sorted whole
  · exact spelled_write_of_not_isShallow sorted whole
  · exact fun other => eq_of_spelled_write sorted whole
  · exact fun later valid => Cache.run_get_of_row opened stands valid

end Collection

/-- An instance with every kind of character in its texts, and with both limits of whole numbers
and both empty containers in its raw value. -/
def motley : Instance where
  id := "\"quoted\" \\ back\\slash"
  backendName := "line\nfeed\rreturn\ttab"
  name := "\x00\x08\x0c\x1f\x7f"
  kind := "é ß \u2028 \ufeff"
  status := "名前 😀𐍈\uffff"
  raw := .object [("", .array []), ("\"\\\n", .object []), ("first", .whole (-(2 ^ 63))),
    ("last", .whole (2 ^ 64 - 1)), ("é", .string "\x01/😀")]

/-- An instance with such a raw value beside the motley one. -/
def motleyBeside (raw : Value) : Collection :=
  [motley, { id := "", backendName := "", name := "", raw }]

theorem sorted_motleyBeside {raw : Value} (sorted : raw.Every Value.IsSorted) :
    ∀ item ∈ motleyBeside raw, item.raw.Every Value.IsSorted := by
  have first : motley.raw.Every Value.IsSorted := by
    refine ⟨?_, ?_⟩
    · show List.Pairwise (· < ·) ["", "\"\\\n", "first", "last", "é"]
      decide
    · simp [Json.MembersEvery, Value.Every, Value.IsSorted, Json.ItemsEvery, Entries.Sorted,
        Entries.keys, Value.whole]
  simp [motleyBeside, first, sorted]

theorem whole_motleyBeside {raw : Value} (whole : raw.Every Value.IsWhole) :
    ∀ item ∈ motleyBeside raw, item.raw.Every Value.IsWhole := by
  have first : motley.raw.Every Value.IsWhole := by
    simp [motley, Json.MembersEvery, Value.Every, Value.IsWhole, Json.ItemsEvery, Value.whole,
      Json.Number.IsWhole]
  simp [motleyBeside, first, whole]

theorem stored_spells_motley :
    let kept := fun depth => ((put (some ∘ Collection.write) ⟨"aws/eu", "web-*"⟩
      (motleyBeside (Backend.nested depth)) (.ofMillis 600)).run 5 {}).2
    ((get Collection.decode ⟨"aws/eu", "web-*"⟩).run 604 (kept 125)).1 =
        .ok (motleyBeside (Backend.nested 125)) ∧
      ((get Collection.decode ⟨"aws/eu", "web-*"⟩).run 604 (kept 126)).1 = .error .corrupt := by
  intro kept
  have opened : ({} : Store).isOpen = true := rfl
  have sorted : ∀ depth, ∀ item ∈ motleyBeside (Backend.nested depth),
      item.raw.Every Value.IsSorted :=
    fun depth => sorted_motleyBeside (Backend.nested_reads depth).sorted
  have whole : ∀ depth, ∀ item ∈ motleyBeside (Backend.nested depth),
      item.raw.Every Value.IsWhole :=
    fun depth => whole_motleyBeside ((Backend.nested_reads depth).whole trivial)
  have shallow : ∀ depth, (motleyBeside (Backend.nested depth)).IsShallow 125 ↔ depth ≤ 125 := by
    intro depth
    simp [Collection.IsShallow, motleyBeside, Backend.nesting_nested, motley, Value.nesting,
      Json.membersNesting, Json.itemsNesting, Value.whole]
  have valid : ∀ row : Cache.Row, row.deadline = (Lifetime.ofMillis 600).deadline? 5 →
      row.isExpired 604 = false := by
    intro row deadline
    rw [Cache.Row.isExpired, deadline]
    decide
  constructor
  · obtain ⟨_, row, _, deadline, spells, _, _, read⟩ := Collection.stored_spells (sorted 125)
      (whole 125) ⟨"aws/eu", "web-*"⟩ (.ofMillis 600) 5 opened
    exact (read 604 (valid row deadline)).trans (spells ((shallow 125).mpr (Nat.le_refl 125)))
  · obtain ⟨_, row, _, deadline, _, corrupt, _, read⟩ := Collection.stored_spells (sorted 126)
      (whole 126) ⟨"aws/eu", "web-*"⟩ (.ofMillis 600) 5 opened
    have deep : ¬ (motleyBeside (Backend.nested 126)).IsShallow 125 := by
      rw [shallow]
      decide
    exact (read 604 (valid row deadline)).trans (corrupt deep)

end FleetSearch.Inventory
