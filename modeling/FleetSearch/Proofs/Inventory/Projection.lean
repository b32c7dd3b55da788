import Mathlib.Data.List.Dedup
import Mathlib.Data.List.Forall2
import FleetSearch.Inventory.Flat
import FleetSearch.Proofs.Entries

/-! Rows reduced to keys. A reduced row has just the keys that were asked for, and under each of
them the value of the row, or null where the row has none; so it is given by which keys these are,
and of reductions one after the other to ever fewer keys only the last one counts. -/

namespace FleetSearch.Inventory

open FleetSearch.Json (Value)

variable {keys others : List String} {key : String} {row other shown : Row} {rows : List Row}

/-- Whether a row has just the given keys, each once, with the values of another row, and null
where that one has none. -/
structure Reduces (keys : List String) (row shown : Row) : Prop where
  sorted : Entries.Sorted shown
  perm : (Entries.keys shown).Perm keys.dedup
  present : ∀ key ∈ keys, ∀ value, Entries.get? key row = some value →
    Entries.get? key shown = some value
  absent : ∀ key ∈ keys, Entries.get? key row = none → Entries.get? key shown = some .null

theorem get?_project (keys : List String) (row : Row) (key : String) :
    Entries.get? key (project keys row) =
      if key ∈ keys then some ((Entries.get? key row).getD .null) else none :=
  Entries.get?_ofPairs_map (fun key => (Entries.get? key row).getD .null) key keys

theorem get?_project_of_mem (asked : key ∈ keys) (row : Row) :
    Entries.get? key (project keys row) = some ((Entries.get? key row).getD .null) :=
  (get?_project keys row key).trans (if_pos asked)

theorem sorted_project (keys : List String) (row : Row) : Entries.Sorted (project keys row) :=
  Entries.sorted_ofPairs _

theorem mem_keys_project : key ∈ Entries.keys (project keys row) ↔ key ∈ keys := by
  have asked : Entries.keys (keys.map fun key => (key, (Entries.get? key row).getD .null)) =
      keys := by
    rw [Entries.keys, List.map_map]
    exact List.map_id keys
  rw [project, Entries.mem_keys_ofPairs, asked]

/-- The row that reduces another one to keys is its projection, and no other row is. -/
theorem reduces_iff : Reduces keys row shown ↔ shown = project keys row := by
  constructor
  · intro reduces
    refine reduces.sorted.ext (sorted_project keys row) fun key => ?_
    rw [get?_project]
    split
    · rename_i asked
      cases found : Entries.get? key row with
      | none => exact reduces.absent key asked found
      | some value => exact reduces.present key asked value found
    · rename_i unasked
      cases found : Entries.get? key shown with
      | none => rfl
      | some value =>
        have there := reduces.perm.mem_iff.mp (Entries.mem_keys_of_get? found)
        exact absurd (List.mem_dedup.mp there) unasked
  · rintro rfl
    refine ⟨sorted_project keys row, ?_, ?_, ?_⟩
    · refine (List.perm_ext_iff_of_nodup (sorted_project keys row).nodup keys.nodup_dedup).mpr ?_
      intro key
      rw [mem_keys_project, List.mem_dedup]
    · intro key asked value found
      rw [get?_project_of_mem asked, found, Option.getD_some]
    · intro key asked missing
      rw [get?_project_of_mem asked, missing, Option.getD_none]

/-- Rows are reduced to the same row, if the same keys are asked for, and a row that lacks one of
them is null there in the other. -/
theorem project_congr (asked : ∀ key, key ∈ keys ↔ key ∈ others)
    (same : ∀ key ∈ keys, (Entries.get? key row).getD .null = (Entries.get? key other).getD .null) :
    project keys row = project others other := by
  refine (sorted_project keys row).ext (sorted_project others other) fun key => ?_
  rw [get?_project, get?_project]
  by_cases member : key ∈ keys
  · rw [if_pos member, if_pos ((asked key).mp member), same key member]
  · rw [if_neg member, if_neg (mt (asked key).mpr member)]

/-- A row that was reduced can be reduced to fewer keys, as if it had not been reduced before. -/
theorem project_project (among : ∀ key ∈ others, key ∈ keys) (row : Row) :
    project others (project keys row) = project others row := by
  refine project_congr (fun _ => Iff.rfl) fun key member => ?_
  rw [get?_project_of_mem (among key member), Option.getD_some]

theorem eq_projectAll_iff {reduced : List Row} :
    reduced = projectAll keys rows ↔ List.Forall₂ (Reduces keys) rows reduced := by
  have projects : Reduces keys = fun row shown => project keys row = shown := by
    funext row shown
    exact propext (reduces_iff.trans eq_comm)
  rw [projects, ← List.forall₂_map_left_iff, List.forall₂_eq_eq_eq, projectAll]
  exact eq_comm

theorem projectAll_projectAll (among : ∀ key ∈ others, key ∈ keys) (rows : List Row) :
    projectAll others (projectAll keys rows) = projectAll others rows := by
  unfold projectAll
  rw [List.map_map]
  exact List.map_congr_left fun row _ => project_project among row

/-- Rows that are reduced to keys stay in order, and each has just these keys with the values of the
row in its place, and null where that one has none. Of a reduction to keys and then to some of them
the second one counts; so a reduction can be repeated, and neither the order of the keys nor how
often one is asked for counts. -/
theorem projectAll_law (keys : List String) (rows : List Row) :
    (∀ reduced, reduced = projectAll keys rows ↔ List.Forall₂ (Reduces keys) rows reduced) ∧
    (∀ others, (∀ key ∈ others, key ∈ keys) →
      projectAll others (projectAll keys rows) = projectAll others rows) ∧
    projectAll keys (projectAll keys rows) = projectAll keys rows ∧
    ∀ others, (∀ key, key ∈ others ↔ key ∈ keys) →
      projectAll others rows = projectAll keys rows := by
  refine ⟨fun _ => eq_projectAll_iff, fun others among => projectAll_projectAll among rows,
    projectAll_projectAll (fun _ member => member) rows, ?_⟩
  intro others asked
  exact List.map_congr_left fun row _ => project_congr asked fun _ _ => rfl

/-- Two hosts, one of which has no zone, and the other one a zone that is null. -/
def zonedRows : List Row :=
  [[("id", .string "a"), ("name", .string "web1")], [("id", .string "b"), ("zone", .null)]]

theorem projectAll_law_zones :
    (∀ key ∈ ["zone"], key ∈ ["zone", "name", "zone"]) ∧
      (∀ key, key ∈ ["name", "zone"] ↔ key ∈ ["zone", "name", "zone"]) ∧
      projectAll ["zone"] (projectAll ["zone", "name", "zone"] zonedRows) =
        [[("zone", .null)], [("zone", .null)]] ∧
      projectAll ["name", "zone"] zonedRows = projectAll ["zone", "name", "zone"] zonedRows := by
  have among : ∀ key ∈ ["zone"], key ∈ ["zone", "name", "zone"] := by decide
  have asked : ∀ key, key ∈ ["name", "zone"] ↔ key ∈ ["zone", "name", "zone"] := by
    intro key
    simp only [List.mem_cons, List.not_mem_nil, or_false]
    grind
  obtain ⟨_, again, _, reordered⟩ := projectAll_law ["zone", "name", "zone"] zonedRows
  exact ⟨among, asked, (again _ among).trans rfl, reordered _ asked⟩

end FleetSearch.Inventory
