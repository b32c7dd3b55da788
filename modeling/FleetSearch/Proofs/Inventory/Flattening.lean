import FleetSearch.Proofs.Inventory.Projection
import FleetSearch.Proofs.Json.Conversion

/-! Instances as rows for a table and as rows of named values. The names of the columns, the texts
of a row and the fields under which an instance is described are three lists of their own; they
stay in step, so that both kinds of rows say the same. -/

namespace FleetSearch

namespace Entries

variable {α : Type}

theorem map_get?_ofPairs {pairs : List (String × α)} (distinct : (keys pairs).Nodup) :
    (keys pairs).map (fun key => get? key (ofPairs pairs)) = pairs.map fun pair => some pair.2 := by
  rw [keys, List.map_map]
  exact List.map_congr_left fun pair member => get?_ofPairs_of_mem distinct member

end Entries

namespace Inventory

open FleetSearch.Json (Shape Value)

variable {item : Instance} {items : Collection}

/-- An instance field by field, each under its own name. -/
def Instance.shape (item : Instance) : Shape :=
  .record
    [("id", .text item.id), ("backend_name", .text item.backendName), ("name", .text item.name),
      ("type", .text item.kind), ("status", .text item.status),
      ("private_ip", .text item.privateIp), ("public_ip", .text item.publicIp),
      ("raw", .ofValue item.raw)]

/-- The row of a value: the members of an object, and anything else under a key of its own. -/
def rowOf : Value → Row
  | .object members => members
  | value => Entries.ofPairs [("value", value)]

/-- The rows of instances, each made of the value that its fields come to. -/
def Collection.flatten? (items : Collection) : Option (List Row) :=
  items.mapM fun item => item.shape.value?.map rowOf

theorem Instance.value?_shape (sorted : item.raw.Every Value.IsSorted) :
    item.shape.value? = some item.toValue := by
  simp [shape, Shape.value?, Shape.fieldValues?, Shape.value?_ofValue sorted, Value.ofMembers,
    toValue, flatten, members, columns, row, rawKey]

theorem Instance.keys_members (item : Instance) :
    Entries.keys item.members = columns ++ [rawKey] :=
  rfl

theorem nodup_names : (columns ++ [rawKey]).Nodup := by
  decide

/-- The row of an instance has the columns and the raw object, each once. -/
theorem Instance.keys_flatten_perm (item : Instance) :
    (Entries.keys item.flatten).Perm (columns ++ [rawKey]) := by
  have sorted : Entries.Sorted item.flatten := Entries.sorted_ofPairs _
  have member (key : String) : key ∈ Entries.keys item.flatten ↔ key ∈ columns ++ [rawKey] := by
    rw [Instance.flatten, Entries.mem_keys_ofPairs, keys_members]
  exact (List.perm_ext_iff_of_nodup sorted.nodup nodup_names).mpr member

theorem Instance.map_get?_flatten (item : Instance) :
    columns.map (fun key => Entries.get? key item.flatten) =
        item.row.map (fun cell => some (.string cell)) ∧
      Entries.get? rawKey item.flatten = some item.raw := by
  have distinct : (Entries.keys item.members).Nodup := nodup_names
  have found : (columns ++ [rawKey]).map (fun key => Entries.get? key item.flatten) =
      item.row.map (fun cell => some (.string cell)) ++ [some item.raw] :=
    Entries.map_get?_ofPairs distinct
  rw [List.map_append] at found
  obtain ⟨cells, raw⟩ := List.append_inj found rfl
  exact ⟨cells, List.singleton_inj.mp raw⟩

/-- The row of an instance, reduced to the columns, has the texts of the instance. -/
theorem Instance.map_get?_project (item : Instance) :
    columns.map (fun key => Entries.get? key (project columns item.flatten)) =
      item.row.map fun cell => some (.string cell) := by
  calc columns.map (fun key => Entries.get? key (project columns item.flatten))
      = columns.map fun key => some ((Entries.get? key item.flatten).getD .null) :=
        List.map_congr_left fun key member => get?_project_of_mem member item.flatten
    _ = (columns.map fun key => Entries.get? key item.flatten).map fun value =>
          some (value.getD .null) := by rw [List.map_map]; rfl
    _ = item.row.map fun cell => some (.string cell) := by
        rw [item.map_get?_flatten.1, List.map_map]; rfl

theorem Collection.flatten?_eq (sorted : ∀ item ∈ items, item.raw.Every Value.IsSorted) :
    flatten? items = some (flatten items) := by
  induction items with
  | nil => rfl
  | cons item rest ih =>
    obtain ⟨first, others⟩ := List.forall_mem_cons.mp sorted
    have made : item.shape.value?.map rowOf = some item.flatten := by
      rw [Instance.value?_shape first]
      rfl
    have remaining : rest.mapM (fun item => item.shape.value?.map rowOf) = some (flatten rest) :=
      ih others
    rw [flatten?, List.mapM_cons, made, remaining]
    rfl

/-- Each collection comes to rows of named values, one for each instance in its order: a row has
the seven columns and the raw object, which is the one of the instance. Reduced to the columns, the
rows have the texts of the table, each as a value in its row and column. -/
theorem Collection.projections_agree
    (sorted : ∀ item ∈ items, item.raw.Every Value.IsSorted) :
    ∃ data, flatten? items = some data ∧ data = flatten items ∧
      List.Forall₂ (fun item row => (Entries.keys row).Perm (columns ++ [rawKey]) ∧
        Entries.get? rawKey row = some item.raw) items data ∧
      columns.length = 7 ∧
      (projectAll columns data).map (fun row => columns.map fun key => Entries.get? key row) =
        (rows items).map fun cells => cells.map fun cell => some (.string cell) := by
  refine ⟨flatten items, flatten?_eq sorted, rfl, ?_, rfl, ?_⟩
  · refine List.forall₂_map_right_iff.mpr (List.forall₂_same.mpr fun item _ => ?_)
    exact ⟨item.keys_flatten_perm, item.map_get?_flatten.2⟩
  · unfold flatten projectAll rows
    rw [List.map_map, List.map_map, List.map_map]
    exact List.map_congr_left fun item _ => item.map_get?_project

/-- The raw object of a node, with an object inside. -/
def nodeRaw : Value :=
  .object [("Meta", .object [("rack", .string "a")]), ("Node", .string "web1")]

/-- A node with its raw object, and a machine without one. -/
def nodeAndMachine : Collection :=
  [{ id := "1", backendName := "consul", name := "web1", kind := "node", status := "passing",
     privateIp := "10.0.0.1", raw := nodeRaw },
   { id := "2", backendName := "rest", name := "web2", kind := "vm" }]

theorem Collection.projections_agree_node :
    (∀ item ∈ nodeAndMachine, item.raw.Every Value.IsSorted) ∧
      flatten? nodeAndMachine = some (flatten nodeAndMachine) ∧
      (projectAll columns (flatten nodeAndMachine)).map
          (fun row => columns.map fun key => Entries.get? key row) =
        [["1", "consul", "web1", "node", "passing", "10.0.0.1", ""],
          ["2", "rest", "web2", "vm", "", "", ""]].map
            fun cells => cells.map fun cell => some (.string cell) := by
  have node : nodeRaw.Every Value.IsSorted := by
    refine ⟨?_, ?_⟩
    · show List.Pairwise (· < ·) ["Meta", "Node"]
      decide
    · simp [Json.MembersEvery, Value.Every, Value.IsSorted, Entries.Sorted, Entries.keys]
  have sorted : ∀ item ∈ nodeAndMachine, item.raw.Every Value.IsSorted := by
    simp [nodeAndMachine, node, Value.Every, Value.IsSorted]
  obtain ⟨data, made, rfl, _, _, cells⟩ := projections_agree sorted
  exact ⟨sorted, made, cells⟩

end Inventory

end FleetSearch
