import FleetSearch.Config.Document
import FleetSearch.Config.Load
import FleetSearch.Proofs.Entries
import FleetSearch.Proofs.Yaml.Reading

/-! Settings that are loaded keep their sections in the order of the names, each name once. -/

namespace FleetSearch

namespace Yaml.Decode

variable {α β : Type} {property : α → Prop} {premise : β → Prop}

/-- Whether all that can be read has a property. -/
def Yields (decode : Decode α) (property : α → Prop) : Prop :=
  ∀ targets left value rest, (decode.run targets).run left = some (value, rest) → property value

theorem yields_any (decode : Decode α) : Yields decode fun _ => True :=
  fun targets => gives_any targets decode

theorem Yields.pure {value : α} (holds : property value) : Yields (pure value) property :=
  fun _ => Gives.pure holds

theorem Yields.failure : Yields failure property :=
  fun _ => Gives.failure

theorem Yields.bind {decode : Decode β} {next : β → Decode α} (first : Yields decode premise)
    (each : ∀ value, premise value → Yields (next value) property) :
    Yields (decode >>= next) property := by
  intro targets
  exact Gives.bind (first targets) fun value holds => each value holds targets

/-- What is read last decides. -/
theorem Yields.last (decode : Decode β) {next : β → Decode α}
    (each : ∀ value, Yields (next value) property) : Yields (decode >>= next) property :=
  (yields_any decode).bind fun value _ => each value

theorem Yields.withDefault {decode : Node → Decode α} {default : α}
    (each : ∀ node, Yields (decode node) property) (holds : property default)
    (node : Option Node) : Yields (Decode.withDefault decode default node) property := by
  cases node with
  | none => exact .pure holds
  | some node => exact each node

theorem Yields.of_document {decode : Node → Decode α} {document : Document} {value : α}
    (each : ∀ node, Yields (decode node) property)
    (read : Decode.document decode document = some value) : property value :=
  Gives.of_document (fun node => each node document.targets) read

end Yaml.Decode

namespace Config

open FleetSearch.Yaml (Node)
open FleetSearch.Yaml.Decode (Yields)

namespace Settings

/-- Whether the sections are in the order of their names, each name once. -/
def Ordered (settings : Settings) : Prop :=
  Entries.Sorted settings.backends

theorem yields_decodeBackends (depth : Nat) (node : Node) :
    Yields (decodeBackends depth node) Entries.Sorted :=
  .last _ fun _ => .last _ fun _ => .pure (Entries.sorted_ofPairs _)

theorem yields_decode (node : Node) : Yields (decode node) Ordered := by
  have noSections : Entries.Sorted ([] : Entries Section) := List.Pairwise.nil
  refine .last _ fun fields => ?_
  split
  · refine .last _ fun debug => .last _ fun cache => ?_
    refine .last _ fun server => .last _ fun outgoing => ?_
    refine .bind (.withDefault (yields_decodeBackends _) noSections _) fun backends sorted => ?_
    exact .pure sorted
  · exact .failure

theorem ordered_of_read {text : String} {settings : Settings} (read : read? text = some settings) :
    settings.Ordered := by
  obtain ⟨document, _, decoded⟩ := Option.bind_eq_some_iff.mp read
  exact Yields.of_document yields_decode decoded

end Settings

theorem ordered_of_load {file? : String → Option File} {environment : Environment}
    {settings : Settings} (loaded : load file? environment = .ok settings) :
    settings.Ordered := by
  unfold load at loaded
  split at loaded
  · split at loaded
    · rename_i settings read
      cases loaded
      have ordered : settings.Ordered := Settings.ordered_of_read read
      exact ordered
    · cases loaded
  · cases loaded
  · cases loaded
    exact List.Pairwise.nil

end Config

end FleetSearch
