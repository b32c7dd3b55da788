import FleetSearch.Network.Session
import FleetSearch.Proofs.Json.Values

/-! What a session comes to when all that comes back from the network has some form. -/

namespace FleetSearch

namespace Network

/-- Whether the document that a body spells, if any, has only whole numbers. -/
def IsWholeBody (body : List Nat) : Prop :=
  ∀ chars term, Text.decodeUtf8? body = some chars →
    Json.Term.read? (String.ofList chars) = some term → term.IsWhole

/-- Whether all bodies that come back from a network have only whole numbers. -/
def IsWhole (network : Network) : Prop :=
  ∀ sent message delay status body,
    network sent message = (delay, .response status body) → IsWholeBody body

/-- Whether a session comes to a result of some kind if its requests come out in some way. -/
def Session.Ensures {α : Type} (way : Outcome → Prop) (kind : α → Prop) : Session α → Prop
  | .done result => kind result
  | .ask _ next => ∀ outcome, way outcome → (next outcome).Ensures way kind

/-- Whether an outcome, if it has a body, has one with whole numbers. -/
def Outcome.IsWhole : Outcome → Prop
  | .answered _ body => IsWholeBody body
  | _ => True

variable {α β : Type} {client : Client} {firedAt : Option Nat} {time : Nat} {sent : List Message}

theorem Client.wait_whole {answer : Nat × Reply}
    (whole : ∀ delay status body, answer = (delay, .response status body) → IsWholeBody body) :
    (client.wait answer).2.IsWhole := by
  obtain ⟨delay, reply⟩ := answer
  cases reply with
  | unreachable => trivial
  | silence => trivial
  | response status body =>
    rw [Client.wait]
    split
    · trivial
    · exact whole delay status body rfl

theorem Client.exchange_whole (whole : client.network.IsWhole) (request : Request) :
    (client.exchange firedAt time sent request).2.2.IsWhole := by
  unfold Client.exchange
  split
  · trivial
  · split
    · trivial
    · rename_i message _
      have waited : (client.wait (client.network sent message)).2.IsWhole :=
        Client.wait_whole (whole sent message)
      dsimp only
      split
      · trivial
      · exact waited

/-- A session runs to a result of the kind that it ensures. -/
theorem Session.Ensures.run {kind : α → Prop} {session : Session α}
    (ensures : session.Ensures Outcome.IsWhole kind) (whole : client.network.IsWhole) :
    kind (session.run client firedAt time sent).result := by
  induction session generalizing time sent with
  | done result => exact ensures
  | ask request next ih => exact ih _ (ensures _ (Client.exchange_whole whole request))

theorem exists_term_of_fetched {decode : Json.Decoder α} {url : String} {outcome : Outcome}
    {value : α} (fetches : fetched decode url outcome = .ok value) :
    ∃ status body chars term, outcome = .answered status body ∧
      Text.decodeUtf8? body = some chars ∧ Json.Term.read? (String.ofList chars) = some term ∧
        decode Json.depthLimit term = some value := by
  cases outcome with
  | cancelled => cases fetches
  | failed => cases fetches
  | answered status body =>
    simp only [fetched] at fetches
    split at fetches
    · split at fetches
      · rename_i found
        cases fetches
        obtain ⟨chars, decoded, found⟩ := Option.bind_eq_some_iff.mp found
        obtain ⟨term, read, found⟩ := Option.bind_eq_some_iff.mp found
        exact ⟨status, body, chars, term, rfl, decoded, read, found⟩
      · cases fetches
    · cases fetches

theorem fetched_eq_ok {decode : Json.Decoder α} {url : String} {outcome : Outcome} {value : α}
    (whole : outcome.IsWhole) (fetches : fetched decode url outcome = .ok value) :
    ∃ term : Json.Term, term.IsWhole ∧ decode Json.depthLimit term = some value := by
  obtain ⟨status, body, chars, term, rfl, decoded, read, found⟩ := exists_term_of_fetched fetches
  exact ⟨term, whole chars term decoded read, found⟩

/-- A request for a document ensures what both a failure of it and a value from it ensure. -/
theorem Session.ensures_fetch {decode : Json.Decoder α} {request : Request}
    {next : Except FetchError α → Session β} {kind : β → Prop}
    (failed : ∀ error, (next (.error error)).Ensures Outcome.IsWhole kind)
    (found : ∀ (term : Json.Term) value, term.IsWhole →
      decode Json.depthLimit term = some value →
        (next (.ok value)).Ensures Outcome.IsWhole kind) :
    (fetch decode request next).Ensures Outcome.IsWhole kind := by
  intro outcome whole
  dsimp only
  cases fetches : fetched decode request.url outcome with
  | error error => exact failed error
  | ok value =>
    obtain ⟨term, integers, read⟩ := fetched_eq_ok whole fetches
    exact found term value integers read

end Network

end FleetSearch
