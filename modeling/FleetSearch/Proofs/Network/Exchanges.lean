import FleetSearch.Proofs.Network.Answers

/-! The requests of a session one by one: when each was begun, whether it was sent, and what came
of it. -/

namespace FleetSearch.Network

open FleetSearch.Json (Decoder)

variable {α β : Type} {client : Client} {firedAt : Option Nat} {time later : Nat}
  {sent : List Message} {request : Request} {message : Message} {outcome : Outcome}

/-- A request of a session as it went. Nothing is sent for one that is interrupted before, or that
has no form to be sent in. -/
structure Exchange where
  request : Request
  begun : Nat
  message : Option Message
  outcome : Outcome

namespace Exchange

/-- What a request for a document came to. -/
def document (decode : Decoder α) (exchange : Exchange) : Except FetchError α :=
  fetched decode exchange.request.url exchange.outcome

end Exchange

/-- All requests of a session with an interruption at some time, or without one. -/
def Session.exchanges (client : Client) (firedAt : Option Nat) (time : Nat) (sent : List Message) :
    Session α → List Exchange
  | .done _ => []
  | .ask request next =>
    let (message, later, outcome) := client.exchange firedAt time sent request
    { request, begun := time, message, outcome } ::
      (next outcome).exchanges client firedAt later (sent ++ message.toList)

end FleetSearch.Network
