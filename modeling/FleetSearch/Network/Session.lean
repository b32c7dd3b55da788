import FleetSearch.Json.Decode
import FleetSearch.Json.Read
import FleetSearch.Network.Client
import FleetSearch.Backend.Cause
import FleetSearch.Unicode.Blank

/-! Sessions: requests one after another, each depending on the answers to those before it. A
session can be interrupted at any time. -/

namespace FleetSearch.Network

open FleetSearch.Backend (Cause)

inductive Outcome where
  | cancelled
  | failed
  | answered (status : Nat) (body : List Nat)
deriving DecidableEq, Repr

inductive Session (α : Type) where
  | done (result : α)
  | ask (request : Request) (next : Outcome → Session α)

/-- A session as it went: its result, when it ended, and the messages that were sent. -/
structure Transcript (α : Type) where
  result : α
  time : Nat
  sent : List Message

/-- How long a reply takes and what it is when the client waits no longer than its timeout. -/
def Client.wait (client : Client) (answer : Nat × Reply) : Nat × Outcome :=
  match answer with
  | (delay, .response status body) =>
    if client.timeout < delay then (client.timeout, .failed) else (delay, .answered status body)
  | (delay, .unreachable) => (min delay client.timeout, .failed)
  | (_, .silence) => (client.timeout, .failed)

def hasFired (firedAt : Option Nat) (time : Nat) : Bool :=
  match firedAt with
  | some moment => decide (moment ≤ time)
  | none => false

/-- Whether a message is sent for a request, when it comes to an end and how. An interruption
comes before everything else that happens at the same time. -/
def Client.exchange (client : Client) (firedAt : Option Nat) (time : Nat) (sent : List Message)
    (request : Request) : Option Message × Nat × Outcome :=
  if hasFired firedAt time then (none, time, .cancelled)
  else match client.message? request with
    | none => (none, time, .failed)
    | some message =>
      let (delay, outcome) := client.wait (client.network sent message)
      if hasFired firedAt (time + delay) then
        (some message, max time (firedAt.getD time), .cancelled)
      else (some message, time + delay, outcome)

/-- Runs a session with an interruption at some time, or without one. -/
def Session.run {α : Type} (client : Client) (firedAt : Option Nat) (time : Nat)
    (sent : List Message) : Session α → Transcript α
  | .done result => ⟨result, time, sent⟩
  | .ask request next =>
    let (message, time, outcome) := client.exchange firedAt time sent request
    (next outcome).run client firedAt time (sent ++ message.toList)

/-- Why a request for a JSON document fails. -/
inductive FetchError where
  | cancelled (url : String)
  | failed (url : String)
  | badStatus (status : Nat) (url body : String)
  | badJson (url : String)
deriving DecidableEq, Repr

def FetchError.cause : FetchError → Cause
  | .cancelled url => .ofText ("request to " ++ url ++ " cancelled")
  | .failed url => Cause.within ⟨.foreign .transport, []⟩ ("request to " ++ url ++ " failed")
  | .badStatus status url body =>
    .ofText ("HTTP error " ++ Text.decimal status ++ " from " ++ url ++ ": " ++ body)
  | .badJson url => Cause.within ⟨.foreign .json, []⟩ ("failed to parse JSON from " ++ url)

def isSuccess (status : Nat) : Bool := 200 ≤ status && status < 300

def fetched {α : Type} (decode : Json.Decoder α) (url : String) : Outcome → Except FetchError α
  | .cancelled => .error (.cancelled url)
  | .failed => .error (.failed url)
  | .answered status body =>
    if isSuccess status then
      let found := do
        let chars ← Text.decodeUtf8? body
        let term ← Json.Term.read? (String.ofList chars)
        decode Json.depthLimit term
      match found with
      | some value => .ok value
      | none => .error (.badJson url)
    else .error (.badStatus status url (Unicode.trim (String.ofList (Text.decodeLossy body))))

def fetch {α β : Type} (decode : Json.Decoder α) (request : Request)
    (next : Except FetchError α → Session β) : Session β :=
  .ask request fun outcome => next (fetched decode request.url outcome)

end FleetSearch.Network
