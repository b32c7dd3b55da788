import FleetSearch.Config.Settings
import FleetSearch.Network.Header
import FleetSearch.Network.Request
import FleetSearch.Text.Base64
import FleetSearch.Url.Form
import FleetSearch.Url.Read

/-! The client that requests go through: the network as it answers, the client's settings, and
the form in which requests are sent. -/

namespace FleetSearch

namespace Network

/-- A request in the form in which it is sent. Headers have lower-case names. -/
structure Message where
  target : String
  headers : List (String × String)
deriving DecidableEq, Repr

inductive Reply where
  /-- The server cannot be reached. -/
  | unreachable
  | silence
  | response (status : Nat) (body : List Nat)
deriving DecidableEq, Repr

end Network

/-- A network: what comes of a message, and after how many milliseconds, given the messages that
were sent before it in the same session. -/
abbrev Network := List Network.Message → Network.Message → Nat × Network.Reply

namespace Network

/-- The network in which no server can be reached. -/
def unreachable : Network := fun _ _ => (0, .unreachable)

structure Client where
  network : Network
  userAgent : String
  /-- How long to wait for a response, in milliseconds. -/
  timeout : Nat

/-- A timeout that is no span of time: below zero, undefined, or at least `2 ^ 64` seconds. -/
structure BadTimeout where
  value : Decimal.Binary64

def Client.ofSettings (settings : Config.OutgoingSettings) (network : Network) :
    Except BadTimeout Client :=
  let timeout := settings.requestTimeout
  match timeout.floorScaled 1000 with
  | some millis =>
    if timeout.isBelowZero ∨ millis ≥ Nat.pow 2 64 * 1000 then .error ⟨timeout⟩
    else .ok { network, userAgent := settings.userAgent, timeout := millis }
  | none => .error ⟨timeout⟩

def decodedPart (text : String) : String :=
  String.ofList (Text.decodeLossy (Url.percentDecode text.toList))

def credentialHeaders (url : Url) : List (String × String) :=
  if url.user = "" ∧ url.password.isNone then []
  else
    let words := decodedPart url.user ++ ":" ++ decodedPart (url.password.getD "")
    [("authorization", "Basic " ++ String.ofList (Text.base64 (Text.encodeUtf8 words.toList)))]

/-- The query of a URL with further parameters behind its own. -/
def extendedQuery (query : Option String) (params : List (String × String)) : Option String :=
  if params.isEmpty then query
  else match query with
    | some "" => some (Url.formWrite params)
    | some text => some (text ++ "&" ++ Url.formWrite params)
    | none => some (Url.formWrite params)

/-- The form in which a request is sent. Only web addresses can be sent to; credentials become a
header, and a fragment stays behind. -/
def Client.message? (client : Client) (request : Request) : Option Message := do
  let url ← (Url.read request.url).toOption
  if url.scheme ≠ "http" ∧ url.scheme ≠ "https" then none
  else do
    let target : Url :=
      { url with
        user := "", password := none, fragment := none
        query := extendedQuery url.query request.params }
    let own ← header? "user-agent" client.userAgent
    let headers ← request.headers.mapM fun (name, value) => header? name value
    some
      { target := target.write
        headers := credentialHeaders url ++ [own, ("accept", "application/json")] ++ headers }

end Network

end FleetSearch
