import FleetSearch.Proofs.Json.RoundTrip
import FleetSearch.Proofs.Network.Answers
import FleetSearch.Proofs.Text.Utf8

/-! Sessions for which it is known how whatever is asked at an address comes out, and responses
with documents. -/

namespace FleetSearch.Network

open FleetSearch.Json (Decoder ReadsAs Term Value)

variable {α β : Type}

/-- What a session comes to when each request comes out as it does at its address. -/
def Session.given (served : String → Outcome) : Session α → α
  | .done result => result
  | .ask request next => (next (served request.url)).given served

theorem Session.given_fetch {decode : Decoder α} {request : Request}
    {next : Except FetchError α → Session β} {served : String → Outcome} :
    (fetch decode request next).given served =
      (next (fetched decode request.url (served request.url))).given served :=
  rfl

theorem Session.result_run_fetch {client : Client} {firedAt : Option Nat} {time : Nat}
    {sent : List Message} {decode : Decoder α} {request : Request}
    {next : Except FetchError α → Session β} {outcome : Outcome}
    (answered : (client.exchange firedAt time sent request).2.2 = outcome) :
    ∃ moment messages, ((fetch decode request next).run client firedAt time sent).result =
      ((next (fetched decode request.url outcome)).run client firedAt moment messages).result := by
  rw [← answered]
  exact ⟨_, _, rfl⟩

@[simp] theorem Request.url_bearer (request : Request) (token : String) :
    (request.bearer token).url = request.url := by
  unfold bearer
  split <;> rfl

/-- The body of a response with a document. -/
def bodyOf (document : Value) : List Nat :=
  Text.encodeUtf8 document.chars

theorem fetched_bodyOf {document : Value} (reads : ReadsAs 127 True document) (url : String) :
    fetched Decoder.value url (.answered 200 (bodyOf document)) = .ok document := by
  have body : Text.decodeUtf8? (bodyOf document) = some document.chars :=
    Text.decodeUtf8?_encodeUtf8 _
  have term : Term.read? (String.ofList document.chars) = some (.ofValue document) :=
    Term.read?_write (reads.whole trivial)
  have value : Decoder.value Json.depthLimit (.ofValue document) = some document :=
    (Value.value?_ofValue 127 reads.sorted).trans (if_pos reads.shallow)
  simp [fetched, isSuccess, body, term, value]

theorem nesting_le_of_fetched {url : String} {outcome : Outcome} {document : Value}
    (fetches : fetched Decoder.value url outcome = .ok document) : document.nesting ≤ 127 := by
  obtain ⟨_, _, _, term, _, _, _, found⟩ := exists_term_of_fetched fetches
  exact (Term.readsAs found).shallow

/-- A client to which everything is answered at once, with one body. -/
def Client.servedWith (body : List Nat) : Client :=
  { network := fun _ _ => (0, .response 200 body), userAgent := "", timeout := 1000 }

theorem Client.exchange_servedWith {body : List Nat} {request : Request}
    (sendable : ((servedWith []).message? request).isSome = true) :
    ((servedWith body).exchange none 0 [] request).2.2 = .answered 200 body := by
  have same : (servedWith body).message? request = (servedWith []).message? request := rfl
  obtain ⟨message, sent⟩ := Option.isSome_iff_exists.mp sendable
  simp only [exchange, hasFired, same, sent, Bool.false_eq_true, if_false]
  rfl

end FleetSearch.Network
