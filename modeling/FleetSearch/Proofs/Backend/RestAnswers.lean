import FleetSearch.Backend.Rest
import FleetSearch.Proofs.Network.Responses

/-! What an inventory lists when each address serves one response. -/

namespace FleetSearch.Backend.Rest

open FleetSearch.Inventory (Collection)
open FleetSearch.Json (Decoder ReadsAs Value)
open FleetSearch.Network (Client bodyOf fetched)

variable {rest : Rest} {pattern : String}

theorem url_request (rest : Rest) : rest.request.url = rest.url :=
  Network.Request.url_bearer _ _

/-- Every address serves one document. -/
def serving (document : Value) : String → Nat × List Nat :=
  fun _ => (200, bodyOf document)

variable [Pattern.Dialect]

/-- What is listed for a pattern when each address serves a response. -/
def answer (rest : Rest) (pattern : String) (served : String → Nat × List Nat) :
    Except Cause Collection :=
  (rest.list pattern).given fun url => .answered (served url).1 (served url).2

theorem answer_eq (rest : Rest) (pattern : String) (served : String → Nat × List Nat) :
    rest.answer pattern served =
      match nameFilter? pattern with
      | none => .error (Cause.within ⟨.foreign .pattern, []⟩
          "failed to compile regular expression from query")
      | some filter =>
        match fetched Decoder.value rest.url
            (.answered (served rest.url).1 (served rest.url).2) with
        | .error error => .error error.cause
        | .ok document => rest.select filter document := by
  rw [answer, list]
  cases nameFilter? pattern with
  | none => rfl
  | some filter =>
    dsimp only
    rw [Network.Session.given_fetch, url_request]
    cases fetched Decoder.value rest.url (.answered (served rest.url).1 (served rest.url).2) <;> rfl

theorem result_run_list {client : Client} {firedAt : Option Nat} {time : Nat}
    {sent : List Network.Message} {served : String → Nat × List Nat}
    (answered : (client.exchange firedAt time sent rest.request).2.2 =
      .answered (served rest.url).1 (served rest.url).2) :
    ((rest.list pattern).run client firedAt time sent).result = rest.answer pattern served := by
  rw [answer_eq, list]
  cases nameFilter? pattern with
  | none => rfl
  | some filter =>
    obtain ⟨moment, messages, run⟩ := Network.Session.result_run_fetch answered
    dsimp only
    rw [run, url_request]
    cases fetched Decoder.value rest.url (.answered (served rest.url).1 (served rest.url).2) <;> rfl

theorem answer_serving {filter : Pattern.Regex} (compiled : nameFilter? pattern = some filter)
    (reads : ReadsAs 127 True document) :
    rest.answer pattern (serving document) = rest.select filter document := by
  rw [answer_eq, compiled]
  dsimp only [serving]
  rw [Network.fetched_bodyOf reads]

end FleetSearch.Backend.Rest
