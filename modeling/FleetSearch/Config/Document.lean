import FleetSearch.Config.Settings
import FleetSearch.Yaml.Decode

/-! Settings written as a YAML document. Everything in it is optional; keys that no setting has
are ignored, but in a section for a backend they are its options. -/

namespace FleetSearch.Config

open FleetSearch.Yaml (Node Decode)

namespace Settings

def decodeGeneral (node : Node) : Decode Bool := do
  match ← Decode.fields ["debug"] node with
  | [debug] => Decode.withDefault Decode.bool false debug
  | _ => failure

def decodeCache (node : Node) : Decode CacheSettings := do
  match ← Decode.fields ["disabled", "ttl", "path"] node with
  | [disabled, ttl, path] =>
    let defaults : CacheSettings := {}
    pure
      { disabled := ← Decode.withDefault Decode.bool defaults.disabled disabled
        ttl := ← Decode.withDefault (Decode.below (Nat.pow 2 64)) defaults.ttl ttl
        path := ← Decode.withDefault Decode.optionalText defaults.path path }
  | _ => failure

def decodeServer (node : Node) : Decode ServerSettings := do
  match ← Decode.fields
      ["port", "bind_address", "response_cache_ttl", "response_cache_capacity"] node with
  | [port, bindAddress, ttl, capacity] =>
    let defaults : ServerSettings := {}
    pure
      { port := ← Decode.withDefault (Decode.below (Nat.pow 2 16)) defaults.port port
        bindAddress := ← Decode.withDefault Decode.text defaults.bindAddress bindAddress
        responseCacheTtl :=
          ← Decode.withDefault (Decode.below (Nat.pow 2 64)) defaults.responseCacheTtl ttl
        responseCacheCapacity :=
          ← Decode.withDefault (Decode.below (Nat.pow 2 64)) defaults.responseCacheCapacity
            capacity }
  | _ => failure

def decodeOutgoing (node : Node) : Decode OutgoingSettings := do
  match ← Decode.fields ["request_timeout", "verify_ssl", "user_agent"] node with
  | [timeout, verifyTls, userAgent] =>
    let defaults : OutgoingSettings := {}
    pure
      { requestTimeout := ← Decode.withDefault Decode.float defaults.requestTimeout timeout
        verifyTls := ← Decode.withDefault Decode.bool defaults.verifyTls verifyTls
        userAgent := ← Decode.withDefault Decode.text defaults.userAgent userAgent }
  | _ => failure

def typeKey : String := "type"

/-- A section for a backend, whose values nest at most `depth` levels: its type at most once, and
its options, of which the last of a name counts. -/
def decodeSection (depth : Nat) (node : Node) : Decode Section := do
  let named ← (← Decode.pairs node).mapM fun (key, value) => do
    pure (← Decode.text key, value)
  let kind ← match named.filter fun entry => entry.1 = typeKey with
    | [] => pure none
    | [(_, value)] => Decode.optionalText value
    | _ => failure
  let options ← (named.filter fun entry => entry.1 ≠ typeKey).mapM fun (key, value) => do
    pure (key, ← Decode.value depth value)
  pure { kind, options := Entries.ofPairs options }

/-- The sections for backends, of which the last of a name counts. -/
def decodeBackends (depth : Nat) (node : Node) : Decode (Entries Section) := do
  let sections ← (← Decode.pairs node).mapM fun (key, value) => do
    pure (← Decode.text key, ← decodeSection (depth - 1) value)
  pure (Entries.ofPairs sections)

def decode (node : Node) : Decode Settings := do
  match ← Decode.fields ["general", "cache", "server", "outgoing", "backends"] node with
  | [general, cache, server, outgoing, backends] =>
    pure
      { debug := ← Decode.withDefault decodeGeneral false general
        cache := ← Decode.withDefault decodeCache {} cache
        server := ← Decode.withDefault decodeServer {} server
        outgoing := ← Decode.withDefault decodeOutgoing {} outgoing
        backends := ← Decode.withDefault (decodeBackends (Decode.depthLimit - 2)) [] backends }
  | _ => failure

def read? (text : String) : Option Settings := do
  Decode.document decode (← Yaml.Document.ofText? text)

end Settings

end FleetSearch.Config
