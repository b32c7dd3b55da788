import FleetSearch.Json.Value

/-! JSON documents as read, before a reader has decided which parts of them count: a number that
no double reaches, or a string with half a surrogate pair, is only an error where it is used. -/

namespace FleetSearch.Json

/-- A document. Objects keep all members in written order. -/
inductive Term where
  | null
  | bool (value : Bool)
  | number (value : Option Number)
  | string (text : Option String)
  | array (items : List Term)
  | object (members : List (Option String × Term))
deriving Repr, Inhabited

def depthLimit : Nat := 127

mutual

/-- The value of a document nested at most `depth` levels. Of members with one key the last
counts. -/
def Term.value? (depth : Nat) : Term → Option Value
  | .null => some .null
  | .bool value => some (.bool value)
  | .number value => value.map .number
  | .string text => text.map .string
  | .array items =>
    match depth with
    | 0 => none
    | depth + 1 => (itemValues? depth items).map .array
  | .object members =>
    match depth with
    | 0 => none
    | depth + 1 => (memberValues? depth members).map Value.ofMembers

def itemValues? (depth : Nat) : List Term → Option (List Value)
  | [] => some []
  | item :: rest => do
    let value ← item.value? depth
    let values ← itemValues? depth rest
    some (value :: values)

def memberValues? (depth : Nat) : List (Option String × Term) → Option (List (String × Value))
  | [] => some []
  | (key, item) :: rest => do
    let name ← key
    let value ← item.value? depth
    let values ← memberValues? depth rest
    some ((name, value) :: values)

end

mutual

def Term.ofValue : Value → Term
  | .null => .null
  | .bool value => .bool value
  | .number value => .number (some value)
  | .string text => .string (some text)
  | .array items => .array (itemTerms items)
  | .object members => .object (memberTerms members)

def itemTerms : List Value → List Term
  | [] => []
  | item :: rest => Term.ofValue item :: itemTerms rest

def memberTerms : List (String × Value) → List (Option String × Term)
  | [] => []
  | (key, value) :: rest => (some key, Term.ofValue value) :: memberTerms rest

end

mutual

def Value.nesting : Value → Nat
  | .array items => itemsNesting items + 1
  | .object members => membersNesting members + 1
  | _ => 0

def itemsNesting : List Value → Nat
  | [] => 0
  | item :: rest => max item.nesting (itemsNesting rest)

def membersNesting : List (String × Value) → Nat
  | [] => 0
  | (_, value) :: rest => max value.nesting (membersNesting rest)

end

end FleetSearch.Json
