import FleetSearch.Pattern.Property

/-! What reading patterns takes besides their grammar: the properties of characters that have a
name, and a bound on what a pattern compiles to. -/

namespace FleetSearch.Pattern

class Dialect where
  /-- The set of a property by the text that names it, and whether a sign of inequality in the text
  negates it. -/
  property? : String → Option (Charset × Bool)
  /-- Whether what a whole pattern compiles to is within the bound on its size. -/
  admits : String → Bool
  /-- A dot names no property. -/
  property?_dot : property? "." = none
  /-- The pattern for any names, in upper or lower case, is not too large. -/
  admits_all : admits "(?i).*.*" = true

/-- Cuts a text at the first place where a mark stands. -/
def cutAt (mark : List Char) : List Char → Option (List Char × List Char)
  | [] => none
  | c :: rest =>
    if mark.isPrefixOf (c :: rest) then some ([], (c :: rest).drop mark.length)
    else (cutAt mark rest).map fun (before, behind) => (c :: before, behind)

/-- The set of a property by its name, or by the names of a property and a value with a sign between
them. -/
def spelledProperty? (chars : List Char) : Option (Charset × Bool) :=
  let valueOf := fun (parts : List Char × List Char) =>
    propertyValueSet? (String.ofList parts.1) (String.ofList parts.2)
  match cutAt ['!', '='] chars with
  | some parts => (valueOf parts).map fun set => (set, true)
  | none =>
    match cutAt [':'] chars <|> cutAt ['='] chars with
    | some parts => (valueOf parts).map fun set => (set, false)
    | none => (propertySet? (String.ofList chars)).map fun set => (set, false)

/-- The properties in the tables here, which have names with letters, and no bound on sizes. -/
instance (priority := low) Dialect.standard : Dialect where
  property? text :=
    let chars := text.toList
    if chars.any Char.isAlpha then spelledProperty? chars else none
  admits _ := true
  property?_dot := rfl
  admits_all := rfl

end FleetSearch.Pattern
