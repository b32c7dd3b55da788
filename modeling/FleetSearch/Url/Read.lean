import FleetSearch.Url.Domain
import FleetSearch.Url.Host
import FleetSearch.Url.Segments

/-! Reading of URLs. -/

namespace FleetSearch.Url

/-- Why a text is no URL. -/
inductive UrlError where
  | noScheme
  | emptyHost
  | badPort
  | badDomain
  | badIpv4
  | badIpv6
  | badHostCharacter
deriving DecidableEq, Repr

def UrlError.message : UrlError → String
  | .noScheme => "relative URL without a base"
  | .emptyHost => "empty host"
  | .badPort => "invalid port number"
  | .badDomain => "invalid international domain name"
  | .badIpv4 => "invalid IPv4 address"
  | .badIpv6 => "invalid IPv6 address"
  | .badHostCharacter => "invalid domain character"

/-- The text without the blanks and controls at its ends, and without dropped characters. -/
def cleaned (text : String) : List Char :=
  let isEdge := fun (c : Char) => c.toNat ≤ 0x20
  let chars := ((text.toList.dropWhile isEdge).reverse.dropWhile isEdge).reverse
  chars.filter fun c => !isDropped c

/-- Whether a character may stand in a scheme behind its first letter. -/
def isSchemeChar (c : Char) : Bool := c.isAlphanum || c == '+' || c == '-' || c == '.'

/-- The scheme before the first colon, and what follows. -/
def scheme? (chars : List Char) : Option (String × List Char) := do
  let (name, rest) := chars.span isSchemeChar
  match name, rest with
  | first :: _, ':' :: rest =>
    if first.isAlpha then some (String.ofList (name.map Char.toLower), rest) else none
  | _, _ => none

def endsAuthority (special : Bool) (c : Char) : Bool :=
  c == '/' || c == '?' || c == '#' || (special && c == '\\')

/-- The text before and behind the last at sign. -/
def cutLastAt (chars : List Char) : Option (List Char × List Char) :=
  if chars.contains '@' then
    let behind := (chars.reverse.takeWhile (· != '@')).reverse
    some (chars.take (chars.length - behind.length - 1), behind)
  else none

def userPassword (chars : List Char) : String × Option String :=
  let encode := fun part => String.ofList (percentEncode isUserSafe part)
  match Text.cutChars ':' chars with
  | some (user, password) =>
    (encode user, if password.isEmpty then none else some (encode password))
  | none => (encode chars, none)

/-- The text up to the colon of a port; colons inside brackets do not count. -/
def hostText (inBrackets : Bool) : List Char → List Char × List Char
  | [] => ([], [])
  | c :: rest =>
    if c = ':' ∧ !inBrackets then ([], c :: rest)
    else
      let inside := if c = '[' then true else if c = ']' then false else inBrackets
      let (host, rest) := hostText inside rest
      (c :: host, rest)

def bracketHost (chars : List Char) : Except UrlError String :=
  if chars.getLast? = some ']' then
    match ipv6? ((chars.drop 1).dropLast) with
    | some host => .ok host
    | none => .error .badIpv6
  else .error .badIpv6

def specialHost (chars : List Char) : Except UrlError String :=
  if chars.head? = some '[' then bracketHost chars
  else
    match (Text.decodeUtf8? (percentDecode chars)).bind domainCode? with
    | none => .error .badDomain
    | some name =>
      if name.isEmpty then .error .emptyHost
      else if endsInNumber name then
        match ipv4? name with
        | some host => .ok host
        | none => .error .badIpv4
      else .ok (String.ofList name)

/-- Characters that no host of another scheme may hold. -/
def isForbiddenInHost (c : Char) : Bool :=
  ['\x00', '\t', '\n', '\r', ' ', '#', '/', ':', '<', '>', '?', '@', '[', '\\', ']', '^',
    '|'].contains c

/-- Whether a character is neither a control nor outside of ASCII. -/
def isHostSafe (c : Char) : Bool := isVisible c

def plainHost (chars : List Char) : Except UrlError String :=
  if chars.head? = some '[' then bracketHost chars
  else if chars.any isForbiddenInHost then .error .badHostCharacter
  else .ok (String.ofList (percentEncode isHostSafe chars))

/-- A port behind its colon; the one that the scheme implies is left out. -/
def readPort (scheme : String) (chars : List Char) : Except UrlError (Option Nat) :=
  let (digits, rest) := chars.span Char.isDigit
  let number := (Text.natural? 10 digits).getD 0
  if number > 65535 then .error .badPort
  else if !rest.isEmpty && rest.head? ≠ some '\\' then .error .badPort
  else if digits.isEmpty ∨ defaultPort? scheme = some number then .ok none
  else .ok (some number)

/-- An authority: credentials, host and port. -/
structure Authority where
  user : String := ""
  password : Option String := none
  host : String
  port : Option Nat := none

/-- The authority in the text between the slashes and the path, which goes on with `next`. -/
def readAuthority (scheme : String) (chars : List Char) : Except UrlError Authority := do
  let special := isSpecial scheme
  let (user, password, rest) := match cutLastAt chars with
    | some (before, behind) =>
      let (user, password) := userPassword before
      (user, password, behind)
    | none => ("", none, chars)
  let (host, rest) := hostText false rest
  if special && host.isEmpty then throw .emptyHost
  let host ← if special then specialHost host else plainHost host
  if host = "" ∧ !rest.isEmpty then throw .emptyHost
  let port ← match rest with
    | _ :: digits => readPort scheme digits
    | [] => pure none
  if host = "" ∧ (user ≠ "" ∨ password.isSome) then throw .emptyHost
  pure { user, password, host, port }

/-- The path before the query and fragment, the query and the fragment. -/
def cutTail (chars : List Char) : List Char × Option (List Char) × Option (List Char) :=
  let (front, fragment) := match Text.cutChars '#' chars with
    | some (front, fragment) => (front, some fragment)
    | none => (chars, none)
  match Text.cutChars '?' front with
  | some (path, query) => (path, some query, fragment)
  | none => (front, none, fragment)

def pathPart (chars : List Char) : String :=
  String.ofList (percentEncode isPathSafe chars)

/-- Text cut at slashes, and with a special scheme at backslashes too. -/
def slashParts (special : Bool) (chars : List Char) : List (List Char) :=
  Text.splitChars '/' (if special then chars.map fun c => if c == '\\' then '/' else c else chars)

/-- The segments of a path from its first slash on. A special scheme always has one. -/
def pathSegments (scheme : String) (chars : List Char) : List String :=
  let special := isSpecial scheme
  let push := fun parts => pushSegments (scheme == "file") [] (parts.map pathPart)
  match slashParts special chars with
  | [[]] => if special then [""] else []
  | [] :: parts => push parts
  | parts => push parts

/-- The segments of the path of a file: empty ones at the start do not count. -/
def fileSegments (segments : List String) : List String :=
  match segments.dropWhile (· == "") with
  | [] => [""]
  | segments => segments

/-- A URL of a path, a query and a fragment behind its authority. -/
def withTail (scheme : String) (authority : Option Authority) (path : Path)
    (query fragment : Option (List Char)) : Url :=
  let special := isSpecial scheme
  let base : Url :=
    { scheme, path
      query := query.map fun chars => String.ofList (percentEncode (isQuerySafe special) chars)
      fragment := fragment.map fun chars => String.ofList (percentEncode isFragmentSafe chars) }
  match authority with
  | some found =>
    { base with
      user := found.user, password := found.password, host := some found.host, port := found.port }
  | none => base

def behindSlashes (scheme : String) (chars : List Char) : Except UrlError Url := do
  let (front, rest) := chars.span fun c => !endsAuthority (isSpecial scheme) c
  let found ← readAuthority scheme front
  let (path, query, fragment) := cutTail rest
  pure (withTail scheme (some found) (.segments (pathSegments scheme path)) query fragment)

/-- A URL of a file behind its colon. Its host is empty unless two slashes lead to one, and where
its path starts with a drive. -/
def fileUrl (chars : List Char) : Except UrlError Url := do
  let isSlash := fun c => c == '/' || c == '\\'
  let (host, rest) := match chars with
    | a :: b :: rest =>
      if isSlash a && isSlash b then rest.span fun c => !endsAuthority true c else ([], chars)
    | _ => ([], chars)
  let (host, rest) := if isDrive (String.ofList host) then ([], host ++ rest) else (host, rest)
  let name ← if host.isEmpty then pure "" else specialHost host
  let (path, query, fragment) := cutTail rest
  let segments := pathSegments "file" path
  let isLocal := name = "localhost" || (segments.head?.map isDrive).getD false
  let host := if isLocal then "" else name
  pure (withTail "file" (some { host }) (.segments (fileSegments segments)) query fragment)

def read (text : String) : Except UrlError Url :=
  match scheme? (cleaned text) with
  | none => .error .noScheme
  | some (scheme, rest) =>
    if scheme = "file" then fileUrl rest
    else if isSpecial scheme then
      behindSlashes scheme (rest.dropWhile fun c => c == '/' || c == '\\')
    else
      match rest with
      | '/' :: '/' :: behind => behindSlashes scheme behind
      | _ =>
        let (path, query, fragment) := cutTail rest
        let path := match path with
          | '/' :: _ => .segments (pathSegments scheme path)
          | _ => .opaqueText (String.ofList (percentEncode isVisible path))
        .ok (withTail scheme none path query fragment)

end FleetSearch.Url
