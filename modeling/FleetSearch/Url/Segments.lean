import FleetSearch.Url.Basic

/-! Segments of paths: single and double dots move within the path instead of naming a part. -/

namespace FleetSearch.Url

def isSingleDot (segment : String) : Bool :=
  segment == "." || segment == "%2e" || segment == "%2E"

def isDoubleDot (segment : String) : Bool :=
  ["..", "%2e%2e", "%2e%2E", "%2E%2e", "%2E%2E", "%2e.", "%2E.", ".%2e", ".%2E"].contains segment

/-- Whether a segment names a drive: a letter with a colon or bar. -/
def isDrive (segment : String) : Bool :=
  match segment.toList with
  | [letter, mark] => letter.isAlpha && (mark == ':' || mark == '|')
  | _ => false

/-- The segments without the last one, unless it names a drive. -/
def withoutLast (parts : List String) : List String :=
  match parts.getLast? with
  | some last => if isDrive last then parts else parts.dropLast
  | none => []

/-- A name as segment behind others. The drive at the start of the path of a file has a colon. -/
def pushName (ofFile : Bool) (parts : List String) (name : String) : List String :=
  if ofFile && parts.isEmpty && isDrive name then [String.ofList (name.toList.take 1 ++ [':'])]
  else parts ++ [name]

/-- A segment behind others; `final` tells that no slash follows it. Two dots take away the
segment before them. -/
def pushSegment (ofFile : Bool) (parts : List String) (segment : String) (final : Bool) :
    List String :=
  let close := fun (parts : List String) => if final then parts ++ [""] else parts
  if isDoubleDot segment then close (withoutLast parts)
  else if isSingleDot segment then close parts
  else pushName ofFile parts segment

def pushSegments (ofFile : Bool) (parts : List String) : List String → List String
  | [] => parts
  | [segment] => pushSegment ofFile parts segment true
  | segment :: rest => pushSegments ofFile (pushSegment ofFile parts segment false) rest

def isDropped (c : Char) : Bool := c == '\t' || c == '\n' || c == '\r'

/-- Leaves out the empty segment behind a final slash. -/
def dropFinalEmpty (parts : List String) : List String :=
  if 1 < parts.length ∧ parts.getLast? = some "" then parts.dropLast else parts

def segmentText (special : Bool) (name : String) : String :=
  String.ofList (percentEncode (isSegmentSafe special) (name.toList.filter fun c => !isDropped c))

/-- Adds a name as one more segment. Names of one or two dots are left out, and a path of a slash
alone gets the name as its first segment. -/
def addSegment (scheme : String) (parts : List String) (name : String) : List String :=
  if name = "." ∨ name = ".." then parts
  else
    let before := if parts = [""] then [] else parts
    pushSegment (scheme == "file") before (segmentText (isSpecial scheme) name) true

/-- A URL with names as further segments of its path. -/
def withSegments (url : Url) (names : List String) : Url :=
  match url.path with
  | .segments parts =>
    let path := names.foldl (addSegment url.scheme) (dropFinalEmpty parts)
    { url with path := .segments path }
  | .opaqueText _ => url

end FleetSearch.Url
