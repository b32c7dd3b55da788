import FleetSearch.Text.Digits
import FleetSearch.Url.Percent

/-! URLs in parts. All parts are kept in their written, encoded form. -/

namespace FleetSearch

namespace Url

/-- The path of a URL: segments behind slashes, or a text without structure. -/
inductive Path where
  | segments (parts : List String)
  | opaqueText (text : String)
deriving DecidableEq, Repr

/-- Schemes whose URLs always have a host and segments. -/
def isSpecial (scheme : String) : Bool :=
  ["http", "https", "ws", "wss", "ftp", "file"].contains scheme

def defaultPort? : String → Option Nat
  | "http" | "ws" => some 80
  | "https" | "wss" => some 443
  | "ftp" => some 21
  | _ => none

namespace Path

def write : Path → String
  | .segments parts => String.join (parts.map ("/" ++ ·))
  | .opaqueText text => text

end Path

end Url

structure Url where
  scheme : String
  user : String := ""
  password : Option String := none
  /-- A URL without authority has no host; that of an authority may be empty. -/
  host : Option String := none
  port : Option Nat := none
  path : Url.Path
  query : Option String := none
  fragment : Option String := none
deriving DecidableEq, Repr

namespace Url

def credentials (url : Url) : String :=
  let password := match url.password with
    | some word => ":" ++ word
    | none => ""
  let both := url.user ++ password
  if both = "" then "" else both ++ "@"

/-- The authority with its slashes; without one, a path must not look like it. -/
def authority (url : Url) : String :=
  match url.host with
  | some host =>
    let port := match url.port with
      | some number => ":" ++ Text.decimal number
      | none => ""
    "//" ++ url.credentials ++ host ++ port
  | none =>
    match url.path with
    | .segments ("" :: _ :: _) => "/."
    | _ => ""

/-- A part behind a sign, if there is one. -/
def behind (sign : String) : Option String → String
  | some text => sign ++ text
  | none => ""

def write (url : Url) : String :=
  url.scheme ++ ":" ++ url.authority ++ url.path.write ++ behind "?" url.query ++
    behind "#" url.fragment

/-- Whether the path has no segments that others could be added to. -/
def isOpaque (url : Url) : Bool :=
  match url.path with
  | .opaqueText _ => true
  | .segments _ => false

end Url

end FleetSearch
