/-! Headers of requests: which names and values can be sent. -/

namespace FleetSearch.Network

def isTokenChar (c : Char) : Bool :=
  c.isAlphanum ||
    ['!', '#', '$', '%', '&', '\'', '*', '+', '-', '.', '^', '_', '\x60', '|', '~'].contains c

def isToken (text : String) : Bool :=
  text ≠ "" && text.toList.all isTokenChar

/-- Whether a text may be the value of a header: it holds no control but the tab. -/
def isHeaderValue (text : String) : Bool :=
  text.toList.all fun c => c == '\t' || (0x20 ≤ c.toNat && c.toNat != 0x7f)

def header? (name value : String) : Option (String × String) :=
  if isToken name && isHeaderValue value then
    some (String.ofList (name.toList.map Char.toLower), value)
  else none

end FleetSearch.Network
