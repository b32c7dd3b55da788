import FleetSearch.Backend.Descriptor
import FleetSearch.Backend.Listing
import FleetSearch.Json.Lookup
import FleetSearch.Pattern.Read
import FleetSearch.Text.Quoted

/-! Instances from a JSON document at some address. Which array of the document lists them, and
which fields of an item say what, are options; names are matched here. -/

namespace FleetSearch.Backend

open FleetSearch.Inventory (Collection Instance)
open FleetSearch.Json (Decoder Value)

/-- Where the parts of an instance are found in an item. -/
structure FieldPaths where
  id : String := "id"
  name : String := "name"
  kind : String := "type"
  status : String := "status"
  privateIp : String := "private_ip"
  publicIp : String := "public_ip"

/-- An inventory at one address. -/
structure Rest where
  url : String
  token : String := ""
  itemsPath : String := ""
  fields : FieldPaths := {}

namespace Rest

def name : String := "rest"

def fieldParameter (name default : String) : Parameter :=
  { name, help := "Item field holding the instance " ++ default, default := some default
    advanced := true }

def parameters : List Parameter :=
  [ { name := "url"
      help := "Endpoint returning the instance list"
      required := true
      examples := [⟨"https://inventory.example.com/api/hosts", "inventory service"⟩] },
    { name := "token", help := "Bearer token", isPassword := true },
    { name := "items_path"
      help := "Dot path to the array inside the response, empty for the root"
      examples := [⟨"data.items", "nested list"⟩] },
    fieldParameter "id_field" "id",
    fieldParameter "name_field" "name",
    fieldParameter "type_field" "type",
    fieldParameter "status_field" "status",
    fieldParameter "private_ip_field" "private_ip",
    fieldParameter "public_ip_field" "public_ip" ]

def fieldPaths (values : Config.Values) : FieldPaths :=
  let defaults : FieldPaths := {}
  { id := (values.get? "id_field").getD defaults.id
    name := (values.get? "name_field").getD defaults.name
    kind := (values.get? "type_field").getD defaults.kind
    status := (values.get? "status_field").getD defaults.status
    privateIp := (values.get? "private_ip_field").getD defaults.privateIp
    publicIp := (values.get? "public_ip_field").getD defaults.publicIp }

def ofValues (values : Config.Values) : Except Cause Rest :=
  match values.require "url" with
  | .error error => .error (.ofText error.message)
  | .ok url =>
    match Url.read url with
    | .error error =>
      .error (Cause.within (.ofText error.message) ("invalid inventory url " ++ Text.quote url))
    | .ok _ => .ok
        { url, token := values.getOrEmpty "token", itemsPath := values.getOrEmpty "items_path"
          fields := fieldPaths values }

/-- What a path reaches in an item, as text; nothing where it reaches nothing. -/
def fieldText (item : Value) (path : String) : String :=
  ((item.lookup? path).map Value.render).getD ""

def itemInstance (rest : Rest) (item : Value) : Instance :=
  { id := fieldText item rest.fields.id
    backendName := name
    name := fieldText item rest.fields.name
    kind := fieldText item rest.fields.kind
    status := fieldText item rest.fields.status
    privateIp := fieldText item rest.fields.privateIp
    publicIp := fieldText item rest.fields.publicIp
    raw := item }

/-- The expression for names that a pattern matches in some place, in upper or lower case. -/
def nameFilter? [Pattern.Dialect] (pattern : String) : Option Pattern.Regex :=
  Pattern.Regex.compile? ("(?i).*" ++ pattern ++ ".*")

/-- The words for a document without the array. -/
def noArray (rest : Rest) : String :=
  "no array found at " ++ Text.quote rest.itemsPath ++ " in response from " ++ rest.url

/-- The instances of a document whose names match. -/
def select (rest : Rest) (filter : Pattern.Regex) (document : Value) : Except Cause Collection :=
  match document.lookup? rest.itemsPath with
  | some (.array items) =>
    .ok ((items.map rest.itemInstance).filter fun item => filter.matchesWithin item.name)
  | _ => .error (.ofText rest.noArray)

def request (rest : Rest) : Network.Request :=
  ({ url := rest.url } : Network.Request).bearer rest.token

/-- Lists the instances whose names match a pattern. -/
def list [Pattern.Dialect] (rest : Rest) (pattern : String) : Listing :=
  match nameFilter? pattern with
  | none =>
    .done (.error (Cause.within ⟨.foreign .pattern, []⟩
      "failed to compile regular expression from query"))
  | some filter =>
    Network.fetch Decoder.value rest.request fun
      | .error error => .done (.error error.cause)
      | .ok document => .done (rest.select filter document)

def cacheKey (rest : Rest) (pattern : String) : String :=
  rest.url ++ "|" ++ pattern

def backend [Pattern.Dialect] (rest : Rest) (client : Network.Client) : Backend :=
  { name, cacheKey := rest.cacheKey, list := fun pattern _ => (rest.list pattern).course client }

def descriptor [Pattern.Dialect] : Descriptor :=
  { name, shortName := name, description := "Generic JSON inventory endpoint", parameters
    factory := fun values client => (ofValues values).map fun rest => rest.backend client }

end Rest

end FleetSearch.Backend
