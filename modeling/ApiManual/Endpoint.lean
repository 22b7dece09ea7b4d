import ApiManual.Exchange.Message
import ApiManual.Param

/-!
# Endpoints

An endpoint is a path, which may hold placeholders, together with a method. It carries everything the
manual says about the pair: a name, a description, roles, the parameters by carrier, and the recorded
exchanges.
-/

namespace ApiManual

structure Endpoint where
  path : String
  method : String
  tags : List String
  displayName : Option String
  description : Option String
  roles : List String
  headerParams : List Param
  urlParams : List Param
  queryParams : List Param
  formParams : List Param
  exchanges : List Exchange
  /-- Registered only so that browsers can ask which methods the path allows. -/
  companion : Bool

namespace Endpoint

def bare (path method : String) : Endpoint where
  path
  method := lowercase method
  tags := []
  displayName := none
  description := none
  roles := []
  headerParams := []
  urlParams := []
  queryParams := []
  formParams := []
  exchanges := []
  companion := false

/-- The method that asks which methods a path allows. -/
def optionsMethod : String := "options"

def companionAt (path : String) : Endpoint :=
  { bare path optionsMethod with companion := true }

/-- Path and method in one text. The registry holds one endpoint for each key. -/
def key (endpoint : Endpoint) : String := endpoint.path ++ "-" ++ endpoint.method

/-- The key without the slash it starts with, and with a hyphen in place of every other slash. -/
def pageName (endpoint : Endpoint) : String :=
  let key := endpoint.key.toList
  let relative := (Text.stripStart? ['/'] key).getD key
  String.ofList (relative.map fun c => if c = '/' then '-' else c)

/-- Method and path on one line. -/
def describe (endpoint : Endpoint) : String :=
  uppercase endpoint.method ++ " " ++ endpoint.path

def params (endpoint : Endpoint) : Carrier → List Param
  | .url => endpoint.urlParams
  | .query => endpoint.queryParams
  | .form => endpoint.formParams
  | .header => endpoint.headerParams

def allParams (endpoint : Endpoint) : List Param :=
  Carrier.inOrder.flatMap endpoint.params

def addParam (endpoint : Endpoint) (param : Param) : Endpoint :=
  match param.carrier with
  | .url => { endpoint with urlParams := endpoint.urlParams ++ [param] }
  | .query => { endpoint with queryParams := endpoint.queryParams ++ [param] }
  | .form => { endpoint with formParams := endpoint.formParams ++ [param] }
  | .header => { endpoint with headerParams := endpoint.headerParams ++ [param] }

def addParams (endpoint : Endpoint) (params : List Param) : Endpoint :=
  params.foldl addParam endpoint

def addExchange (endpoint : Endpoint) (exchange : Exchange) : Endpoint :=
  { endpoint with exchanges := endpoint.exchanges ++ [exchange] }

/-- Appends the names that come up again among `names`, each once, to `repeated`. `seen` are the
names before them. -/
def collectRepeated (seen : List String) (repeated : List String) : List String → List String
  | [] => repeated
  | name :: rest =>
    if seen.contains name && !repeated.contains name then
      collectRepeated seen (repeated ++ [name]) rest
    else collectRepeated (name :: seen) repeated rest

/-- The names that one carrier declares more than once. -/
def repeatedParamNames (endpoint : Endpoint) : List String :=
  Carrier.inOrder.foldl
    (fun repeated carrier => collectRepeated [] repeated ((endpoint.params carrier).map (·.name)))
    []

def sameList {α : Type} (same : α → α → Bool) : List α → List α → Bool
  | [], [] => true
  | a :: as, b :: bs => same a b && sameList same as bs
  | _, _ => false

def same (a b : Endpoint) : Bool :=
  a.path == b.path && a.method == b.method && a.tags == b.tags && a.displayName == b.displayName
    && a.description == b.description && a.roles == b.roles
    && sameList Param.same a.headerParams b.headerParams
    && sameList Param.same a.urlParams b.urlParams
    && sameList Param.same a.queryParams b.queryParams
    && sameList Param.same a.formParams b.formParams
    && sameList Exchange.same a.exchanges b.exchanges
    && a.companion == b.companion

def paramsToJson (params : List Param) : Json := .array (params.map Param.toJson)

def toJson (endpoint : Endpoint) : Json :=
  .object [
    ("path", .string endpoint.path),
    ("method", .string endpoint.method),
    ("tags", Json.ofStrings endpoint.tags),
    ("display_name", Json.ofOption .string endpoint.displayName),
    ("description", Json.ofOption .string endpoint.description),
    ("security", .object [("roles", Json.ofStrings endpoint.roles)]),
    ("header_params", paramsToJson endpoint.headerParams),
    ("uri_params", paramsToJson endpoint.urlParams),
    ("query_params", paramsToJson endpoint.queryParams),
    ("form_params", paramsToJson endpoint.formParams),
    ("examples", .array (endpoint.exchanges.map Exchange.toJson))]

/-- A list of parameters, where null stands for none. -/
def paramsOfJson? (carrier : Carrier) (json : Json) : Option (List Param) :=
  (json.nullable? (Json.list? (Param.ofJson? carrier))).map (·.getD [])

def rolesOfJson? (json : Json) : Option (List String) := do
  let fields ← json.record? ["roles"]
  fields.withDefault "roles" [] (Json.list? Json.string?)

def ofJson? (json : Json) : Option Endpoint := do
  let fields ← json.record?
    ["path", "method", "tags", "display_name", "description", "security", "header_params",
      "uri_params", "query_params", "form_params", "examples"]
  let path ← fields.required "path" Json.string?
  let method ← fields.required "method" Json.string?
  let tags ← fields.withDefault "tags" [] (Json.list? Json.string?)
  let displayName ← fields.optional "display_name" Json.string?
  let description ← fields.optional "description" Json.string?
  let roles ← fields.withDefault "security" [] rolesOfJson?
  let headerParams ← fields.withDefault "header_params" [] (paramsOfJson? .header)
  let urlParams ← fields.withDefault "uri_params" [] (paramsOfJson? .url)
  let queryParams ← fields.withDefault "query_params" [] (paramsOfJson? .query)
  let formParams ← fields.withDefault "form_params" [] (paramsOfJson? .form)
  let exchanges ← fields.withDefault "examples" [] (Json.list? Exchange.ofJson?)
  return {
    path, method := lowercase method, tags, displayName, description, roles, headerParams,
    urlParams, queryParams, formParams, exchanges, companion := false }

end Endpoint

end ApiManual
