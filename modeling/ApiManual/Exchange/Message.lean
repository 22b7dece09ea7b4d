import ApiManual.Exchange.FieldMap
import ApiManual.HeaderMap
import ApiManual.Json.Reader
import ApiManual.Json.Writer
import ApiManual.Text.Blank

/-!
# Requests and responses

A recorded exchange is a request and the response it got. In JSON an empty collection is null, and the
format of a body, which follows from the content type, is written along for the reader's benefit.
-/

namespace ApiManual

inductive BodyFormat where
  | json
  | yaml
  | xml
deriving DecidableEq, Repr

namespace BodyFormat

def name : BodyFormat → String
  | .json => "json"
  | .yaml => "yaml"
  | .xml => "xml"

def ofName? : String → Option BodyFormat
  | "json" => some .json
  | "yaml" => some .yaml
  | "xml" => some .xml
  | _ => none

/-- The format of a content type, whose parameters do not matter. -/
def ofContentType? (contentType : String) : Option BodyFormat :=
  let media := Text.trim (Text.cut ';' contentType.toList).1
  match String.ofList (media.map Char.toLower) with
  | "application/json" => some .json
  | "application/x-yaml" => some .yaml
  | "application/xml" => some .xml
  | _ => none

def ofHeaders? (headers : HeaderMap) : Option BodyFormat :=
  (headers.get? "content-type").bind ofContentType?

def toJson (format : BodyFormat) : Json := .string format.name

def ofJson? (json : Json) : Option BodyFormat := json.word?.bind ofName?

end BodyFormat

/-- The value of a JSON body; nothing for other formats and for bodies that are no JSON. -/
def bodyValue? (headers : HeaderMap) (body : Option String) : Option Json :=
  match BodyFormat.ofHeaders? headers, body with
  | some .json, some text => Json.readValue? text
  | _, _ => none

structure Request where
  path : String
  method : String
  headers : HeaderMap
  query : FieldMap
  form : Option FieldMap
  body : Option String

/-- A collection that is written as null when it is empty. -/
def emptyAsNull {α : Type} (isEmpty : α → Bool) (toJson : α → Json) (collection : α) : Json :=
  if isEmpty collection then .null else toJson collection

namespace Request

/-- A request without headers, query and body. -/
def bare (method path : String) : Request :=
  ⟨path, lowercase method, .empty, .empty, none, none⟩

def bodyFormat? (request : Request) : Option BodyFormat := BodyFormat.ofHeaders? request.headers

def bodyValue? (request : Request) : Option Json := ApiManual.bodyValue? request.headers request.body

/-- Method, path and query on one line. -/
def describe (request : Request) : String :=
  let query :=
    if request.query.isEmpty then ""
    else
      "?" ++ String.intercalate "&"
        (request.query.items.map fun (name, value) => name ++ "=" ++ value.text)
  uppercase request.method ++ " " ++ request.path ++ query

def sameForm : Option FieldMap → Option FieldMap → Bool
  | none, none => true
  | some a, some b => a.same b
  | _, _ => false

/-- Equality in every part, the order of headers and fields aside. -/
def same (a b : Request) : Bool :=
  a.path == b.path && a.method == b.method && a.headers.same b.headers && a.query.same b.query
    && sameForm a.form b.form && a.body == b.body

def toJson (request : Request) : Json :=
  .object [
    ("path", .string request.path),
    ("method", .string request.method),
    ("headers", emptyAsNull Keyed.isEmpty HeaderMap.toJson request.headers),
    ("query_strings", emptyAsNull Keyed.isEmpty FieldMap.toJson request.query),
    ("form_params",
      Json.ofOption FieldMap.toJson (request.form.filter fun fields => !fields.isEmpty)),
    ("body_format", Json.ofOption BodyFormat.toJson request.bodyFormat?),
    ("body", Json.ofOption .string request.body)]

/-- A written body format has to be one, though the content type is what counts. -/
def ofJson? (json : Json) : Option Request := do
  let fields ← json.record?
    ["path", "method", "headers", "query_strings", "form_params", "body_format", "body"]
  let path ← fields.required "path" Json.string?
  let method ← fields.required "method" Json.string?
  let headers ← fields.optional "headers" HeaderMap.ofJson?
  let query ← fields.optional "query_strings" FieldMap.ofJson?
  let form ← fields.optional "form_params" FieldMap.ofJson?
  let _ ← fields.optional "body_format" BodyFormat.ofJson?
  let body ← fields.optional "body" Json.string?
  return {
    path
    method := lowercase method
    headers := headers.getD .empty
    query := query.getD .empty
    form := form.filter fun fields => !fields.isEmpty
    body }

end Request

structure Response where
  status : Nat
  reason : Option String
  headers : HeaderMap
  body : Option String

/-- The greatest number a status can be written as. -/
def greatestStatus : Nat := 65535

namespace Response

def bodyFormat? (response : Response) : Option BodyFormat := BodyFormat.ofHeaders? response.headers

def bodyValue? (response : Response) : Option Json :=
  ApiManual.bodyValue? response.headers response.body

def statusLine (response : Response) : String :=
  match response.reason with
  | some reason => toString response.status ++ " " ++ reason
  | none => toString response.status

def same (a b : Response) : Bool :=
  a.status == b.status && a.reason == b.reason && a.headers.same b.headers && a.body == b.body

def toJson (response : Response) : Json :=
  .object [
    ("status", .nat response.status),
    ("reason", Json.ofOption .string response.reason),
    ("headers", emptyAsNull Keyed.isEmpty HeaderMap.toJson response.headers),
    ("body_format", Json.ofOption BodyFormat.toJson response.bodyFormat?),
    ("body", Json.ofOption .string response.body)]

def ofJson? (json : Json) : Option Response := do
  let fields ← json.record? ["status", "reason", "headers", "body_format", "body"]
  let status ← fields.required "status" (Json.nat? greatestStatus)
  let reason ← fields.optional "reason" Json.string?
  let headers ← fields.optional "headers" HeaderMap.ofJson?
  let _ ← fields.optional "body_format" BodyFormat.ofJson?
  let body ← fields.optional "body" Json.string?
  return { status, reason, headers := headers.getD .empty, body }

end Response

/-- A request and the response that was recorded for it. Only visible exchanges are shown on pages. -/
structure Exchange where
  request : Request
  response : Response
  visible : Bool

namespace Exchange

def same (a b : Exchange) : Bool :=
  a.request.same b.request && a.response.same b.response && a.visible == b.visible

def toJson (exchange : Exchange) : Json :=
  .object [
    ("request", exchange.request.toJson),
    ("response", exchange.response.toJson),
    ("visible", .bool exchange.visible)]

def ofJson? (json : Json) : Option Exchange := do
  let fields ← json.record? ["request", "response", "visible"]
  let request ← fields.required "request" Request.ofJson?
  let response ← fields.required "response" Response.ofJson?
  let visible ← fields.withDefault "visible" false Json.bool?
  return { request, response, visible }

end Exchange

end ApiManual
