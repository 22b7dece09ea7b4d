import ApiManual.Endpoint
import ApiManual.Failure

/-!
# The registry of endpoints

Endpoints are registered by key, path and method in one text, in the order of the first registration
of each key. Every path that has a method other than `options` also gets an endpoint for `options`, so
that browsers can ask before they send.

A request is routed by dropping endpoints: those with another method or with more or fewer segments
first, then, for one segment of the path after the other, those whose segment is neither the same nor a
placeholder. Of the endpoints that are left the first one takes the request.
-/

namespace ApiManual

abbrev Registry := Keyed Endpoint.key

namespace Registry

open Text

/-- Registers an endpoint in place of one with the same key, and a companion for its path if no
endpoint has the companion's key. -/
def insert (registry : Registry) (endpoint : Endpoint) : Registry :=
  let registered := registry.put endpoint
  if endpoint.method = Endpoint.optionsMethod then registered
  else registered.putNew (Endpoint.companionAt endpoint.path)

def insertAll (registry : Registry) (endpoints : List Endpoint) : Registry :=
  endpoints.foldl insert registry

/-- The endpoints that were documented, in contrast to those added as companions. -/
def documented (registry : Registry) : List Endpoint :=
  registry.items.filter (!·.companion)

/-- A segment of a template that any segment fits. -/
def isPlaceholder (segment : List Char) : Bool :=
  segment.head? == some ':' || (segment.head? == some '{' && segment.getLast? == some '}')

/-- The segments of a path, without the slash it starts with. -/
def segments (path : List Char) : List (List Char) :=
  ((stripStart? ['/'] path).getD path).splitOn '/'

/-- A path without one slash at its end, unless it is the slash alone. -/
def withoutFinalSlash (path : List Char) : List Char :=
  if path = ['/'] then path else stripEnd '/' path

/-- An endpoint that a request may be routed to: where it stands, and the segments of its path. -/
structure Candidate where
  index : Nat
  template : List (List Char)

/-- The segment of the path at a depth is that of the template there, or the template has a
placeholder there. -/
def Candidate.takes (candidate : Candidate) (depth : Nat) (wanted : List Char) : Bool :=
  candidate.template[depth]?.any fun given => given == wanted || isPlaceholder given

/-- The endpoints that have a method and as many segments as a path. -/
def candidates (registry : Registry) (path : List (List Char)) (method : String) : List Candidate :=
  let standing := registry.items.zipIdx.filter fun (endpoint, _) => endpoint.method == method
  let templates := standing.map fun (endpoint, index) =>
    Candidate.mk index (segments endpoint.path.toList)
  templates.filter fun candidate => candidate.template.length == path.length

/-- Goes through the segments of a path from a depth on and keeps the candidates that take each of
them. Ends as soon as there is none. -/
def narrow (depth : Nat) : List Candidate → List (List Char) → List Candidate
  | [], _ => []
  | candidates, [] => candidates
  | candidates, wanted :: path =>
    narrow (depth + 1) (candidates.filter (·.takes depth wanted)) path

/-- Where the endpoint stands that a request is routed to. -/
def position? (registry : Registry) (path method : String) : Option Nat :=
  let wanted := segments (withoutFinalSlash path.toList)
  let left := narrow 0 (registry.candidates wanted (lowercase method)) wanted
  left.head?.map (·.index)

/-- The endpoint that a request is routed to. -/
def route? (registry : Registry) (path method : String) : Option Endpoint :=
  (registry.position? path method).bind fun index => registry.items[index]?

/-- Records an exchange with the endpoint that a request is routed to, if there is one. -/
def record? (registry : Registry) (path method : String) (exchange : Exchange) : Option Registry :=
  (registry.position? path method).map fun index =>
    registry.adjustAt index (·.addExchange exchange)

/-- The endpoints grouped by path, paths in the order in which they first come up. -/
def tree (registry : Registry) : List (String × List Endpoint) :=
  (registry.items.map (·.path)).eraseDups.map fun path =>
    (path, registry.items.filter (·.path == path))

def withoutExchanges (registry : Registry) : List Endpoint :=
  registry.documented.filter (·.exchanges.isEmpty)

/-- The same endpoints under the same keys, in whatever order. -/
def same (a b : Registry) : Bool :=
  a.size == b.size && a.items.all fun endpoint =>
    (b.find? endpoint.key).any fun other => endpoint.same other

/-- Companions are not written: they come back when the endpoints are registered again. -/
def toJson (registry : Registry) : Json :=
  .array (registry.documented.map Endpoint.toJson)

/-- An endpoint from its JSON. Anything but an object with a path and a method is refused as an item of
the wrong kind. -/
def endpointOfJson (json : Json) : Except Failure Endpoint :=
  let members := json.members?.getD []
  match members.lookup "path", members.lookup "method" with
  | some (.string _), some _ => orJson (Endpoint.ofJson? json)
  | _, _ => .error (.mismatch "Resource" json.kind)

/-- The endpoints of a list, or a single endpoint, or none for null. -/
def ofJson (json : Json) : Except Failure Registry :=
  let register (items : List Json) : Except Failure Registry :=
    (items.mapM endpointOfJson).map fun endpoints => insertAll .empty endpoints
  match json with
  | .array items => register items
  | .null => register []
  | .object members => register [.object members]
  | other => .error (.mismatch "Resource" other.kind)

end Registry

end ApiManual
