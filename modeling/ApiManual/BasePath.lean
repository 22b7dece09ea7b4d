import ApiManual.Failure
import ApiManual.Uri.Path

/-!
# Base paths

An API may live below a base URI. The path of that URI stands before every path of the API in a
request, and is taken off before the request is routed.
-/

namespace ApiManual

namespace BasePath

open Text

def withoutFinalSlashes (path : List Char) : List Char :=
  (path.reverse.dropWhile (· == '/')).reverse

/-- The path of a base URI. A text without a scheme that starts with a slash is a path itself. -/
def uriPath (domain? : Uri.DomainReading) (uri : String) : Except Failure (List Char) :=
  match Uri.path? domain? uri.toList with
  | .ok path => .ok path
  | .error .noScheme =>
    if uri.toList.head? == some '/' then .ok uri.toList else .error (.invalidBaseUri uri)
  | .error .badAuthority => .error (.invalidBaseUri uri)

/-- The base path of an API; none without a base URI, or when only slashes are left of its path. -/
def ofUri (uri : Option String) (domain? : Uri.DomainReading := Uri.webDomain?) :
    Except Failure (Option String) :=
  match uri with
  | none => .ok none
  | some uri => (uriPath domain? uri).map fun path =>
    let trimmed := withoutFinalSlashes path
    if trimmed.isEmpty then none else some (String.ofList trimmed)

/-- A path without the base it starts with. The base has to end where a segment ends. -/
def withoutBase (base : Option String) (path : List Char) : List Char :=
  match base.bind fun base => stripStart? base.toList path with
  | some rest => if rest.isEmpty || rest.head? == some '/' then rest else path
  | none => path

/-- A path without one slash at its end, where an empty path is the slash alone. -/
def normalized (path : List Char) : List Char :=
  if path.isEmpty ∨ path = ['/'] then ['/'] else stripEnd '/' path

/-- The path of a request relative to a base. -/
def relative (base : Option String) (path : String) : String :=
  String.ofList (normalized (withoutBase base path.toList))

end BasePath

end ApiManual
