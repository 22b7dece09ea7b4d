import ApiManual.Replay.Responder

/-!
# Messages on the wire

Requests as they come in and responses as they go out. Header names come in small letters, values and
bodies are bytes. A recorded response goes out with what is valid in it; the rest is left out.
-/

namespace ApiManual.Http

open Text

structure Inbound where
  method : String
  target : String
  headers : List (String × List UInt8)
  body : List UInt8

/-- A response as it goes out, with a reason only if a valid one was recorded. -/
structure Outbound where
  status : Nat
  reason : Option String
  headers : List (String × String)
  body : String
deriving DecidableEq, Repr

/-- Path and query of a request target. Of an absolute target, scheme and authority are left out. A
target that is neither a path, nor absolute, nor the star for the server as a whole is an authority
alone, which has no path. -/
def splitTarget (target : String) : List Char × Option (List Char) :=
  let text := target.toList.takeWhile (· ≠ '#')
  let relative :=
    match text.head?, breakOn [':', '/', '/'] text with
    | some '/', _ => text
    | _, some (_, rest) =>
      let path := rest.dropWhile fun c => c ≠ '/' && c ≠ '?'
      if path.head? == some '/' then path else '/' :: path
    | _, none => if text = ['*'] then text else []
  cut '?' relative

/-- Bytes of a header value that are text: printable ASCII and the tab. -/
def isTextByte (byte : UInt8) : Bool :=
  (0x20 ≤ byte && byte < 0x7F) || byte == 0x09

/-- The headers with text for a value. Values under the same name follow on the first of them, so the
last one counts. -/
def headersOf (received : List (String × List UInt8)) : HeaderMap :=
  let named := received.map fun (name, value) => (lowercase name, value)
  let names := (named.map (·.1)).eraseDups
  let grouped := names.flatMap fun name => named.filter (·.1 == name)
  HeaderMap.ofPairs ((grouped.filter fun (_, value) => value.all isTextByte).map
    fun (name, value) => (name, String.ofList (decodeLossy value)))

def formType : String := "application/x-www-form-urlencoded"

def announcesForm (headers : HeaderMap) : Bool :=
  (headers.get? "content-type").any fun contentType =>
    formType.toList.isPrefixOf contentType.toList

def Inbound.toRequest (inbound : Inbound) : Request :=
  let (path, query) := splitTarget inbound.target
  let headers := headersOf inbound.headers
  let body := String.ofList (decodeLossy inbound.body)
  let hasBody := !inbound.body.isEmpty
  { Request.bare inbound.method (String.ofList path) with
    headers
    query := FieldMap.decode (String.ofList (query.getD []))
    form := if hasBody && announcesForm headers then some (FieldMap.decode body) else none
    body := if hasBody then some body else none }

/-- Headers that are made anew for every response. -/
def isComputedHeader (name : String) : Bool :=
  let name := String.ofList (name.toList.map Char.toLower)
  name == "content-length" || name == "transfer-encoding"

def isNameChar (c : Char) : Bool :=
  c.isAlphanum || "!#$%&'*+-.^_`|~".toList.contains c

def greatestNameLength : Nat := 65535

def isHeaderName (name : String) : Bool :=
  !name.isEmpty && name.toList.all isNameChar && name.length ≤ greatestNameLength

/-- Bytes of header values: everything but controls, and the tab. -/
def isValueByte (byte : UInt8) : Bool :=
  (0x20 ≤ byte && byte != 0x7F) || byte == 0x09

def isHeaderValue (value : String) : Bool := (utf8Bytes value.toList).all isValueByte

/-- Statuses with three digits are sent; any other is an internal error. -/
def sentStatus (status : Nat) : Nat :=
  if 100 ≤ status ∧ status ≤ 999 then status else 500

def Outbound.ofResponse (response : Response) : Outbound :=
  let sent := response.headers.items.filter fun (name, value) =>
    !isComputedHeader name && isHeaderName name && isHeaderValue value
  { status := sentStatus response.status
    reason := response.reason.filter isHeaderValue
    headers := sent.map fun (name, value) => (String.ofList (name.toList.map Char.toLower), value)
    body := response.body.getD "" }

def answer (responder : Responder) (inbound : Inbound) : Outbound :=
  Outbound.ofResponse (responder.respond inbound.toRequest)

end ApiManual.Http
