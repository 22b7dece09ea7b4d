import ApiManual.Article
import ApiManual.BasePath
import ApiManual.Registry

/-!
# The manual

Everything that is known about an API: its title and where it lives, articles, and the registry of its
endpoints with the exchanges recorded for them. A manual can be written as JSON and read again.
-/

namespace ApiManual

structure Manual where
  title : String
  version : Option String
  baseUri : Option String
  mediaType : Option String
  protocols : List String
  articles : List Article
  registry : Registry

namespace Manual

def basePath (manual : Manual) : Except Failure (Option String) :=
  BasePath.ofUri manual.baseUri

/-- Records an exchange with the endpoint its request is routed to; nothing when there is none. -/
def record? (base : Option String) (manual : Manual) (exchange : Exchange) : Option Manual :=
  let path := BasePath.relative base exchange.request.path
  (manual.registry.record? path exchange.request.method exchange).map fun registry =>
    { manual with registry }

/-- Records exchanges one after the other, those that no endpoint takes left out. Gives the manual and
how many were recorded. -/
def recordAll (base : Option String) (manual : Manual) (exchanges : List Exchange) :
    Manual × Nat :=
  exchanges.foldl
    (fun (manual, count) exchange =>
      match manual.record? base exchange with
      | some recorded => (recorded, count + 1)
      | none => (manual, count))
    (manual, 0)

/-- Records stored exchanges under the base path of the manual. -/
def attach (manual : Manual) (exchanges : List Exchange) : Except Failure (Manual × Nat) :=
  manual.basePath.map fun base => manual.recordAll base exchanges

def same (a b : Manual) : Bool :=
  a.title == b.title && a.version == b.version && a.baseUri == b.baseUri
    && a.mediaType == b.mediaType && a.protocols == b.protocols && a.articles == b.articles
    && Registry.same a.registry b.registry

/-- The members of the manual, in the order in which they are read. -/
def members (manual : Manual) : List (String × Json) :=
  [("title", .string manual.title),
    ("version", Json.ofOption .string manual.version),
    ("base_uri", Json.ofOption .string manual.baseUri),
    ("media_type", Json.ofOption .string manual.mediaType),
    ("protocols", Json.ofStrings manual.protocols),
    ("documents", .array (manual.articles.map Article.toJson)),
    ("resources", Registry.toJson manual.registry)]

/-- The canonical JSON of the manual. -/
def toJson (manual : Manual) : Json :=
  (Json.object manual.members).sorted

/-- A text that may be absent or null. -/
def textOfJson : Option Json → Except Failure (Option String)
  | none => .ok none
  | some .null => .ok none
  | some (.string text) => .ok (some text)
  | some other => .error (.mismatch "string" other.kind)

/-- Texts that may be absent or null. -/
def textsOfJson : Option Json → Except Failure (List String)
  | none => .ok []
  | some .null => .ok []
  | some json => orJson (json.list? Json.string?)

/-- A manual from canonical JSON. Its parts are read in order, and the first that cannot be read makes
the failure. -/
def ofJson (json : Json) : Except Failure Manual :=
  match json with
  | .object members => do
    let title ← textOfJson (members.lookup "title")
    let version ← textOfJson (members.lookup "version")
    let baseUri ← textOfJson (members.lookup "base_uri")
    let mediaType ← textOfJson (members.lookup "media_type")
    let protocols ← textsOfJson (members.lookup "protocols")
    let articles ← Article.listOfJson ((members.lookup "documents").getD .null)
    let registry ← Registry.ofJson ((members.lookup "resources").getD .null)
    return { title := title.getD "", version, baseUri, mediaType, protocols, articles, registry }
  | other => .error (.mismatch "DocumentationRoot" other.kind)

end Manual

end ApiManual
