import ApiManual.Manual

/-!
# Pages

The manual as pages of text: one page for each article, one for each endpoint, and an index of both.
Pages are lists of lines until they are joined. The parameters of an endpoint form a table for each
carrier, a row for each parameter, in ascending order of names.
-/

namespace ApiManual.Page

/-- Lines, each ended by a line feed. -/
def ofLines (lines : List String) : String :=
  String.join (lines.map (· ++ "\n"))

def ofArticle (article : Article) : String :=
  "# " ++ article.title ++ "\n\n" ++ article.content.getD ""

def columns : List String :=
  ["Name", "Type", "Required", "Default", "Example", "Enum", "Pattern", "MinLength", "MaxLength",
    "Minimum", "Maximum", "Repeat", "Description"]

def row (cells : List String) : String := String.intercalate " | " cells

def flag (value : Bool) : String := if value then "`True`" else "`False`"

/-- A text on one line. -/
def oneLine (text : String) : String :=
  String.ofList (text.toList.map fun c => if c = '\n' then ' ' else c)

/-- The cells of a parameter, one for each column. -/
def cells (param : Param) : List String :=
  [param.name,
    param.typeName.getD "string",
    flag param.required,
    param.default.getD "",
    param.sample.getD "",
    (param.choices.map (String.intercalate ", ")).getD "",
    param.pattern.getD "",
    (param.minLength.map toString).getD "",
    (param.maxLength.map toString).getD "",
    (param.minimum.map Binary64.plainText).getD "",
    (param.maximum.map Binary64.plainText).getD "",
    flag param.repeatable,
    oneLine (param.description.getD "")]

/-- Parameters in ascending order of names; equal names keep their order. -/
def byName (params : List Param) : List Param :=
  params.mergeSort fun a b => decide (a.name ≤ b.name)

/-- The lines of a table of parameters. -/
def table (params : List Param) : List String :=
  row columns :: row (columns.map fun _ => "---") :: (byName params).map fun param =>
    row (cells param)

/-- A text between fences, in a language that may be empty. -/
def fenced (language body : String) : String :=
  "```" ++ language ++ "\n" ++ body ++ "\n```\n"

def language (format : Option BodyFormat) : String := (format.map BodyFormat.name).getD ""

/-- The headers and the body of a message between fences, as far as there are any. -/
def fencedParts (headers : HeaderMap) (format : Option BodyFormat) (body : Option String) :
    String :=
  (if headers.isEmpty then "" else fenced "" headers.text)
    ++ (body.map (fenced (language format))).getD ""

def requestPart (request : Request) : String :=
  "#### Request\n\n`" ++ request.describe ++ "`\n\n"
    ++ fencedParts request.headers request.bodyFormat? request.body ++ "\n"

/-- The body of a response as it is shown: a JSON body indented, any other as it is. -/
def shownBody (response : Response) : Option String :=
  match response.bodyValue? with
  | some json => some json.indented
  | none => response.body

def responsePart (response : Response) : String :=
  "#### Response\n\n`" ++ response.statusLine ++ "`\n\n"
    ++ fencedParts response.headers response.bodyFormat? (shownBody response)

def exchangePart (index : Nat) (exchange : Exchange) : String :=
  "### #" ++ toString index ++ "\n\n" ++ requestPart exchange.request
    ++ responsePart exchange.response ++ "\n---\n"

/-- Title, method and path of an endpoint. -/
def heading (endpoint : Endpoint) : String :=
  "# " ++ endpoint.displayName.getD "untitled" ++ "\n\n## `" ++ uppercase endpoint.method ++ "` `"
    ++ endpoint.path ++ "`\n\n"

/-- The table of one carrier, with its heading; nothing when it carries no parameter. -/
def carrierPart (endpoint : Endpoint) (carrier : Carrier) : String :=
  let params := endpoint.params carrier
  if params.isEmpty then ""
  else "### " ++ carrier.label ++ "\n\n" ++ ofLines (table params) ++ "\n"

def paramsPart (endpoint : Endpoint) : String :=
  if endpoint.allParams.isEmpty then ""
  else "## Parameters\n\n" ++ String.join (Carrier.inOrder.map (carrierPart endpoint))

/-- The visible exchanges, numbered from zero. -/
def exchangesPart (endpoint : Endpoint) : String :=
  let visible := endpoint.exchanges.filter (·.visible)
  if visible.isEmpty then ""
  else
    "## Examples\n\n"
      ++ String.join (visible.zipIdx.map fun (exchange, index) => exchangePart index exchange)

def ofEndpoint (endpoint : Endpoint) : String :=
  heading endpoint
    ++ (endpoint.description.map (· ++ "\n\n")).getD ""
    ++ paramsPart endpoint ++ exchangesPart endpoint

/-- The name of an article's page. It starts with a hyphen. -/
def articleFile (article : Article) : String := "-" ++ article.pageName ++ ".md"

def endpointFile (endpoint : Endpoint) : String := endpoint.pageName ++ ".md"

def indexFile : String := "index.md"

def articleEntry (article : Article) : String :=
  "- [" ++ article.title ++ "](" ++ articleFile article ++ ")\n"

def endpointEntry (endpoint : Endpoint) : String :=
  "- [`" ++ uppercase endpoint.method ++ "` `" ++ endpoint.path ++ "`](" ++ endpointFile endpoint
    ++ ") " ++ endpoint.displayName.getD "" ++ "\n"

/-- The index: title and version, then articles and endpoints with links to their pages. -/
def index (manual : Manual) : String :=
  let title := if manual.title.isEmpty then "untitled" else manual.title
  let articles :=
    if manual.articles.isEmpty then ""
    else "## Documents\n\n" ++ String.join (manual.articles.map articleEntry) ++ "\n"
  let documented := Registry.documented manual.registry
  let endpoints :=
    if documented.isEmpty then ""
    else "## Resources\n\n" ++ String.join (documented.map endpointEntry)
  "# " ++ title ++ "\n\n"
    ++ (manual.version.map fun version => "Version: `" ++ version ++ "`\n\n").getD ""
    ++ articles ++ endpoints

/-- All pages with the names of their files: articles, endpoints by path, and the index last. -/
def all (manual : Manual) : List (String × String) :=
  manual.articles.map (fun article => (articleFile article, ofArticle article))
    ++ ((Registry.tree manual.registry).flatMap fun (_, endpoints) =>
      (endpoints.filter (!·.companion)).map fun endpoint =>
        (endpointFile endpoint, ofEndpoint endpoint))
    ++ [(indexFile, index manual)]

end ApiManual.Page
