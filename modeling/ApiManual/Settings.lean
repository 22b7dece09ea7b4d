import ApiManual.Annotation.Block
import ApiManual.Format
import ApiManual.Json.Reader
import ApiManual.Json.Writer
import ApiManual.Workspace.Path

/-!
# Settings

Everything that can be set for a project. Settings are kept as JSON; what is not written there has its
standard value. Options of a command come before the settings.
-/

namespace ApiManual

structure Destination where
  folder : String
  format : Format
deriving DecidableEq, Repr

structure Listener where
  host : String
  port : Nat
deriving DecidableEq, Repr

structure Settings where
  title : String
  version : Option String
  baseUri : Option String
  mediaType : Option String
  protocols : List String
  included : List String
  excluded : List String
  delimiters : Delimiters
  destination : Destination
  archive : String
  listener : Listener
deriving DecidableEq, Repr

namespace Settings

def fileName : String := ".apiscribe.config.json"

def standardTitle : String := "API Documentation"

def standardIncluded : List String := ["**/*.py"]

/-- Files of version control, environments, caches and builds. -/
def standardExcluded : List String :=
  ["**/.git/**", "**/.venv/**", "**/venv/**", "**/__pycache__/**", "**/.pytest_cache/**",
    "**/.tox/**", "**/build/**", "**/dist/**"]

def standardDelimiters : Delimiters := ⟨"\"\"\"", "\"\"\""⟩

def standardDestination : Destination := ⟨"./docs", .markdown⟩

/-- The folder of the archive in the folder for passing files. -/
def standardArchive (scratch : String) : String := joinPath scratch "apiscribe_examples"

def standardListener : Listener := ⟨"127.0.0.1", 8080⟩

/-- The standard settings on a machine with the folder `scratch` for passing files. -/
def standard (scratch : String) : Settings where
  title := standardTitle
  version := none
  baseUri := none
  mediaType := none
  protocols := []
  included := standardIncluded
  excluded := standardExcluded
  delimiters := standardDelimiters
  destination := standardDestination
  archive := standardArchive scratch
  listener := standardListener

def greatestPort : Nat := 65535

def delimitersOfJson? (json : Json) : Option Delimiters := do
  let fields ← json.record? ["start", "end"]
  let opening ← fields.withDefault "start" standardDelimiters.opening Json.string?
  let closing ← fields.withDefault "end" standardDelimiters.closing Json.string?
  return ⟨opening, closing⟩

def destinationOfJson? (json : Json) : Option Destination := do
  let fields ← json.record? ["dir", "generator"]
  let folder ← fields.withDefault "dir" standardDestination.folder Json.string?
  let format ← fields.withDefault "generator" standardDestination.format Format.ofJson?
  return ⟨folder, format⟩

def listenerOfJson? (json : Json) : Option Listener := do
  let fields ← json.record? ["host", "port"]
  let host ← fields.withDefault "host" standardListener.host Json.string?
  let port ← fields.withDefault "port" standardListener.port (Json.nat? greatestPort)
  return ⟨host, port⟩

/-- Settings from their JSON. What is not written has its standard value. -/
def ofJson? (scratch : String) (json : Json) : Option Settings := do
  let fields ← json.record?
    ["title", "version", "base_uri", "media_type", "protocols", "include", "exclude", "block",
      "output", "examples_dir", "mock"]
  let title ← fields.withDefault "title" standardTitle Json.string?
  let version ← fields.optional "version" Json.string?
  let baseUri ← fields.optional "base_uri" Json.string?
  let mediaType ← fields.optional "media_type" Json.string?
  let protocols ← fields.withDefault "protocols" [] (Json.list? Json.string?)
  let included ← fields.withDefault "include" standardIncluded (Json.list? Json.string?)
  let excluded ← fields.withDefault "exclude" standardExcluded (Json.list? Json.string?)
  let delimiters ← fields.withDefault "block" standardDelimiters delimitersOfJson?
  let destination ← fields.withDefault "output" standardDestination destinationOfJson?
  let archive ← fields.withDefault "examples_dir" (standardArchive scratch) Json.string?
  let listener ← fields.withDefault "mock" standardListener listenerOfJson?
  return {
    title, version, baseUri, mediaType, protocols, included, excluded, delimiters, destination,
    archive, listener }

def read (scratch text : String) : Except Failure Settings :=
  orJson ((Json.read? text).bind (ofJson? scratch))

/-- A member that is left out when there is nothing to write. -/
def memberOf (name : String) (text : Option String) : List (String × Json) :=
  (text.map fun text => (name, Json.string text)).toList

def toJson (settings : Settings) : Json :=
  .object (
    [("title", .string settings.title)]
      ++ memberOf "version" settings.version
      ++ memberOf "base_uri" settings.baseUri
      ++ memberOf "media_type" settings.mediaType
      ++ [("protocols", Json.ofStrings settings.protocols),
        ("include", Json.ofStrings settings.included),
        ("exclude", Json.ofStrings settings.excluded),
        ("block", .object [
          ("start", .string settings.delimiters.opening),
          ("end", .string settings.delimiters.closing)]),
        ("output", .object [
          ("dir", .string settings.destination.folder),
          ("generator", settings.destination.format.toJson)]),
        ("examples_dir", .string settings.archive),
        ("mock", .object [
          ("host", .string settings.listener.host),
          ("port", .nat settings.listener.port)])])

def text (settings : Settings) : String := settings.toJson.indented

/-- What the options of a command set in place of the settings. -/
structure Overrides where
  title : Option String
  folder : Option String
  baseUri : Option String
  format : Option String
  archive : Option String
deriving DecidableEq, Repr

/-- The settings with the overrides in their place. The format has to be the name of one. -/
def override (settings : Settings) (overrides : Overrides) : Except Failure Settings := do
  let format ← match overrides.format with
    | some name => Format.ofText name
    | none => .ok settings.destination.format
  return { settings with
    title := overrides.title.getD settings.title
    baseUri := overrides.baseUri.or settings.baseUri
    destination := ⟨overrides.folder.getD settings.destination.folder, format⟩
    archive := overrides.archive.getD settings.archive }

end Settings

end ApiManual
