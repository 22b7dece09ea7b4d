import ApiManual.Annotation.Source
import ApiManual.Archive
import ApiManual.Manual
import ApiManual.Settings
import ApiManual.Workspace.Selection

/-!
# Reports

A report is what comes out of reading the sources of a project: the manual, the warnings, and the files
that were read. It also tells what a reader of the manual would miss: endpoints without a recorded
exchange, and parameters that are declared twice.
-/

namespace ApiManual

/-- A manual that knows nothing but the settings. -/
def Settings.manual (settings : Settings) : Manual where
  title := settings.title
  version := settings.version
  baseUri := settings.baseUri
  mediaType := settings.mediaType
  protocols := settings.protocols
  articles := []
  registry := .empty

structure Report where
  manual : Manual
  warnings : List Warning
  /-- The paths of the sources, whether they could be read or not. -/
  files : List String

namespace Report

def withoutExchanges (report : Report) : List Endpoint :=
  Registry.withoutExchanges report.manual.registry

/-- The endpoints that declare a parameter more than once, with the names of those parameters. -/
def repeatedParams (report : Report) : List (Endpoint × List String) :=
  ((Registry.documented report.manual.registry).map fun endpoint =>
    (endpoint, endpoint.repeatedParamNames)).filter fun (_, names) => !names.isEmpty

/-- Reads sources. Every draft that has a method becomes an endpoint of the manual. -/
def ofSources (settings : Settings) (sources : List SourceFile) : Report :=
  let outcome := SourceFile.readAll settings.delimiters sources
  let registry := Registry.insertAll .empty (outcome.drafts.filterMap Draft.toEndpoint?)
  { manual := { settings.manual with registry }, warnings := outcome.warnings, files := [] }

variable {m : Type → Type} [Monad m] [Host m]

/-- The path of a file that was found under a folder. What was found by an empty path is the folder
itself, which then is a file. -/
def pathUnder (folder found : String) : String :=
  if found.isEmpty then folder else joinPath folder found

def sourcePaths (settings : Settings) (folder : String) : Task m (List String) := do
  let selection ← Task.ofExcept (Selection.read settings.included settings.excluded)
  let found ← (Host.filesUnder folder : m (List String))
  return (found.filter selection.takes).map (pathUnder folder)

/-- The source at a path; nothing when there is no text. -/
def source? (path : String) : m (Option SourceFile) := do
  match ← Host.read path with
  | .ok content => return (String.fromUTF8? content).map fun text => ⟨path, text⟩
  | .error _ => return none

/-- Reads the sources under a folder. Sources that are no text are passed over. -/
def scan (settings : Settings) (folder : String) : Task m Report := do
  let paths ← sourcePaths settings folder
  let sources ← (paths.filterMapM source? : m (List SourceFile))
  return { ofSources settings sources with files := paths }

/-- Reads the sources under a folder and records the exchanges of the archive in the manual. -/
def build (settings : Settings) (folder : String) : Task m Report := do
  let report ← scan settings folder
  let archive ← (Archive.ofFolder settings.archive : m Archive)
  let (manual, _) ← Task.ofExcept (report.manual.attach archive.exchanges)
  return { report with manual }

end Report

end ApiManual
