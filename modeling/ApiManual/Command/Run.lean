import ApiManual.Command.Line
import ApiManual.Command.Message
import ApiManual.Publish

/-!
# Running commands

A command is a task on a host. It ends in success or failure; a failure that stops it is written to the
stream of errors.
-/

namespace ApiManual

variable {m : Type → Type} [Monad m] [Host m]

def Settings.load (scratch path : String) : Task m Settings := do
  let text ← Task.readText path
  Task.ofExcept (Settings.read scratch text)

/-- The settings in a file, or the standard settings if nothing is there. -/
def Settings.loadIfPresent (scratch path : String) : Task m Settings := do
  if ← (Host.holds path : m Bool) then Settings.load scratch path
  else return Settings.standard scratch

/-- The settings of the current folder, or the standard settings if they cannot be read. -/
def Settings.loadOrStandard (scratch : String) : m Settings := do
  match ← (Settings.load scratch Settings.fileName).run with
  | .ok settings => return settings
  | .error _ => return Settings.standard scratch

def Settings.save (settings : Settings) (path : String) : Task m Unit :=
  Task.writeText path settings.text

/-- The manual in a document. What cannot be read is told by what was attempted. -/
def Manual.load (path : String) : Task m Manual := do
  let text ← tryCatch (Task.readText path) fun _ =>
    throw (.attempt ("Failed to read " ++ path))
  match Json.readValue? text with
  | some json => Task.ofExcept (Manual.ofJson json)
  | none => throw (.attempt ("Invalid JSON in " ++ path))

def Origin.manual (settings : Settings) : Origin → Task m Manual
  | .document path => Manual.load path
  | .sources folder => return (← Report.build settings folder).manual

namespace Command

def runInit (scratch path : String) (force : Bool) : Task m Ending := do
  if (← (Host.holds path : m Bool)) && !force then
    Task.complain Message.settingsExist
    return .failure
  else
    Settings.save (Settings.standard scratch) path
    Task.print (Message.created path)
    return .success

def runBuild (settings : Settings) (folder : String) (overrides : Settings.Overrides) :
    Task m Ending := do
  let settings ← Task.ofExcept (settings.override overrides)
  Task.print (Message.building folder)
  let report ← Report.build settings folder
  if report.files.isEmpty then
    Task.complain (Message.noSources settings.included)
    return .failure
  else
    Task.print (Message.warnings report)
    let destination := settings.destination
    let written ← destination.format.publish report.manual destination.folder
    Task.print (Message.published destination.format destination.folder written.length)
    Task.print (Message.summary report)
    return .success

def runCheck (settings : Settings) (folder : String) : Task m Ending := do
  let report ← Report.scan settings folder
  if report.warnings.isEmpty then
    Task.print (Message.noWarnings report)
    return .success
  else
    Task.print (Message.warnings report)
    Task.complain (Message.checkFailed folder)
    return .failure

def address (host : String) (port : Nat) : Except Failure Uri.Address :=
  match Uri.NumericHost.read? host.toList with
  | some numeric => .ok ⟨numeric, port⟩
  | none => .error (.attempt ("Invalid listen address " ++ host ++ ":" ++ toString port))

def runServe (settings : Settings) (origin : Origin) (host : Option String) (port : Option Nat) :
    Task m Ending := do
  let address ← Task.ofExcept
    (address (host.getD settings.listener.host) (port.getD settings.listener.port))
  let manual ← origin.manual settings
  let responder ← Task.ofExcept (Responder.ofManual manual)
  Task.print (Message.serving responder.manual address.text)
  Task.ofHost (Host.listen address (Http.answer responder))
  return .success

/-- Runs a command with the settings it goes by, which are in the file at `settingsPath`. -/
def run (scratch settingsPath : String) (settings : Settings) : Command → Task m Ending
  | .init force => runInit scratch settingsPath force
  | .build folder overrides => runBuild settings folder overrides
  | .check folder => runCheck settings folder
  | .serve origin host port => runServe settings origin host port

end Command

/-- Runs an invocation. The settings are read first, whatever the command. -/
def Invocation.run (scratch : String) (invocation : Invocation) : Task m Ending := do
  let settings ← Settings.loadIfPresent scratch invocation.settingsPath
  invocation.command.run scratch invocation.settingsPath settings

def runLine (surroundings : Surroundings) (words : List String) : m Ending := do
  match Invocation.read surroundings words with
  | .ok invocation =>
    match ← (invocation.run surroundings.scratch).run with
    | .ok ending => return ending
    | .error failure =>
      Host.complain (Message.failed failure)
      return .failure
  | .error .help =>
    Host.print Message.usage
    return .success
  | .error .version =>
    Host.print Message.version
    return .success
  | .error .misuse =>
    Host.complain Message.usage
    return .misuse

end ApiManual
