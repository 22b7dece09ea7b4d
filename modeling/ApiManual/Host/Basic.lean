import ApiManual.Http
import ApiManual.Uri.Address

/-!
# Hosts

What a command needs from the machine it runs on: files, two streams of text, and an address to listen
on. The commands are written against these operations, so they run on the files of a machine as well as
on a workspace, where what they do is a function of the workspace.
-/

namespace ApiManual

class Host (m : Type → Type) where
  /-- Something stands where a path leads. -/
  holds : String → m Bool
  isFolder : String → m Bool
  read : String → m (Except IoFault ByteArray)
  write : String → ByteArray → m (Except IoFault Unit)
  makeFolders : String → m (Except IoFault Unit)
  removeTree : String → m (Except IoFault Unit)
  /-- The files at or under a path, each by the path that leads on from there, folder by folder in
  ascending order of names. -/
  filesUnder : String → m (List String)
  /-- The names of the files that stand directly in a folder. -/
  filesIn : String → m (List String)
  /-- Writes to the stream of results. -/
  print : String → m Unit
  /-- Writes to the stream of errors. -/
  complain : String → m Unit
  /-- Listens on an address and answers the requests that come in there. -/
  listen : Uri.Address → (Http.Inbound → Http.Outbound) → m (Except IoFault Unit)

/-- What a command does on a host until it ends or fails. -/
abbrev Task (m : Type → Type) := ExceptT Failure m

namespace Task

variable {m : Type → Type} [Monad m]

def ofHost {α : Type} (operation : m (Except IoFault α)) : Task m α :=
  ExceptT.mk (return (← operation).mapError Failure.io)

def ofExcept {α : Type} (result : Except Failure α) : Task m α :=
  ExceptT.mk (return result)

variable [Host m]

def readText (path : String) : Task m String := do
  let content ← ofHost (Host.read path)
  match String.fromUTF8? content with
  | some text => return text
  | none => throw (.io .invalidText)

def writeText (path text : String) : Task m Unit :=
  ofHost (Host.write path text.toUTF8)

def print (text : String) : Task m Unit :=
  ExceptT.lift (Host.print text)

def complain (text : String) : Task m Unit :=
  ExceptT.lift (Host.complain text)

end Task

end ApiManual
