import ApiManual.Command.Run
import Std.Http

/-!
# The program

The machine as a host, with its own files, streams and network, and the entry of the program.
-/

namespace ApiManual.Machine

/-- The number and the words of an error, as far as it has them. -/
def codeOf : IO.Error → Option (UInt32 × String)
  | .alreadyExists _ code details | .otherError code details | .resourceBusy code details
  | .resourceVanished code details | .unsupportedOperation code details
  | .hardwareFault code details | .unsatisfiedConstraints code details
  | .illegalOperation code details | .protocolError code details | .timeExpired code details
  | .interrupted _ code details | .noFileOrDirectory _ code details
  | .invalidArgument _ code details | .permissionDenied _ code details
  | .resourceExhausted _ code details | .inappropriateType _ code details
  | .noSuchThing _ code details => some (code, details)
  | .unexpectedEof | .userError _ => none

/-- The number of an error without its sign: those of the network are negative. -/
def magnitude (code : UInt32) : Nat :=
  if code.toNat < 2147483648 then code.toNat else 4294967296 - code.toNat

/-- The fault that an error of the machine stands for. -/
def faultOf (error : IO.Error) : IoFault :=
  match codeOf error with
  | none => .other (toString error)
  | some (code, details) =>
    match magnitude code with
    | 2 => .notFound
    | 17 => .fileExists
    | 20 => .notADirectory
    | 21 => .isADirectory
    | 22 => .invalidArgument
    | 36 => .nameTooLong
    | 99 => .addressNotAvailable
    | number => .other (details ++ " (os error " ++ toString number ++ ")")

def attempt {α : Type} (action : IO α) : IO (Except IoFault α) := do
  try
    return .ok (← action)
  catch error =>
    return .error (faultOf error)

/-- The entry of a folder that a path names from the current one. -/
def entryAt (path : String) : IO.FS.DirEntry := ⟨".", path⟩

/-- The entries of a folder in ascending order of names; none if it cannot be read. -/
def entriesOf (folder : IO.FS.DirEntry) : IO (List IO.FS.DirEntry) := do
  try
    let entries ← folder.path.readDir
    return entries.toList.mergeSort fun a b => decide (a.fileName ≤ b.fileName)
  catch _ =>
    return []

/-- The files at or under an entry of a folder, by paths from that folder. Links are not followed. -/
partial def filesBelow (entry : IO.FS.DirEntry) : IO (List String) := do
  match (← entry.path.symlinkMetadata).type with
  | .file => return [entry.fileName]
  | .dir =>
    let found ← (← entriesOf entry).mapM filesBelow
    return found.flatten.map (joinPath entry.fileName)
  | _ => return []

/-- The files at or under a path, by paths that lead on from there. -/
def filesUnder (path : String) : IO (List String) := do
  let entry := entryAt path
  if path.isEmpty then return []
  else if ← entry.path.isDir then
    let found ← (← entriesOf entry).mapM filesBelow
    return found.flatten
  else if ← entry.path.pathExists then return [""]
  else return []

/-- The names of the files in a folder. Links count as what they lead to. -/
def filesIn (path : String) : IO (List String) := do
  let files ← (← entriesOf (entryAt path)).filterM fun entry => do
    return (← entry.path.pathExists) && !(← entry.path.isDir)
  return files.map (·.fileName)

/-- Makes a folder unless there is one. -/
def makeFolder (path : String) : IO Unit := do
  try
    IO.FS.createDir path
  catch error =>
    if ← (entryAt path).path.isDir then return ()
    else throw error

/-- The path without its last name. -/
def folderOf (path : String) : String :=
  String.ofList (path.toList.reverse.dropWhile (· ≠ '/')).tail.reverse

/-- Makes a folder and, if they are missing, the folders on the way to it. -/
partial def makeFolders (path : String) : IO Unit := do
  if path.isEmpty then return ()
  else
    try
      makeFolder path
    catch error =>
      match faultOf error with
      | .notFound =>
        makeFolders (folderOf path)
        makeFolder path
      | _ => throw error

/-- An address as the network takes it. -/
def socketAddress? (address : Uri.Address) : Option Std.Net.SocketAddress :=
  let port := address.port.toUInt16
  match address.host with
  | .fourBytes [a, b, c, d] =>
    some (.v4 ⟨.ofParts a.toUInt8 b.toUInt8 c.toUInt8 d.toUInt8, port⟩)
  | .eightGroups [a, b, c, d, e, f, g, h] _ =>
    some (.v6 ⟨.ofParts a.toUInt16 b.toUInt16 c.toUInt16 d.toUInt16 e.toUInt16 f.toUInt16
      g.toUInt16 h.toUInt16, port⟩)
  | _ => none

def inboundOf (head : Std.Http.Request.Head) (body : ByteArray) : Http.Inbound where
  method := toString head.method
  target := toString head.uri
  headers := head.headers.toList.map fun (name, value) =>
    (toString name, (toString value).toUTF8.toList)
  body := body.toList

/-- The status with its reason, which the statuses that have a name of their own keep to themselves. -/
def statusOf (outbound : Http.Outbound) : Std.Http.Status :=
  let reason := outbound.reason.getD ""
  let phrase :=
    if valid : Std.Http.IsValidReasonPhrase reason then some ⟨reason, valid⟩ else none
  (Std.Http.Status.ofCode phrase outbound.status.toUInt16).getD .internalServerError

def respond (answer : Http.Inbound → Http.Outbound)
    (request : Std.Http.Request Std.Http.Body.Stream) :
    Std.Async.ContextAsync (Std.Http.Response Std.Http.Body.Any) := do
  let body : ByteArray ← request.body.readAll
  let outbound := answer (inboundOf request.line body)
  let builder := outbound.headers.foldl
    (fun builder (name, value) => (builder.header? name value).getD builder)
    (Std.Http.Response.withStatus (statusOf outbound))
  let content ← Std.Http.Body.Full.ofString outbound.body
  return builder.body content

/-- Serves until the server is shut down. -/
def listen (address : Uri.Address) (answer : Http.Inbound → Http.Outbound) : IO Unit := do
  match socketAddress? address with
  | none => throw (.userError "no such address")
  | some socket =>
    let serving : Std.Async.Async Unit := do
      let server ← Std.Http.Server.serve socket
        (Std.Http.Server.Handler.ofFn (respond answer))
      server.waitShutdown
    serving.block

instance : Host IO where
  holds path := if path.isEmpty then return false else (entryAt path).path.pathExists
  isFolder path := if path.isEmpty then return false else (entryAt path).path.isDir
  read path := attempt (IO.FS.readBinFile path)
  write path content := attempt (IO.FS.writeBinFile path content)
  makeFolders path := attempt (makeFolders path)
  removeTree path := attempt (IO.FS.removeDirAll path)
  filesUnder path := filesUnder path
  filesIn path := filesIn path
  print text := IO.print text
  complain text := IO.eprint text
  listen address answer := attempt (listen address answer)

/-- What the program is told by its environment. -/
def surroundings : IO Surroundings := do
  return {
    scratch := (← IO.getEnv "TMPDIR").getD "/tmp"
    host := ← IO.getEnv "APISCRIBE_HOST"
    port := ← IO.getEnv "APISCRIBE_PORT" }

end ApiManual.Machine

def main (words : List String) : IO UInt32 := do
  let ending : ApiManual.Ending ← ApiManual.runLine (← ApiManual.Machine.surroundings) words
  return ending.code.toUInt32
