import ApiManual.Failure
import ApiManual.Keyed

/-!
# The workspace

A tree of folders and files below one root. It is kept as a collection of places, where a place is the
list of names on the way from the root. Places are named by paths, which are followed name by name:
every name but the last has to be that of a folder.

The operations are those a program asks of a file system, with the faults that a file system answers
with. They are pure, so what a command does to its files is a function that can be computed.
-/

namespace ApiManual

/-- The names on the way from the root. The root itself is the empty list. -/
abbrev Place := List String

/-- What stands at a place. -/
inductive Entry where
  | folder
  | file (content : ByteArray)

def Entry.isFolder : Entry → Bool
  | .folder => true
  | .file _ => false

/-- Places in the order of their first names, then of their second names, and so on. -/
def Place.precedes : Place → Place → Bool
  | [], _ => true
  | _ :: _, [] => false
  | a :: as, b :: bs => decide (a < b) || (a == b && Place.precedes as bs)

abbrev Workspace := Keyed (fun item : Place × Entry => item.1)

namespace Workspace

/-- What stands at a place, if anything does. The root is always a folder. -/
def entry? (workspace : Workspace) (place : Place) : Option Entry :=
  if place = [] then some .folder else (workspace.find? place).map (·.2)

/-- The longest name in bytes. -/
def greatestNameSize : Nat := 255

/-- Follows one name of a path. An empty name and a full stop stay, two full stops go up. -/
def follow (workspace : Workspace) (place : Place) (name : String) : Except IoFault Place :=
  match workspace.entry? place with
  | none => .error .notFound
  | some (.file _) => .error .notADirectory
  | some .folder =>
    if name = "" ∨ name = "." then .ok place
    else if name = ".." then if place = [] then .error .notFound else .ok place.dropLast
    else if name.utf8ByteSize > greatestNameSize then .error .nameTooLong
    else .ok (place ++ [name])

/-- The names of a path, which starts at the root of the workspace. -/
def names (path : String) : Except IoFault (List String) :=
  if path.toList.contains '\x00' then .error .nulInName
  else if path.isEmpty ∨ path.toList.head? = some '/' then .error .notFound
  else .ok ((path.toList.splitOn '/').map String.ofList)

/-- The place that a path names. Nothing has to stand there yet. -/
def locate (workspace : Workspace) (path : String) : Except IoFault Place := do
  let names ← names path
  names.foldlM workspace.follow []

def entryAt? (workspace : Workspace) (path : String) : Option Entry :=
  match workspace.locate path with
  | .ok place => workspace.entry? place
  | .error _ => none

def holds (workspace : Workspace) (path : String) : Bool :=
  (workspace.entryAt? path).isSome

def isFolder (workspace : Workspace) (path : String) : Bool :=
  (workspace.entryAt? path).any Entry.isFolder

def read (workspace : Workspace) (path : String) : Except IoFault ByteArray := do
  let place ← workspace.locate path
  match workspace.entry? place with
  | some (.file content) => .ok content
  | some .folder => .error .isADirectory
  | none => .error .notFound

/-- A path that can only name a folder. -/
def namesFolder (path : String) : Bool :=
  path.toList.getLast? = some '/'

/-- Puts a content into a file, which may be new, in a folder, which may not. -/
def write (workspace : Workspace) (path : String) (content : ByteArray) :
    Except IoFault Workspace := do
  let bare := String.ofList (path.toList.reverse.dropWhile (· == '/')).reverse
  let place ← workspace.locate (if namesFolder path then bare else path)
  match workspace.entry? place, namesFolder path with
  | some .folder, _ => .error .isADirectory
  | some (.file _), true => .error .notADirectory
  | none, true => .error .isADirectory
  | _, false => .ok (workspace.put (place, .file content))

/-- Follows a name and makes a folder there unless there is one. -/
def enter : Workspace × Place → String → Except IoFault (Workspace × Place)
  | (workspace, place), name => do
    let next ← workspace.follow place name
    match workspace.entry? next with
    | some .folder => .ok (workspace, next)
    | some (.file _) => .error .fileExists
    | none => .ok (workspace.put (next, .folder), next)

/-- The fault of a file that stands in the way: it cannot be entered, and at the end of the path it
cannot be made a folder. -/
def faultInTheWay (isLast : Bool) : IoFault → IoFault
  | .fileExists => if isLast then .fileExists else .notADirectory
  | fault => fault

/-- Makes the folders that names lead through. -/
def enterAll : List String → Workspace × Place → Except IoFault Workspace
  | [], (workspace, _) => .ok workspace
  | name :: rest, state =>
    match enter state name with
    | .ok next => enterAll rest next
    | .error fault => .error (faultInTheWay (rest.all (· == "")) fault)

def makeFolders (workspace : Workspace) (path : String) : Except IoFault Workspace :=
  if path.isEmpty then .ok workspace
  else do
    let names ← names path
    enterAll names (workspace, [])

def without (workspace : Workspace) (place : Place) : Workspace :=
  ⟨workspace.items.filter fun item => !place.isPrefixOf item.1,
    workspace.distinct.sublist (List.filter_sublist.map _)⟩

def emptied (workspace : Workspace) (place : Place) : Workspace :=
  ⟨workspace.items.filter fun item => !(place.isPrefixOf item.1 && place.length < item.1.length),
    workspace.distinct.sublist (List.filter_sublist.map _)⟩

/-- A path that ends in a full stop names a folder that cannot be removed by it. -/
def endsInStop (path : String) : Bool :=
  ((path.toList.splitOn '/').filter (· ≠ [])).getLast? = some ['.']

/-- Removes a folder with everything in it. A path that ends in a full stop empties the folder and then
fails. -/
def removeTree (workspace : Workspace) (path : String) : Except IoFault Unit × Workspace :=
  match workspace.locate path with
  | .error fault => (.error fault, workspace)
  | .ok place =>
    match workspace.entry? place with
    | none => (.error .notFound, workspace)
    | some (.file _) => (.error .notADirectory, workspace)
    | some .folder =>
      if endsInStop path then (.error .invalidArgument, workspace.emptied place)
      else (.ok (), workspace.without place)

/-- The files under a place, in ascending order of the names that lead to them. -/
def filesBelow (workspace : Workspace) (place : Place) : List Place :=
  let found := workspace.items.filterMap fun (at_, entry) =>
    match entry with
    | .file _ => if place.isPrefixOf at_ then some (at_.drop place.length) else none
    | .folder => none
  found.mergeSort Place.precedes

/-- The files at or under a path, each by the path that leads on from there. -/
def filesUnder (workspace : Workspace) (path : String) : List String :=
  match workspace.locate path with
  | .ok place => (workspace.filesBelow place).map (String.intercalate "/")
  | .error _ => []

def filesIn (workspace : Workspace) (path : String) : List String :=
  match workspace.locate path with
  | .ok place => (workspace.filesBelow place).filterMap fun names =>
    match names with
    | [name] => some name
    | _ => none
  | .error _ => []

end Workspace

end ApiManual
