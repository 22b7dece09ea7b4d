import ApiManual.Host.Basic
import ApiManual.Workspace.Basic

/-!
# Sessions

A host whose files are a workspace and which keeps what is written to its streams. There is no network
in a session: an address can be named but not listened on.
-/

namespace ApiManual

structure Session where
  workspace : Workspace
  printed : String
  complained : String

abbrev SessionM := StateM Session

namespace Session

/-- A session in which nothing has been written yet. -/
def on (workspace : Workspace) : Session := ⟨workspace, "", ""⟩

/-- Changes the workspace, or leaves it at a fault. -/
def change (operation : Workspace → Except IoFault Workspace) : SessionM (Except IoFault Unit) :=
  fun session =>
    match operation session.workspace with
    | .ok workspace => (.ok (), { session with workspace })
    | .error fault => (.error fault, session)

instance : Host SessionM where
  holds path := fun session => (session.workspace.holds path, session)
  isFolder path := fun session => (session.workspace.isFolder path, session)
  read path := fun session => (session.workspace.read path, session)
  write path content := change (·.write path content)
  makeFolders path := change (·.makeFolders path)
  removeTree path := fun session =>
    let (result, workspace) := session.workspace.removeTree path
    (result, { session with workspace })
  filesUnder path := fun session => (session.workspace.filesUnder path, session)
  filesIn path := fun session => (session.workspace.filesIn path, session)
  print text := modify fun session => { session with printed := session.printed ++ text }
  complain text := modify fun session => { session with complained := session.complained ++ text }
  listen _ _ := fun session => (.error .addressNotAvailable, session)

end Session

end ApiManual
