import ApiManual.Host.Basic
import ApiManual.Page
import ApiManual.Settings

/-!
# Publishing

A manual is published into a folder. Pages take the whole folder: what was there before is removed. A
document is put beside what is there.
-/

namespace ApiManual

namespace Publish

variable {m : Type → Type} [Monad m] [Host m]

/-- Writes texts into files of a folder, one after the other. Gives the paths of the files. -/
def writeAll (folder : String) (files : List (String × String)) : Task m (List String) :=
  files.mapM fun (name, text) => do
    let path := joinPath folder name
    Task.writeText path text
    return path

/-- Removes a folder if there is one. -/
def clear (folder : String) : Task m Unit := do
  if ← (Host.holds folder : m Bool) then Task.ofHost (Host.removeTree folder)

/-- Publishes the manual as pages, in a folder that holds nothing else. -/
def pages (manual : Manual) (folder : String) : Task m (List String) := do
  clear folder
  Task.ofHost (Host.makeFolders folder)
  writeAll folder (Page.all manual)

/-- Publishes the manual as one document. -/
def document (name : String) (manual : Manual) (folder : String) : Task m (List String) := do
  Task.ofHost (Host.makeFolders folder)
  writeAll folder [(name, manual.toJson.indented)]

end Publish

/-- Publishes a manual in a format. Gives the paths of the files in the order of writing. -/
def Format.publish {m : Type → Type} [Monad m] [Host m] (format : Format) (manual : Manual)
    (folder : String) : Task m (List String) :=
  match format with
  | .markdown => Publish.pages manual folder
  | .json => Publish.document "index.json" manual folder
  | .mock => Publish.document "index.mock.json" manual folder

end ApiManual
