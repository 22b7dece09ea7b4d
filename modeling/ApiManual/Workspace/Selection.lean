import ApiManual.Workspace.Pattern

/-!
# Selections of files

Which files are read is told by patterns for paths: a file is taken when one of the patterns to include
describes its path and none of the patterns to exclude does. Without patterns to include, every file
counts as included.
-/

namespace ApiManual

structure Selection where
  included : List Pattern
  excluded : List Pattern

namespace Selection

/-- Reads the patterns. The first one that is wrong makes the failure. -/
def read (included excluded : List String) : Except Failure Selection := do
  let included ← included.mapM Pattern.read
  let excluded ← excluded.mapM Pattern.read
  return { included, excluded }

/-- The selection takes the file with this path. -/
def takes (selection : Selection) (path : String) : Bool :=
  (selection.included.isEmpty || selection.included.any (·.fits path.toList))
    && !selection.excluded.any (·.fits path.toList)

end Selection

end ApiManual
