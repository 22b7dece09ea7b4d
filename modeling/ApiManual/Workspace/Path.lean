/-!
# Paths

A path is a text of names between slashes.
-/

namespace ApiManual

def joinPath (folder name : String) : String :=
  if folder.isEmpty ∨ folder.toList.getLast? = some '/' then folder ++ name
  else folder ++ "/" ++ name

end ApiManual
