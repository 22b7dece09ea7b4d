import ApiManual.Keyed
import ApiManual.Json.Shape
import ApiManual.Text.LetterCase
import ApiManual.Text.Quoted

/-!
# Headers

Headers are found by name whatever the case of its letters, and keep the spelling they were last
given. Equality looks at neither order nor spelling.
-/

namespace ApiManual

/-- Headers as pairs of spelling and value, in the order in which their names first came up. -/
abbrev HeaderMap := Keyed (fun header : String × String => lowercase header.1)

namespace HeaderMap

def get? (headers : HeaderMap) (name : String) : Option String :=
  (headers.find? (lowercase name)).map (·.2)

def insert (headers : HeaderMap) (name value : String) : HeaderMap :=
  headers.put (name, value)

def erase (headers : HeaderMap) (name : String) : HeaderMap :=
  headers.remove (lowercase name)

def has (headers : HeaderMap) (name : String) : Bool :=
  headers.contains (lowercase name)

/-- Changes the value of a header and leaves its spelling. -/
def update (headers : HeaderMap) (name : String) (change : String → String) : HeaderMap :=
  headers.adjust (lowercase name) fun (spelling, value) => (spelling, change value)

/-- The value that a name had, if any, and the headers with a new one. -/
def getThenInsert? (headers : HeaderMap) (name value : String) : Option String × HeaderMap :=
  (headers.get? name, headers.insert name value)

/-- The value that a name had, if any, and the headers without it. -/
def getThenErase? (headers : HeaderMap) (name : String) : Option String × HeaderMap :=
  (headers.get? name, headers.erase name)

/-- The headers under their names in small letters. -/
def lowered (headers : HeaderMap) : List (String × String) :=
  headers.items.map fun (name, value) => (lowercase name, value)

def ofPairs (pairs : List (String × String)) : HeaderMap :=
  Keyed.ofList _ pairs

/-- The same names with the same values, in whatever order and spelling. -/
def same (a b : HeaderMap) : Bool :=
  a.size == b.size && a.items.all fun (name, value) => b.get? name == some value

/-- Goes through entries as long as each has a name that is new in small letters and the value of that
name here. `seen` are the names before them, in small letters. -/
def fitsEntries (headers : HeaderMap) (seen : List String) : List (String × String) → Bool
  | [] => true
  | (name, value) :: rest =>
    !seen.contains (lowercase name) && headers.get? name == some value
      && headers.fitsEntries (lowercase name :: seen) rest

/-- Equality with entries under exact names. Names that differ in case alone never fit. -/
def sameAsEntries (headers : HeaderMap) (entries : Dict String) : Bool :=
  headers.size == entries.size && headers.fitsEntries [] entries.items

def text (headers : HeaderMap) : String :=
  String.intercalate "\n" (headers.items.map fun (name, value) => name ++ ": " ++ value)

/-- The headers as quoted pairs between braces. -/
def quoted (headers : HeaderMap) : String :=
  let entry : String × String → String := fun (name, value) =>
    String.ofList (Text.quoted name.toList ++ [':', ' '] ++ Text.quoted value.toList)
  "\x7b" ++ String.intercalate ", " (headers.items.map entry) ++ "\x7d"

def toJson (headers : HeaderMap) : Json :=
  .object (headers.items.map fun (name, value) => (name, .string value))

/-- Names and values of an object. Of entries under exactly the same name the last one counts, at the
place of the first. -/
def ofJson? (json : Json) : Option HeaderMap := do
  let members ← json.members?
  let entries ← members.mapM fun (name, value) => value.string?.map (name, ·)
  let distinct : Dict String := Keyed.ofList _ entries
  return ofPairs distinct.items

end HeaderMap

end ApiManual
