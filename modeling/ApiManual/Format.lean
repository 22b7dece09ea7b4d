import ApiManual.Failure
import ApiManual.Json.Shape
import ApiManual.Text.Blank
import ApiManual.Text.LetterCase

/-!
# Output formats

A manual is published as a folder of pages or as one document of JSON. The document comes under two
names, one for readers and one to answer requests from.
-/

namespace ApiManual

inductive Format where
  | markdown
  | json
  | mock
deriving DecidableEq, Repr

namespace Format

def name : Format → String
  | .markdown => "markdown"
  | .json => "json"
  | .mock => "mock"

def ofName? : String → Option Format
  | "markdown" => some .markdown
  | "json" => some .json
  | "mock" => some .mock
  | _ => none

/-- The format that a text names in any case, between blanks, by its name or a short one. -/
def ofText (text : String) : Except Failure Format :=
  let word := lowercase (String.ofList (Text.trim text.toList))
  if word = "md" then .ok .markdown
  else match ofName? word with
    | some format => .ok format
    | none => .error (.unknownFormat word)

def toJson (format : Format) : Json := .string format.name

def ofJson? (json : Json) : Option Format := json.word?.bind ofName?

end Format

end ApiManual
