import ApiManual.Failure
import ApiManual.Json.Shape
import ApiManual.Text.Blank
import ApiManual.Text.LetterCase
import ApiManual.Text.Table.Alphanumeric

/-!
# Articles

Prose that goes into the manual beside the endpoints.
-/

namespace ApiManual

structure Article where
  title : String
  content : Option String
deriving DecidableEq, Repr

namespace Article

def isAlphanumeric (c : Char) : Bool := Text.alphanumericRanges.has c

def keptInName (c : Char) : Char :=
  if isAlphanumeric c || c = '_' then c else '-'

/-- Writes a title in small letters, with a low line before a capital that comes after a small letter
or a digit, and a hyphen for everything that is neither letter nor number. -/
def snakeCase (afterSmall : Bool) : List Char → List Char
  | [] => []
  | c :: rest =>
    (if Text.isCapital c && afterSmall then ['_'] else [])
      ++ (Text.lowerChar c).map keptInName
      ++ snakeCase (Text.isSmall c || c.isDigit) rest

def pageName (article : Article) : String :=
  String.ofList (snakeCase false (Text.trim article.title.toList))

def toJson (article : Article) : Json :=
  .object [("title", .string article.title), ("content", Json.ofOption .string article.content)]

def ofJson? (json : Json) : Option Article := do
  let fields ← json.record? ["title", "content"]
  let title ← fields.required "title" Json.string?
  let content ← fields.optional "content" Json.string?
  return { title, content }

/-- An article from its JSON. Anything but an object with a title is refused as an item of the wrong
kind. -/
def ofJson (json : Json) : Except Failure Article :=
  match (json.members?.getD []).lookup "title" with
  | some (.string _) => orJson (ofJson? json)
  | _ => .error (.mismatch "Document" json.kind)

/-- The articles of a list; none for null. -/
def listOfJson : Json → Except Failure (List Article)
  | .null => .ok []
  | .array items => items.mapM ofJson
  | other => .error (.mismatch "Document" other.kind)

end Article

end ApiManual
