import ApiManual.Keyed
import ApiManual.Json.Shape
import ApiManual.Text.Percent
import ApiManual.Text.Split

/-!
# Fields of queries and forms

A query or form gives one value or several to a name. Its encoded text is a list of pairs between
ampersands, in which a plus sign stands for a space and other characters may be escaped.
-/

namespace ApiManual

/-- The value of a field: one text, or the texts of a name that came up several times. -/
inductive FieldValue where
  | one (value : String)
  | many (values : List String)
deriving DecidableEq, Repr

namespace FieldValue

def values : FieldValue → List String
  | .one value => [value]
  | .many values => values

/-- The value after one more occurrence of its name. -/
def push (occurrence : String) : FieldValue → FieldValue
  | .one value => .many [value, occurrence]
  | .many values => .many (values ++ [occurrence])

def text : FieldValue → String
  | .one value => value
  | .many values => String.intercalate ", " values

def toJson : FieldValue → Json
  | .one value => .string value
  | .many values => Json.ofStrings values

def ofJson? : Json → Option FieldValue
  | .string value => some (.one value)
  | json => (json.list? Json.string?).map .many

end FieldValue

abbrev FieldMap := Dict FieldValue

namespace FieldMap

def names (fields : FieldMap) : List String := fields.keys

/-- The same names with the same values, in whatever order. -/
def same (a b : FieldMap) : Bool :=
  a.size == b.size && a.items.all fun (name, value) => b.find? name == some (name, value)

/-- The same names, in whatever order and with whatever values. -/
def sameNames (a b : FieldMap) : Bool :=
  a.size == b.size && a.names.all (b.names.contains ·)

/-- Adds one occurrence of a name. -/
def add (fields : FieldMap) (occurrence : String × String) : FieldMap :=
  match fields.find? occurrence.1 with
  | some (_, value) => fields.put (occurrence.1, value.push occurrence.2)
  | none => fields.put (occurrence.1, .one occurrence.2)

/-- Collects pairs by name, in the order in which the names first came up. -/
def ofPairs (pairs : List (String × String)) : FieldMap :=
  pairs.foldl add .empty

def decodeComponent (text : List Char) : String :=
  let spaced := text.map fun c => if c = '+' then ' ' else c
  String.ofList (Text.decodeLossy (Text.percentDecode (Text.utf8Bytes spaced)))

/-- The pairs of an encoded text. Empty pieces between ampersands are passed over. -/
def encodedPairs (text : String) : List (String × String) :=
  ((text.toList.splitOn '&').filter (!·.isEmpty)).map fun piece =>
    let (name, value) := Text.cut '=' piece
    (decodeComponent name, decodeComponent (value.getD []))

def decode (text : String) : FieldMap :=
  ofPairs (encodedPairs text)

def toJson (fields : FieldMap) : Json :=
  .object (fields.items.map fun (name, value) => (name, value.toJson))

def ofJson? (json : Json) : Option FieldMap := do
  let members ← json.members?
  let entries ← members.mapM fun (name, value) => (FieldValue.ofJson? value).map (name, ·)
  return Keyed.ofList _ entries

end FieldMap

end ApiManual
