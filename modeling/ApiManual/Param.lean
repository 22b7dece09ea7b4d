import ApiManual.Json.Shape
import ApiManual.Text.Blank
import ApiManual.Text.LetterCase

/-!
# Parameters

A documented parameter of an endpoint, and the part of a request that carries it.
-/

namespace ApiManual

/-- The part of a request that carries a parameter. -/
inductive Carrier where
  | url
  | query
  | form
  | header
deriving DecidableEq, Repr

namespace Carrier

/-- The name of the list of parameters in JSON. -/
def bucket : Carrier → String
  | .url => "uri_params"
  | .query => "query_params"
  | .form => "form_params"
  | .header => "header_params"

/-- The heading of the parameters on a page. -/
def label : Carrier → String
  | .url => "URL parameters"
  | .query => "Query parameters"
  | .form => "Form parameters"
  | .header => "Header parameters"

/-- The order in which the parameters of an endpoint are listed. -/
def inOrder : List Carrier := [.url, .query, .header, .form]

theorem mem_inOrder (carrier : Carrier) : carrier ∈ inOrder := by
  cases carrier <;> decide

end Carrier

/-- The types a parameter can have. -/
inductive ParamType where
  | string
  | number
  | integer
  | boolean
  | date
  | file
deriving DecidableEq, Repr

namespace ParamType

def name : ParamType → String
  | .string => "string"
  | .number => "number"
  | .integer => "integer"
  | .boolean => "boolean"
  | .date => "date"
  | .file => "file"

/-- The type that a word of an annotation names, in any case and by any of its names. -/
def ofToken? (token : String) : Option ParamType :=
  match lowercase (String.ofList (Text.trim token.toList)) with
  | "string" | "str" => some .string
  | "number" | "decimal" | "float" => some .number
  | "integer" | "int" => some .integer
  | "boolean" | "bool" => some .boolean
  | "date" | "datetime" => some .date
  | "file" | "bytes" | "io" => some .file
  | _ => none

end ParamType

/-- A documented parameter. The type is the word written in the annotation. -/
structure Param where
  carrier : Carrier
  name : String
  displayName : Option String
  description : Option String
  typeName : Option String
  choices : Option (List String)
  pattern : Option String
  minLength : Option Nat
  maxLength : Option Nat
  minimum : Option Binary64
  maximum : Option Binary64
  sample : Option String
  repeatable : Bool
  required : Bool
  default : Option String

namespace Param

/-- A parameter of which only the name is known. Parameters in the URL are required. -/
def named (carrier : Carrier) (name : String) : Param where
  carrier
  name
  displayName := none
  description := none
  typeName := none
  choices := none
  pattern := none
  minLength := none
  maxLength := none
  minimum := none
  maximum := none
  sample := none
  repeatable := false
  required := carrier = .url
  default := none

/-- The type that the type word names, if it names one. -/
def type? (param : Param) : Option ParamType :=
  param.typeName.bind ParamType.ofToken?

/-- Equality of bounds, where the two zeros are the same. -/
def sameBound : Option Binary64 → Option Binary64 → Bool
  | none, none => true
  | some a, some b => a.same b
  | _, _ => false

def same (a b : Param) : Bool :=
  a.carrier == b.carrier && a.name == b.name && a.displayName == b.displayName
    && a.description == b.description && a.typeName == b.typeName && a.choices == b.choices
    && a.pattern == b.pattern && a.minLength == b.minLength && a.maxLength == b.maxLength
    && sameBound a.minimum b.minimum && sameBound a.maximum b.maximum && a.sample == b.sample
    && a.repeatable == b.repeatable && a.required == b.required && a.default == b.default

def ofFloat (x : Binary64) : Json := .number (.float x)

/-- The carrier is not written: the list that a parameter stands in tells it. -/
def toJson (param : Param) : Json :=
  .object [
    ("name", .string param.name),
    ("display_name", Json.ofOption .string param.displayName),
    ("description", Json.ofOption .string param.description),
    ("type", Json.ofOption .string param.typeName),
    ("enum", Json.ofOption Json.ofStrings param.choices),
    ("pattern", Json.ofOption .string param.pattern),
    ("min_length", Json.ofOption .nat param.minLength),
    ("max_length", Json.ofOption .nat param.maxLength),
    ("minimum", Json.ofOption ofFloat param.minimum),
    ("maximum", Json.ofOption ofFloat param.maximum),
    ("example", Json.ofOption .string param.sample),
    ("repeat", .bool param.repeatable),
    ("required", .bool param.required),
    ("default", Json.ofOption .string param.default)]

def greatestLength : Nat := 18446744073709551615

def ofJson? (carrier : Carrier) (json : Json) : Option Param := do
  let fields ← json.record?
    ["name", "display_name", "description", "type", "enum", "pattern", "min_length", "max_length",
      "minimum", "maximum", "example", "repeat", "required", "default"]
  let name ← fields.required "name" Json.string?
  let displayName ← fields.optional "display_name" Json.string?
  let description ← fields.optional "description" Json.string?
  let typeName ← fields.optional "type" Json.string?
  let choices ← fields.optional "enum" (Json.list? Json.string?)
  let pattern ← fields.optional "pattern" Json.string?
  let minLength ← fields.optional "min_length" (Json.nat? greatestLength)
  let maxLength ← fields.optional "max_length" (Json.nat? greatestLength)
  let minimum ← fields.optional "minimum" Json.float?
  let maximum ← fields.optional "maximum" Json.float?
  let sample ← fields.optional "example" Json.string?
  let repeatable ← fields.withDefault "repeat" false Json.bool?
  let required ← fields.withDefault "required" false Json.bool?
  let default ← fields.optional "default" Json.string?
  return {
    carrier, name, displayName, description, typeName, choices, pattern, minLength, maxLength,
    minimum, maximum, sample, repeatable, required, default }

end Param

end ApiManual
