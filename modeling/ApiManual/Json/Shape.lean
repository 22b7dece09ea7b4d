import ApiManual.Json.Value

/-!
# Reading records out of JSON

Each reader takes a tree and gives a value, or nothing when the tree has another shape. A record is
read from an object by field names, or from an array by their order. A field of a record may be
written once; members that are no field are not looked at.
-/

namespace ApiManual.Json

def string? : Json → Option String
  | .string value => some value
  | _ => none

def bool? : Json → Option Bool
  | .bool value => some value
  | _ => none

/-- A natural number up to `greatest`, written as an integer. -/
def nat? (greatest : Nat) : Json → Option Nat
  | .number (.int value) =>
    if 0 ≤ value ∧ value.toNat ≤ greatest then some value.toNat else none
  | _ => none

/-- Any number, rounded to the floating numbers. -/
def float? : Json → Option Binary64
  | .number (.int value) => some (Binary64.ofInt value)
  | .number (.float value) => some value
  | _ => none

def list? {α : Type} (item : Json → Option α) : Json → Option (List α)
  | .array items => items.mapM item
  | _ => none

/-- Null for nothing, or a value. -/
def nullable? {α : Type} (value : Json → Option α) : Json → Option (Option α)
  | .null => some none
  | json => (value json).map some

/-- One of several words, as a string or as the only key of an object with the value null. -/
def word? : Json → Option String
  | .string word => some word
  | .object [(word, .null)] => some word
  | _ => none

/-- The fields of a record, each written at most once. -/
abbrev Fields := String → Option Json

/-- The fields that an object or array gives to a record. An array gives them by position and may stop
early. -/
def record? (names : List String) : Json → Option Fields
  | .object members =>
    if names.all fun name => (members.filter (·.1 == name)).length ≤ 1 then
      some fun name => members.lookup name
    else none
  | .array items =>
    if items.length ≤ names.length then some fun name => (names.zip items).lookup name
    else none
  | _ => none

namespace Fields

/-- A field that has to be written. -/
def required {α : Type} (fields : Fields) (name : String) (value : Json → Option α) : Option α :=
  (fields name).bind value

/-- A field that may be left out, and then is `default`. -/
def withDefault {α : Type} (fields : Fields) (name : String) (default : α)
    (value : Json → Option α) : Option α :=
  match fields name with
  | none => some default
  | some json => value json

/-- A field that may be left out or null. -/
def optional {α : Type} (fields : Fields) (name : String) (value : Json → Option α) :
    Option (Option α) :=
  fields.withDefault name none (nullable? value)

end Fields

def ofOption {α : Type} (value : α → Json) : Option α → Json
  | none => .null
  | some x => value x

def ofStrings (texts : List String) : Json :=
  .array (texts.map .string)

end ApiManual.Json
