import ApiManual.Json.Value
import ApiManual.Binary64.Shortest
import ApiManual.Text.Percent

/-!
# Writing JSON

Two forms of text: the compact one without any space, and the indented one with every item and member
on a line of its own, two spaces deeper than its container. Members are written in the order of the
tree.
-/

namespace ApiManual.Json

def Number.text : Number → String
  | .int value => toString value
  | .float value => value.jsonText

def hexPair (code : Nat) : List Char :=
  [Nat.digitChar (code / 16), Nat.digitChar (code % 16)]

def escapedChar (c : Char) : List Char :=
  if c = '"' ∨ c = '\\' then ['\\', c]
  else if c = '\n' then ['\\', 'n']
  else if c = '\r' then ['\\', 'r']
  else if c = '\t' then ['\\', 't']
  else if c = '\x08' then ['\\', 'b']
  else if c = '\x0c' then ['\\', 'f']
  else if c.toNat < 0x20 then ['\\', 'u', '0', '0'] ++ hexPair c.toNat
  else [c]

/-- A string between quotes. Quotes, backslashes and controls are escaped, nothing else. -/
def stringText (text : String) : String :=
  "\"" ++ String.ofList (text.toList.flatMap escapedChar) ++ "\""

mutual

def compact : Json → String
  | .null => "null"
  | .bool value => if value then "true" else "false"
  | .number value => Number.text value
  | .string value => stringText value
  | .array items => "[" ++ String.intercalate "," (compactItems items) ++ "]"
  | .object members => "\x7b" ++ String.intercalate "," (compactMembers members) ++ "\x7d"
  | .unreadable => "null"
termination_by structural json => json

def compactItems : List Json → List String
  | [] => []
  | item :: rest => item.compact :: compactItems rest
termination_by structural items => items

def compactMembers : List (String × Json) → List String
  | [] => []
  | (key, value) :: rest => (stringText key ++ ":" ++ value.compact) :: compactMembers rest
termination_by structural members => members

end

def indentation (level : Nat) : String :=
  "\n" ++ String.ofList (List.replicate (2 * level) ' ')

/-- Brackets around lines at `level + 1`, or the bare brackets when there is none. -/
def bracketed (opening closing : String) (level : Nat) (entries : List String) : String :=
  if entries.isEmpty then opening ++ closing
  else
    opening ++ indentation (level + 1) ++
      String.intercalate ("," ++ indentation (level + 1)) entries ++
      indentation level ++ closing

mutual

/-- The indented text of a tree that stands `level` containers deep. -/
def indentedAt (level : Nat) : Json → String
  | .array items => bracketed "[" "]" level (indentedItems (level + 1) items)
  | .object members => bracketed "\x7b" "\x7d" level (indentedMembers (level + 1) members)
  | .null => "null"
  | .bool value => if value then "true" else "false"
  | .number value => Number.text value
  | .string value => stringText value
  | .unreadable => "null"
termination_by structural json => json

def indentedItems (level : Nat) : List Json → List String
  | [] => []
  | item :: rest => item.indentedAt level :: indentedItems level rest
termination_by structural items => items

def indentedMembers (level : Nat) : List (String × Json) → List String
  | [] => []
  | (key, value) :: rest =>
    (stringText key ++ ": " ++ value.indentedAt level) :: indentedMembers level rest
termination_by structural members => members

end

def indented (json : Json) : String :=
  json.indentedAt 0

end ApiManual.Json
