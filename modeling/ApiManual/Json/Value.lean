import ApiManual.Binary64.Basic

/-!
# JSON values

A JSON text denotes a tree. Objects keep their members as they are written, repetitions included,
because whoever reads a record has to see a repeated field. Where only the value counts, `sorted`
gives the canonical tree: members in ascending order of their keys, the last of equal keys.

Some texts follow the grammar and denote nothing: a number too large for any number type, a half of a
surrogate pair, more levels than are read. They stand in the tree as `unreadable`, so a field that
nobody reads does no harm.
-/

namespace ApiManual

/-- Integers of 64 bits, signed or unsigned, are kept exactly. All other numbers are floating. -/
inductive Number where
  | int (value : Int)
  | float (value : Binary64)
deriving DecidableEq, Repr

inductive Json where
  | null
  | bool (value : Bool)
  | number (value : Number)
  | string (value : String)
  | array (items : List Json)
  | object (members : List (String × Json))
  | unreadable
deriving Repr

instance : Inhabited Json := ⟨.null⟩

/-- An integer differs from every floating number; the two zeros are the same. -/
def Number.same : Number → Number → Bool
  | .int a, .int b => a == b
  | .float a, .float b => a.same b
  | _, _ => false

namespace Json

def nat (n : Nat) : Json := .number (.int n)

def kind : Json → String
  | .null => "null"
  | .bool _ => "boolean"
  | .number _ => "number"
  | .string _ => "string"
  | .array _ => "array"
  | .object _ => "object"
  | .unreadable => "unreadable"

def members? : Json → Option (List (String × Json))
  | .object members => some members
  | _ => none

/-- Puts a member into members in ascending order of keys. An equal key loses its value. -/
def putSorted (key : String) (value : Json) : List (String × Json) → List (String × Json)
  | [] => [(key, value)]
  | (k, v) :: rest =>
    if key < k then (key, value) :: (k, v) :: rest
    else if key = k then (key, value) :: rest
    else (k, v) :: putSorted key value rest

mutual

/-- Every part of the tree denotes a value. -/
def readable : Json → Bool
  | .array items => readableItems items
  | .object members => readableMembers members
  | .unreadable => false
  | _ => true
termination_by structural json => json

def readableItems : List Json → Bool
  | [] => true
  | item :: rest => item.readable && readableItems rest
termination_by structural items => items

def readableMembers : List (String × Json) → Bool
  | [] => true
  | (_, value) :: rest => value.readable && readableMembers rest
termination_by structural members => members

end

mutual

/-- The canonical tree: the members of every object by ascending keys, the last of equal keys. -/
def sorted : Json → Json
  | .array items => .array (sortedItems items)
  | .object members => .object (sortedMembers [] members)
  | json => json
termination_by structural json => json

def sortedItems : List Json → List Json
  | [] => []
  | item :: rest => item.sorted :: sortedItems rest
termination_by structural items => items

/-- Puts the members, in canonical form, one after the other into `done`. -/
def sortedMembers (done : List (String × Json)) : List (String × Json) → List (String × Json)
  | [] => done
  | (key, value) :: rest => sortedMembers (putSorted key value.sorted done) rest
termination_by structural members => members

end

/-- The canonical tree of a text that denotes a value throughout. -/
def canonical? (json : Json) : Option Json :=
  if json.readable then some json.sorted else none

mutual

/-- Equality of canonical trees, where numbers are compared by `Number.same`. -/
def same : Json → Json → Bool
  | .null, .null => true
  | .bool a, .bool b => a == b
  | .number a, .number b => a.same b
  | .string a, .string b => a == b
  | .array a, .array b => sameItems a b
  | .object a, .object b => sameMembers a b
  | _, _ => false
termination_by structural json => json

def sameItems : List Json → List Json → Bool
  | [], [] => true
  | a :: as, b :: bs => a.same b && sameItems as bs
  | _, _ => false
termination_by structural items => items

def sameMembers : List (String × Json) → List (String × Json) → Bool
  | [], [] => true
  | (k, a) :: as, (l, b) :: bs => k == l && a.same b && sameMembers as bs
  | _, _ => false
termination_by structural members => members

end

end Json

end ApiManual
