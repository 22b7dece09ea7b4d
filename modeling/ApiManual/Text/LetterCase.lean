import ApiManual.Text.Ranges
import ApiManual.Text.Table.LetterCase

/-!
# Letter case

Capital and small forms of whole texts. Lowering maps each character to its small form, with two
exceptions that the standard lists: the dotted capital I becomes two characters, and a capital sigma
that ends a word takes the final form. Raising maps each character to its capital form, which for a
hundred characters is more than one.
-/

namespace ApiManual.Text

/-- Rows `(first, last, step)` stand for every `step`-th code point from `first` to `last`. -/
def inRows (rows : List (Nat × Nat × Nat)) (code : Nat) : Bool :=
  rows.any fun (first, last, step) =>
    first ≤ code && code ≤ last && (code - first) % step == 0

/-- The image of a code point under rows `(first, last, step, image)`. -/
def imageIn (rows : List (Nat × Nat × Nat × Nat)) (code : Nat) : Option Nat :=
  rows.findSome? fun (first, last, step, image) =>
    if first ≤ code && code ≤ last && (code - first) % step == 0 then
      some (image + (code - first))
    else none

def isCapital (c : Char) : Bool :=
  if c.toNat < 0x80 then c.isUpper else inRows capitalRows c.toNat

def isSmall (c : Char) : Bool :=
  if c.toNat < 0x80 then c.isLower else inRows smallRows c.toNat

/-- The small form of one character, whatever stands around it. -/
def lowerChar (c : Char) : List Char :=
  if c.toNat < 0x80 then [c.toLower]
  else if c = 'İ' then ['i', '\u0307']
  else
    match imageIn loweringRows c.toNat with
    | some code => [Char.ofNat code]
    | none => [c]

def upperChar (c : Char) : List Char :=
  if c.toNat < 0x80 then [c.toUpper]
  else
    match raisingSequences.lookup c.toNat with
    | some codes => codes.map Char.ofNat
    | none =>
      match imageIn raisingRows c.toNat with
      | some code => [Char.ofNat code]
      | none => [c]

/-- The nearest character that case does not ignore has a case. -/
def leadsToCased (text : List Char) : Bool :=
  match text.dropWhile caseIgnorableRanges.has with
  | c :: _ => casedRanges.has c
  | [] => false

/-- Lowers a text that stands after `before`, given in reverse. A sigma is final when a cased letter
stands before it and none after it. -/
def lowerAfter : List Char → List Char → List Char
  | _, [] => []
  | before, c :: rest =>
    let small :=
      if c = 'Σ' then
        [if leadsToCased before && !leadsToCased rest then 'ς' else 'σ']
      else lowerChar c
    small ++ lowerAfter (c :: before) rest

def lower (text : List Char) : List Char :=
  lowerAfter [] text

def upper (text : List Char) : List Char :=
  text.flatMap upperChar

end ApiManual.Text

namespace ApiManual

def lowercase (text : String) : String :=
  String.ofList (Text.lower text.toList)

def uppercase (text : String) : String :=
  String.ofList (Text.upper text.toList)

end ApiManual
