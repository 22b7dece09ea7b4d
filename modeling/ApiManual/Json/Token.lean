import ApiManual.Json.Numeral
import ApiManual.Text.Percent

/-!
# JSON tokens

Text is cut into brackets, commas, colons, words, numerals and strings. A numeral or string that
follows the grammar is a token even when it denotes nothing.
-/

namespace ApiManual.Json

inductive Token where
  | openArray
  | closeArray
  | openObject
  | closeObject
  | comma
  | colon
  | null
  | bool (value : Bool)
  | number (value : Option Number)
  | string (value : Option String)

def isSpace (c : Char) : Bool :=
  c = ' ' || c = '\t' || c = '\n' || c = '\r'

def digit? (c : Char) : Option Nat :=
  if '0' ≤ c ∧ c ≤ '9' then some (c.toNat - 0x30) else none

/-- The digits a text starts with, and the rest of it. -/
def takeDigits : List Char → List Nat × List Char
  | [] => ([], [])
  | c :: rest =>
    match digit? c with
    | some digit =>
      let (digits, after) := takeDigits rest
      (digit :: digits, after)
    | none => ([], c :: rest)

/-- Digits after a point; at least one must follow it. -/
def takeDecimals : List Char → Option (Option (List Nat) × List Char)
  | '.' :: rest =>
    match takeDigits rest with
    | ([], _) => none
    | (digits, after) => some (some digits, after)
  | text => some (none, text)

/-- The sign of an exponent, negative or not. -/
def takeSign : List Char → Bool × List Char
  | '-' :: rest => (true, rest)
  | '+' :: rest => (false, rest)
  | text => (false, text)

def takeExponent : List Char → Option (Option (Bool × List Nat) × List Char)
  | [] => some (none, [])
  | c :: rest =>
    if c = 'e' ∨ c = 'E' then
      let (negative, text) := takeSign rest
      match takeDigits text with
      | ([], _) => none
      | (digits, after) => some (some (negative, digits), after)
    else some (none, c :: rest)

/-- A numeral without its sign. A zero is never followed by another digit. -/
def takeNumeral (negative : Bool) (text : List Char) : Option (Numeral × List Char) := do
  let (whole, rest) := takeDigits text
  match whole with
  | [] => none
  | 0 :: _ :: _ => none
  | whole =>
    let (decimals, rest) ← takeDecimals rest
    let (exponent, rest) ← takeExponent rest
    some (⟨negative, whole, decimals, exponent⟩, rest)

def simpleEscape? : Char → Option Nat
  | '"' => some 0x22
  | '\\' => some 0x5C
  | '/' => some 0x2F
  | 'b' => some 0x08
  | 'f' => some 0x0C
  | 'n' => some 0x0A
  | 'r' => some 0x0D
  | 't' => some 0x09
  | _ => none

/-- Units of a string up to its closing quote, and the text after the quote. A unit is the code of a
character that stands for itself or of an escape. -/
def takeUnits : List Char → Option (List Nat × List Char)
  | [] => none
  | '"' :: rest => some ([], rest)
  | '\\' :: 'u' :: a :: b :: c :: d :: rest => do
    let unit ← [a, b, c, d].foldlM
      (fun value digit => (Text.hexValue? digit.toNat).map (value * 16 + ·)) 0
    let (units, after) ← takeUnits rest
    some (unit :: units, after)
  | '\\' :: c :: rest => do
    let unit ← simpleEscape? c
    let (units, after) ← takeUnits rest
    some (unit :: units, after)
  | c :: rest =>
    if c.toNat < 0x20 then none
    else do
      let (units, after) ← takeUnits rest
      some (c.toNat :: units, after)

def isLeading (unit : Nat) : Bool := 0xD800 ≤ unit && unit ≤ 0xDBFF

def isTrailing (unit : Nat) : Bool := 0xDC00 ≤ unit && unit ≤ 0xDFFF

/-- The characters that units stand for. A leading and a trailing surrogate make one character; either
alone makes the string unreadable. -/
def ofUnits : List Nat → Option (List Char)
  | [] => some []
  | [unit] => if isLeading unit || isTrailing unit then none else some [Char.ofNat unit]
  | first :: second :: rest =>
    if isLeading first then
      if isTrailing second then
        (ofUnits rest).map
          (Char.ofNat (0x10000 + (first - 0xD800) * 0x400 + (second - 0xDC00)) :: ·)
      else none
    else if isTrailing first then none
    else (ofUnits (second :: rest)).map (Char.ofNat first :: ·)

/-- The first token of a text without space before it, and the text after the token. -/
def takeToken : List Char → Option (Token × List Char)
  | '[' :: rest => some (.openArray, rest)
  | ']' :: rest => some (.closeArray, rest)
  | '{' :: rest => some (.openObject, rest)
  | '}' :: rest => some (.closeObject, rest)
  | ',' :: rest => some (.comma, rest)
  | ':' :: rest => some (.colon, rest)
  | 'n' :: 'u' :: 'l' :: 'l' :: rest => some (.null, rest)
  | 't' :: 'r' :: 'u' :: 'e' :: rest => some (.bool true, rest)
  | 'f' :: 'a' :: 'l' :: 's' :: 'e' :: rest => some (.bool false, rest)
  | '"' :: rest => (takeUnits rest).map fun (units, after) =>
      (.string ((ofUnits units).map String.ofList), after)
  | '-' :: rest => (takeNumeral true rest).map fun (numeral, after) =>
      (.number numeral.value?, after)
  | text => (takeNumeral false text).map fun (numeral, after) => (.number numeral.value?, after)

end ApiManual.Json
