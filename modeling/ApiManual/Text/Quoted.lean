import ApiManual.Text.Table.Printable

/-!
# Quoted texts

A text between double quotes in which quotes, backslashes, line breaks and everything that would not
show on paper are written as escapes.
-/

namespace ApiManual.Text

def hexDigits (n : Nat) : List Char :=
  Nat.toDigits 16 n

def quotedChar (c : Char) : List Char :=
  if c = '\x00' then ['\\', '0']
  else if c = '\t' then ['\\', 't']
  else if c = '\r' then ['\\', 'r']
  else if c = '\n' then ['\\', 'n']
  else if c = '"' ∨ c = '\\' then ['\\', c]
  else if extenderRanges.has c || unprintableRanges.has c then
    ['\\', 'u', '{'] ++ hexDigits c.toNat ++ ['}']
  else [c]

def quoted (text : List Char) : List Char :=
  ['"'] ++ text.flatMap quotedChar ++ ['"']

end ApiManual.Text
