import ApiManual.Text.Utf8

/-!
# Percent escapes

A percent sign followed by two hexadecimal digits stands for a byte. Anything else, a lone percent
sign included, stands for itself.
-/

namespace ApiManual.Text

def hexValue? (code : Nat) : Option Nat :=
  if 0x30 ≤ code ∧ code ≤ 0x39 then some (code - 0x30)
  else if 0x41 ≤ code ∧ code ≤ 0x46 then some (code - 0x41 + 10)
  else if 0x61 ≤ code ∧ code ≤ 0x66 then some (code - 0x61 + 10)
  else none

def percentDecode : List UInt8 → List UInt8
  | [] => []
  | [byte] => [byte]
  | [byte, next] => [byte, next]
  | byte :: first :: second :: rest =>
    match byte == 0x25, hexValue? first.toNat, hexValue? second.toNat with
    | true, some high, some low => UInt8.ofNat (high * 16 + low) :: percentDecode rest
    | _, _, _ => byte :: percentDecode (first :: second :: rest)

def hexDigitUpper (n : Nat) : Char :=
  if n < 10 then Char.ofNat (0x30 + n) else Char.ofNat (0x41 + (n - 10))

def percentEscape (byte : UInt8) : List Char :=
  ['%', hexDigitUpper (byte.toNat / 16), hexDigitUpper (byte.toNat % 16)]

/-- Escapes the characters that `reserved` names and all that are not ASCII. -/
def percentEncode (reserved : Char → Bool) (text : List Char) : List Char :=
  text.flatMap fun c =>
    if c.toNat ≥ 0x80 || reserved c then (String.utf8EncodeChar c).flatMap percentEscape else [c]

end ApiManual.Text
