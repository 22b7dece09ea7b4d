import ApiManual.Text.Split

/-!
# Decimal numbers

Natural numbers as texts of digits.
-/

namespace ApiManual.Text

def isDecimal (c : Char) : Bool := '0' ≤ c && c ≤ '9'

def decimalValue (digits : List Char) : Nat :=
  digits.foldl (fun value digit => value * 10 + (digit.toNat - 0x30)) 0

/-- The number up to `greatest` that digits stand for, after a plus sign or without. -/
def decimal? (greatest : Nat) (text : List Char) : Option Nat :=
  let digits := (stripStart? ['+'] text).getD text
  if digits.isEmpty || !digits.all isDecimal || decimalValue digits > greatest then none
  else some (decimalValue digits)

end ApiManual.Text
