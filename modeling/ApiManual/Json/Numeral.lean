import ApiManual.Json.Value

/-!
# Numerals

The number a decimal numeral stands for. A numeral without point and exponent is an integer when it
fits 64 bits. Every other numeral is a significand of 64 bits, as many of its digits as fit, scaled
by a power of ten. Significand, power and product are each rounded once, so a long numeral may come
out a little beside the nearest number.
-/

namespace ApiManual.Json

/-- A numeral as it is written: sign, digits before and after the point, and the exponent with its
sign. -/
structure Numeral where
  negative : Bool
  whole : List Nat
  decimals : Option (List Nat)
  exponent : Option (Bool × List Nat)

def greatestSignificand : Nat := 18446744073709551615

/-- Appends digits to a significand up to the first that does not fit. Gives the digits left over. -/
def absorb (significand : Nat) : List Nat → Nat × List Nat
  | [] => (significand, [])
  | digit :: rest =>
    let extended := significand * 10 + digit
    if extended ≤ greatestSignificand then absorb extended rest else (significand, digit :: rest)

def digitsValue (digits : List Nat) : Nat :=
  digits.foldl (fun value digit => value * 10 + digit) 0

/-- The greatest power of ten that is scaled by in one step. -/
def greatestPower : Nat := 308

def powerOfTen (power : Nat) : Binary64 :=
  (Binary64.ofNat? (Nat.pow 10 power)).getD (Binary64.zero false)

/-- Divides by a power of ten, by at most `10 ^ 308` at a time, until nothing is left of the number. -/
def divideByPower (x : Binary64) (power : Nat) : Option Binary64 :=
  if power ≤ greatestPower then x.div? (powerOfTen power)
  else if x.isZero then some x
  else (x.div? (powerOfTen greatestPower)).bind fun y => divideByPower y (power - greatestPower)
termination_by power
decreasing_by simp [greatestPower] at *; omega

/-- `significand · 10 ^ power`; nothing when it is out of range. -/
def scaled (significand : Nat) (power : Int) : Option Binary64 :=
  let x := Binary64.ofInt significand
  if power < 0 then divideByPower x power.natAbs
  else if power.natAbs ≤ greatestPower then x.mul? (powerOfTen power.natAbs)
  else if x.isZero then some x
  else none

/-- Exponents beyond 31 bits make the number zero or out of range, whatever its significand. -/
def greatestExponent : Nat := 2147483647

/-- The number a numeral stands for; nothing when it is out of range. -/
def Numeral.value? (numeral : Numeral) : Option Number :=
  let signed (x : Binary64) : Number := .float (if numeral.negative then x.neg else x)
  let (significand, surplus) := absorb 0 numeral.whole
  match numeral.decimals, numeral.exponent, surplus with
  | none, none, [] =>
    if !numeral.negative then some (.int significand)
    else if significand = 0 ∨ significand > 9223372036854775808 then some (signed (Binary64.ofInt significand))
    else some (.int (-significand))
  | decimals, exponent, surplus =>
    let decimals := decimals.getD []
    let (significand, unread) := absorb significand decimals
    let power : Int := surplus.length - (decimals.length - unread.length : Nat)
    match exponent with
    | none => (scaled significand power).map signed
    | some (negative, digits) =>
      let shift := digitsValue digits
      if shift > greatestExponent then
        if significand ≠ 0 ∧ !negative then none else some (signed (Binary64.zero false))
      else
        (scaled significand (if negative then power - shift else power + shift)).map signed

end ApiManual.Json
