import ApiManual.Binary64.Basic

/-!
# Shortest decimal digits

The digits a number is written with: the fewest that no other number is nearer to, and of those the
nearest to the number itself. The numbers that read back as `x` fill an interval around it, which
contains its ends when the mantissa is even. If a decimal grid has a point in the interval, one of
the two neighbours of `x` on the grid is such a point, so only these are tried.
-/

namespace ApiManual.Binary64

/-- The interval of a positive number in quarters of its last bit: lower end, value, upper end. Below
a power of two the numbers lie twice as close. -/
def quarters (x : Binary64) : Nat × Nat × Nat :=
  let value := 4 * x.mantissa
  let lower :=
    if x.mantissa = leastFullMantissa ∧ x.exponent > leastExponent then value - 1 else value - 2
  (lower, value, value + 2)

/-- `digits · 10 ^ power` compared with `quarter · 2 ^ (exponent - 2)`, both as natural numbers over
a common denominator. -/
def crossed (digits : Nat) (power : Int) (quarter : Nat) (exponent : Int) : Nat × Nat :=
  let left := if power < 0 then digits else digits * Nat.pow 10 power.toNat
  let right := if power < 0 then quarter * Nat.pow 10 (-power).toNat else quarter
  let shift := exponent - 2
  if shift < 0 then (left * Nat.pow 2 (-shift).toNat, right) else (left, right * Nat.pow 2 shift.toNat)

/-- The decimal `digits · 10 ^ power` reads back as `x`. -/
def readsBack (x : Binary64) (digits : Nat) (power : Int) : Bool :=
  let (lower, _, upper) := x.quarters
  let (a, b) := crossed digits power lower x.exponent
  let (c, d) := crossed digits power upper x.exponent
  if x.mantissa % 2 = 0 then b ≤ a && c ≤ d else b < a && c < d

/-- The place of the leading digit of a positive fraction, or one place below it: `0` for the units,
`-1` for the tenths. -/
def decimalExponent (numerator denominator : Nat) : Int :=
  let digits := (Nat.toDigits 10 (numerator / denominator)).length
  if numerator ≥ denominator then (digits : Int) - 1
  else -((Nat.toDigits 10 (denominator / numerator)).length : Int)

/-- The better of the two neighbours of `x` on the grid of multiples of `10 ^ power`. -/
def nearestOnGrid (x : Binary64) (power : Int) : Option Nat :=
  let (_, value, _) := x.quarters
  let (unit, scaled) := crossed 1 power value x.exponent
  let below := scaled / unit
  let twice := 2 * (scaled % unit)
  let lowFits := readsBack x below power
  let highFits := readsBack x (below + 1) power
  let preferLow := twice < unit || (twice == unit && below % 2 == 0)
  if lowFits && (preferLow || !highFits) then some below
  else if highFits then some (below + 1)
  else none

/-- Divides the zeros at the end of a decimal away, `fuel` of them at most. -/
def dropZeros : Nat → Nat → Int → Nat × Int
  | 0, digits, power => (digits, power)
  | fuel + 1, digits, power =>
    if digits ≠ 0 ∧ digits % 10 = 0 then dropZeros fuel (digits / 10) (power + 1)
    else (digits, power)

/-- The shortest decimal `(digits, power)` that stands for the absolute value of a number. Seventeen
digits always suffice. -/
def shortest (x : Binary64) : Nat × Int :=
  let (n, d) := x.ratio
  let top := decimalExponent n d
  -- The estimate of the leading digit's place may be one too low, so one grid more is tried.
  let grids := (List.range 19).map fun (count : Nat) => top + 1 - (count : Int)
  match grids.findSome? fun power => (x.nearestOnGrid power).filter (· ≠ 0) |>.map (·, power) with
  | some (digits, power) => dropZeros 20 digits power
  | none => (0, 0)

/-- The digits with a point after the first `whole` of them, padded with zeros on either side. -/
def placePoint (digits : List Char) (whole : Int) : List Char × List Char :=
  if whole ≤ 0 then (['0'], List.replicate (-whole).toNat '0' ++ digits)
  else
    let whole := whole.toNat
    let padded := digits ++ List.replicate (whole - digits.length) '0'
    (padded.take whole, padded.drop whole)

/-- Which decimals are written with a point in place and how the others and the integers are. -/
structure Manner where
  /-- Least and greatest place of the leading digit that is written positionally. -/
  positional : Option (Int × Int)
  /-- Written after a positional number without decimals. -/
  wholeEnd : String

/-- The number as text in the given manner of writing. -/
def write (manner : Manner) (x : Binary64) : String :=
  let sign := if x.negative then "-" else ""
  if x.isZero then sign ++ "0" ++ manner.wholeEnd
  else
    let (number, power) := x.shortest
    let digits := Nat.toDigits 10 number
    let place : Int := power + digits.length - 1
    let inPlace := match manner.positional with
      | none => true
      | some (least, greatest) => least ≤ place && place ≤ greatest
    if inPlace then
      let (whole, decimals) := placePoint digits (place + 1)
      let tail := if decimals.isEmpty then manner.wholeEnd else "." ++ String.ofList decimals
      sign ++ String.ofList whole ++ tail
    else
      let decimals := if digits.length ≤ 1 then "" else "." ++ String.ofList digits.tail
      let exponent := if place < 0 then "-" ++ toString place.natAbs else "+" ++ toString place
      sign ++ String.ofList (digits.take 1) ++ decimals ++ "e" ++ exponent

/-- Numbers in JSON text keep a decimal, and from `10 ^ 16` on and below `10 ^ (-5)` an exponent. -/
def jsonText : Binary64 → String := write ⟨some (-5, 15), ".0"⟩

/-- Numbers on a page are written in full, integers without a point. -/
def plainText : Binary64 → String := write ⟨none, ""⟩

end ApiManual.Binary64
