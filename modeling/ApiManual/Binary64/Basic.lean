/-!
# Binary floating point numbers

Finite numbers with 53 significant bits, as exact data: a sign, a mantissa and an exponent of two.
Every operation is the exact rational result rounded once, to the nearest representable number and
to the even mantissa when two are equally near. Nothing here depends on machine arithmetic.
-/

namespace ApiManual

/-- The number `± mantissa · 2 ^ exponent`. Numbers made by `ofRatio` have a mantissa below `2 ^ 53`
and the smallest exponent, not below `-1074`, that allows it. -/
structure Binary64 where
  negative : Bool
  mantissa : Nat
  exponent : Int
deriving DecidableEq, Repr, Inhabited

namespace Binary64

def leastExponent : Int := -1074

def greatestExponent : Int := 971

/-- The least mantissa that has 53 bits, `2 ^ 52`. -/
def leastFullMantissa : Nat := 4503599627370496

def zero (negative : Bool) : Binary64 := ⟨negative, 0, leastExponent⟩

def isZero (x : Binary64) : Bool := x.mantissa == 0

/-- Two zeros are the same number whatever their signs. -/
def same (x y : Binary64) : Bool :=
  x == y || (x.isZero && y.isZero)

/-- `numerator / denominator`, scaled by `2 ^ (-exponent)`, as a fraction of natural numbers. -/
def scaleDown (numerator denominator : Nat) (exponent : Int) : Nat × Nat :=
  if exponent < 0 then (numerator * Nat.pow 2 (-exponent).toNat, denominator)
  else (numerator, denominator * Nat.pow 2 exponent.toNat)

/-- The nearest natural number to a fraction, the even one of two that are equally near. -/
def roundHalfEven (numerator denominator : Nat) : Nat :=
  let quotient := numerator / denominator
  let twice := 2 * (numerator % denominator)
  if twice < denominator then quotient
  else if twice > denominator then quotient + 1
  else quotient + quotient % 2

/-- The number nearest to a fraction; nothing when it is too large to be represented. -/
def ofRatio (negative : Bool) (numerator denominator : Nat) : Option Binary64 :=
  if numerator = 0 ∨ denominator = 0 then some (zero negative)
  else
    let guess := max leastExponent ((numerator.log2 : Int) - denominator.log2 - 53)
    let (n, d) := scaleDown numerator denominator guess
    let exponent := if n / d < 2 * leastFullMantissa then guess else guess + 1
    let (n, d) := scaleDown numerator denominator exponent
    let mantissa := roundHalfEven n d
    let (mantissa, exponent) :=
      if mantissa = 2 * leastFullMantissa then (leastFullMantissa, exponent + 1) else (mantissa, exponent)
    if exponent > greatestExponent then none else some ⟨negative, mantissa, exponent⟩

def ratio (x : Binary64) : Nat × Nat :=
  if x.exponent < 0 then (x.mantissa, Nat.pow 2 (-x.exponent).toNat)
  else (x.mantissa * Nat.pow 2 x.exponent.toNat, 1)

def ofNat? (n : Nat) : Option Binary64 := ofRatio false n 1

def neg (x : Binary64) : Binary64 := { x with negative := !x.negative }

def mul? (x y : Binary64) : Option Binary64 :=
  let (a, b) := x.ratio
  let (c, d) := y.ratio
  ofRatio (x.negative != y.negative) (a * c) (b * d)

def div? (x y : Binary64) : Option Binary64 :=
  let (a, b) := x.ratio
  let (c, d) := y.ratio
  ofRatio (x.negative != y.negative) (a * d) (b * c)

/-- The number nearest to an integer of at most 64 bits. -/
def ofInt (n : Int) : Binary64 :=
  (ofRatio (n < 0) n.natAbs 1).getD (zero false)

end Binary64

end ApiManual
