/-! The float nearest to a decimal number, computed exactly.

Around a positive number the floats are the multiples of one power of two, the place of their last
digit. The quotient by it is rounded to the nearest integer, a tie to the even one, and place and
integer together are the bits of the float. -/

namespace DerivedStats.Decimal

def notANumber : Float := 0 / 0

def infinity : Float := 1 / 0

def leastFull : Nat := 0x10000000000000

def roundDiv (num den : Nat) : Nat :=
  let q := num / den
  let twice := 2 * (num % den)
  if den < twice ∨ den = twice ∧ q % 2 = 1 then q + 1 else q

def shifted (num den : Nat) (e : Int) : Nat × Nat := (num <<< (-e).toNat, den <<< e.toNat)

def placeOf (num den : Nat) : Int :=
  let e := (num.log2 : Int) - den.log2 - 53
  let (n, d) := shifted num den e
  max (-1074) (if n / d < 2 * leastFull then e else e + 1)

/-- The bits of the float nearest to `num / den`; a number that rounds past the largest float gives
the bits of infinity or more. -/
def ratioBits (num den : Nat) : Nat :=
  let e := placeOf num den
  let (n, d) := shifted num den e
  (e + 1074).toNat * leastFull + roundDiv n d

def nearestRatio (num den : Nat) : Float :=
  if ratioBits num den < 0x7ff0000000000000 then Float.ofBits (UInt64.ofNat (ratioBits num den))
  else infinity

def nearest (coefficient : Nat) (exponent : Int) : Float :=
  -- far above the largest float and far below the least one no power of ten is needed to tell
  if coefficient = 0 then 0
  else if 400 < exponent then infinity
  else if 3 * exponent + coefficient.log2 < -1200 then 0
  else nearestRatio (coefficient * Nat.pow 10 exponent.toNat) (Nat.pow 10 (-exponent).toNat)

end DerivedStats.Decimal
