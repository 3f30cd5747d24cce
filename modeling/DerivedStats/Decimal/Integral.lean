import DerivedStats.Decimal.Shortest

/-! Floats cut down to integers. -/

namespace DerivedStats.Decimal

def Binary.whole (b : Binary) : Nat :=
  b.significand <<< b.exponent.toNat >>> (-b.exponent).toNat

def truncate (x : Float) : Int :=
  let whole := (Binary.ofFloat x).whole
  if x.isNaN then 0
  else if x.toBits >>> 63 == 1 then -(min whole 0x8000000000000000 : Nat)
  else (min whole 0x7fffffffffffffff : Nat)

end DerivedStats.Decimal
