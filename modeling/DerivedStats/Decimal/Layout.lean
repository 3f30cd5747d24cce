import DerivedStats.Decimal.Shortest

/-! How the digits of a float are laid out in text. -/

namespace DerivedStats.Decimal

def digits (n : Nat) : List Char := Nat.toDigits 10 n

structure Layout where
  tie : Tie
  positionalFrom : Option Int
  positionalBelow : Option Int
  keepsPoint : Bool

def Layout.isPositional (l : Layout) (leading : Int) : Bool :=
  l.positionalFrom.all (· ≤ leading) && l.positionalBelow.all (leading < ·)

def positional (keepsPoint : Bool) (d : Decimal) : List Char :=
  let ds := digits d.coefficient
  if 0 ≤ d.exponent then
    ds ++ List.replicate (if d.coefficient = 0 then 0 else d.exponent.toNat) '0' ++
      (if keepsPoint then ['.', '0'] else [])
  else
    let places := (-d.exponent).toNat
    let padded := List.replicate (places + 1 - ds.length) '0' ++ ds
    let whole := padded.length - places
    padded.take whole ++ '.' :: padded.drop whole

def scientific (d : Decimal) : List Char :=
  let ds := digits d.coefficient
  let e := d.exponent + (ds.length - 1 : Nat)
  let fraction := if ds.length ≤ 1 then [] else '.' :: ds.drop 1
  ds.take 1 ++ fraction ++ 'e' :: (if e < 0 then '-' else '+') :: digits e.natAbs

def isNegative (x : Float) : Bool := x.toBits >>> 63 == 1

def Layout.write (l : Layout) (x : Float) : List Char :=
  let d := shortest l.tie x
  let leading := d.exponent + ((digits d.coefficient).length - 1 : Nat)
  (if isNegative x then ['-'] else []) ++
    if d.coefficient = 0 ∨ l.isPositional leading then positional l.keepsPoint d else scientific d

def plain : Layout where
  tie := .up
  positionalFrom := none
  positionalBelow := none
  keepsPoint := false

def plainText (x : Float) : String :=
  if x.isNaN then "NaN"
  else if x.isInf then (if isNegative x then "-inf" else "inf")
  else String.ofList (plain.write x)

end DerivedStats.Decimal
