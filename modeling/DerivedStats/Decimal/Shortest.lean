import DerivedStats.Decimal.Nearest

/-! The shortest decimal that reads back as a given float.

A finite float is `m * 2 ^ q`, and the reals that round to it form an interval around it whose ends
belong to it exactly when `m` is even. The grids `10 ^ e` are tried from the coarsest on; the first
one with a point in the interval gives the answer, and of two such points the nearer is taken. -/

namespace DerivedStats

/-- The number `coefficient * 10 ^ exponent`. -/
structure Decimal where
  coefficient : Nat
  exponent : Int
deriving DecidableEq, Repr

namespace Decimal

structure Binary where
  significand : Nat
  exponent : Int

def Binary.ofFloat (x : Float) : Binary :=
  let fraction := x.toBits.toNat % leastFull
  match x.toBits.toNat / leastFull % 2048 with
  | 0 => ⟨fraction, -1074⟩
  | 1 => ⟨leastFull + fraction, -1074⟩
  | e => ⟨leastFull + fraction, (e : Int) - 1075⟩

def ratio (a : Nat) (b e : Int) : Nat × Nat :=
  (a <<< b.toNat * Nat.pow 10 (-e).toNat, 1 <<< (-b).toNat * Nat.pow 10 e.toNat)

inductive Tie
  | up
  | even
deriving DecidableEq

/-- Points of one decimal grid around a float, in units of a quarter of its last place. -/
structure Neighbourhood where
  low : Nat
  middle : Nat
  high : Nat
  exponent : Int
  closed : Bool

def Binary.neighbourhood (x : Binary) : Neighbourhood where
  low := if x.significand = leastFull ∧ x.exponent ≠ -1074 then 4 * x.significand - 1
    else 4 * x.significand - 2
  middle := 4 * x.significand
  high := 4 * x.significand + 2
  exponent := x.exponent - 2
  closed := x.significand % 2 == 0

def Neighbourhood.pointOn (n : Neighbourhood) (tie : Tie) (e : Int) : Option Nat :=
  let den := (ratio n.middle n.exponent e).2
  let low := (ratio n.low n.exponent e).1
  let middle := (ratio n.middle n.exponent e).1
  let high := (ratio n.high n.exponent e).1
  let below := middle / den
  let hasBelow := low < below * den || (n.closed && low == below * den)
  let hasAbove := (below + 1) * den < high || (n.closed && (below + 1) * den == high)
  let twice := 2 * (middle - below * den)
  let prefersAbove := den < twice || (den == twice && (tie == .up || below % 2 == 1))
  match hasBelow, hasAbove with
  | false, false => none
  | true, false => some below
  | false, true => some (below + 1)
  | true, true => some (if prefersAbove then below + 1 else below)

def tenfolds (num den : Nat) : Nat → Nat
  | 0 => 0
  | fuel + 1 => if den ≤ num then 0 else tenfolds (10 * num) den fuel + 1

def leadingExponent (num den : Nat) : Int :=
  if den ≤ num then ((Nat.toDigits 10 (num / den)).length : Int) - 1
  else -(tenfolds num den 400 : Int)

def firstPoint (n : Neighbourhood) (tie : Tie) (e : Int) : Nat → Decimal
  | 0 => ⟨(ratio n.middle n.exponent e).1 / (ratio n.middle n.exponent e).2, e⟩
  | more + 1 =>
    match n.pointOn tie e with
    | some c => ⟨c, e⟩
    | none => firstPoint n tie (e - 1) more

def stripZeros (d : Decimal) : Nat → Decimal
  | 0 => d
  | fuel + 1 =>
    if d.coefficient ≠ 0 ∧ d.coefficient % 10 = 0 then
      stripZeros ⟨d.coefficient / 10, d.exponent + 1⟩ fuel
    else d

def shortest (tie : Tie) (x : Float) : Decimal :=
  let b := Binary.ofFloat x
  if b.significand = 0 then ⟨0, 0⟩
  else
    let r := ratio b.significand b.exponent 0
    stripZeros (firstPoint b.neighbourhood tie (leadingExponent r.1 r.2) 17) 17

end Decimal

end DerivedStats
