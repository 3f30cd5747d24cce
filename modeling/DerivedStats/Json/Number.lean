import DerivedStats.Decimal.Numeral
import DerivedStats.Json.Value

/-! Numbers in JSON text.

A number without point and exponent that fits 64 bits is an integer. Any other is computed from
as many of its digits as fit 64 bits unsigned, scaled by one power of ten in float arithmetic; so
it can differ from the nearest float in its last place. -/

namespace DerivedStats.Json

def absorb : Nat → List Char → Nat × Nat
  | n, [] => (n, 0)
  | n, d :: ds =>
    let next := 10 * n + Decimal.digitValue d
    if next < UInt64.size then
      let (m, taken) := absorb next ds
      (m, taken + 1)
    else (n, 0)

def scaleDown (x : Float) (n : Nat) : Nat → Float
  | 0 => 0
  | steps + 1 =>
    if n ≤ 308 then x / Decimal.nearest 1 n
    else if x == 0 then x
    else scaleDown (x / Decimal.nearest 1 308) (n - 308) steps

def scale (significand : Nat) (exponent : Int) : Option Float :=
  let x := Decimal.nearest significand 0
  if exponent < 0 then some (scaleDown x exponent.natAbs 4)
  else if 308 < exponent then (if x == 0 then some 0 else none)
  else
    let y := x * Decimal.nearest 1 exponent
    if y.isInf then none else some y

structure Numeral where
  negative : Bool
  whole : List Char
  fraction : Option (List Char)
  exponent : Option Int

def Numeral.real? (n : Numeral) : Option Float :=
  let (start, taken) := absorb 0 n.whole
  let dropped := n.whole.length - taken
  let (significand, places) := absorb start (n.fraction.getD [])
  let exponent := (dropped : Int) - places + n.exponent.getD 0
  (scale significand exponent).map fun x => if n.negative then -x else x

def Numeral.value (n : Numeral) : Value :=
  let m := Decimal.naturalOf n.whole
  let isWhole := n.fraction.isNone && n.exponent.isNone
  if isWhole && !n.negative && m < UInt64.size then .integer m
  else if isWhole && n.negative && 0 < m && m ≤ 0x8000000000000000 then .integer (-m)
  else
    match n.real? with
    | some x => .real x
    | none => .unreadable

def readWhole (cs : List Char) : Option (List Char × List Char) :=
  match cs.span Decimal.isDigit with
  | ([], _) => none
  | ('0' :: _ :: _, _) => none
  | r => some r

def readDigits (cs : List Char) : Option (List Char × List Char) :=
  match cs.span Decimal.isDigit with
  | ([], _) => none
  | r => some r

def readFraction : List Char → Option (Option (List Char) × List Char)
  | '.' :: cs => (readDigits cs).map fun (ds, rest) => (some ds, rest)
  | cs => some (none, cs)

def readExponent (cs : List Char) : Option (Option Int × List Char) :=
  match cs with
  | [] => some (none, [])
  | c :: rest =>
    if c = 'e' ∨ c = 'E' then
      let (negative, rest) := Decimal.splitSign rest
      (readDigits rest).map fun (ds, rest) =>
        (some (if negative then -(Decimal.naturalOf ds : Int) else Decimal.naturalOf ds), rest)
    else some (none, cs)

def readNumeral (cs : List Char) : Option (Numeral × List Char) := do
  let (negative, cs) := match cs with
    | '-' :: cs => (true, cs)
    | _ => (false, cs)
  let (whole, cs) ← readWhole cs
  let (fraction, cs) ← readFraction cs
  let (exponent, cs) ← readExponent cs
  return (⟨negative, whole, fraction, exponent⟩, cs)

end DerivedStats.Json
