import DerivedStats.Decimal.Nearest
import DerivedStats.Text.Case

/-! Reading decimal numerals as the nearest float. -/

namespace DerivedStats.Decimal

def isDigit (c : Char) : Bool := '0' ≤ c && c ≤ '9'

def digitValue (c : Char) : Nat := c.toNat - '0'.toNat

def naturalOf (ds : List Char) : Nat := ds.foldl (fun n c => 10 * n + digitValue c) 0

def nearestOf (whole fraction : List Char) (exponent : Int) : Float :=
  nearest (naturalOf (whole ++ fraction)) (exponent - fraction.length)

def splitSign : List Char → Bool × List Char
  | '-' :: cs => (true, cs)
  | '+' :: cs => (false, cs)
  | cs => (false, cs)

def readInteger (cs : List Char) : Option Int :=
  let (negative, ds) := splitSign cs
  if ds.isEmpty || !ds.all isDigit then none
  else some (if negative then -(naturalOf ds : Int) else naturalOf ds)

def splitFraction : List Char → List Char × List Char
  | '.' :: cs => cs.span isDigit
  | cs => ([], cs)

def readUnsigned (cs : List Char) : Option Float :=
  let (whole, rest) := cs.span isDigit
  let (fraction, rest) := splitFraction rest
  if whole.isEmpty && fraction.isEmpty then none
  else match rest with
    | [] => some (nearestOf whole fraction 0)
    | c :: rest =>
      if c = 'e' ∨ c = 'E' then (readInteger rest).map (nearestOf whole fraction) else none

def read (s : String) : Option Float :=
  let (negative, cs) := splitSign s.toList
  let word := Text.lower (String.ofList cs)
  let magnitude :=
    if word == "inf" || word == "infinity" then some infinity
    else if word == "nan" then some notANumber
    else readUnsigned cs
  magnitude.map fun x => if negative then -x else x

end DerivedStats.Decimal
