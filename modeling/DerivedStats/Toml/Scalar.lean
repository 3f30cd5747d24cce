import DerivedStats.Decimal.Numeral
import DerivedStats.Toml.Datetime
import DerivedStats.Toml.Value

/-! Numbers, truth values and dates of TOML documents. -/

namespace DerivedStats.Toml

open Decimal (isDigit naturalOf)

def moreDigits? (isDigit : Char → Bool) : Rest → Option (List Char × Rest)
  | '_' :: d :: cs =>
    if isDigit d then (moreDigits? isDigit cs).map fun (ds, rest) => (d :: ds, rest) else none
  | ['_'] => none
  | d :: cs =>
    if isDigit d then (moreDigits? isDigit cs).map fun (ds, rest) => (d :: ds, rest)
    else some ([], d :: cs)
  | [] => some ([], [])

def digits? (isDigit : Char → Bool) : Rest → Option (List Char × Rest)
  | [] => none
  | c :: cs =>
    if isDigit c then (moreDigits? isDigit cs).map fun (ds, rest) => (c :: ds, rest) else none

def decimalDigits? : Rest → Option (List Char × Rest)
  | '0' :: cs => some (['0'], cs)
  | cs => digits? isDigit cs

def inRange? (n : Int) : Option Value :=
  if -0x8000000000000000 ≤ n ∧ n ≤ 0x7fffffffffffffff then some (.integer n) else none

def baseValue (base : Nat) (ds : List Char) : Nat :=
  ds.foldl (fun n d => base * n + (hexValue? d).getD 0) 0

def baseInteger? (base : Nat) (cs : Rest) : Option (Value × Rest) := do
  let (ds, rest) ← digits? (fun c => (hexValue? c).any (· < base)) cs
  return (← inRange? (baseValue base ds), rest)

def signOf : Rest → Bool × Rest
  | '-' :: cs => (true, cs)
  | '+' :: cs => (false, cs)
  | cs => (false, cs)

def exponent? (cs : Rest) : Option (Option Int × Rest) :=
  match cs with
  | [] => some (none, [])
  | c :: more =>
    if c = 'e' ∨ c = 'E' then do
      let (negative, more) := signOf more
      let (ds, rest) ← digits? isDigit more
      return (some (if negative then -(naturalOf ds : Int) else naturalOf ds), rest)
    else some (none, cs)

def fraction? : Rest → Option (Option (List Char) × Rest)
  | '.' :: cs => (digits? isDigit cs).map fun (ds, rest) => (some ds, rest)
  | cs => some (none, cs)

def decimal? (cs : Rest) : Option (Value × Rest) := do
  let (negative, cs) := signOf cs
  let (whole, cs) ← decimalDigits? cs
  let (fraction, cs) ← fraction? cs
  let (exponent, cs) ← exponent? cs
  if fraction.isNone && exponent.isNone then
    let n : Int := naturalOf whole
    return (← inRange? (if negative then -n else n), cs)
  else
    let x := Decimal.nearestOf whole (fraction.getD []) (exponent.getD 0)
    if x.isInf && !negative then none
    else return (.float (if negative then -x else x), cs)

def special? (cs : Rest) : Option (Value × Rest) :=
  let (negative, cs) := signOf cs
  match cs with
  | 'i' :: 'n' :: 'f' :: rest =>
    some (.float (if negative then -Decimal.infinity else Decimal.infinity), rest)
  | 'n' :: 'a' :: 'n' :: rest => some (.float Decimal.notANumber, rest)
  | _ => none

def datetime? (cs : Rest) : Option (Value × Rest) :=
  (Datetime.read? cs).map fun (text, rest) => (.datetime (String.ofList text), rest)

def number? (cs : Rest) : Option (Value × Rest) :=
  if Datetime.looksLikeDate cs || Datetime.looksLikeTime cs then datetime? cs
  else
    match cs with
    | '0' :: 'x' :: cs => baseInteger? 16 cs
    | '0' :: 'o' :: cs => baseInteger? 8 cs
    | '0' :: 'b' :: cs => baseInteger? 2 cs
    | cs => (decimal? cs).or (special? cs)

def scalar? (cs : Rest) : Option (Value × Rest) :=
  match cs with
  | 't' :: 'r' :: 'u' :: 'e' :: rest => some (.boolean true, rest)
  | 'f' :: 'a' :: 'l' :: 's' :: 'e' :: rest => some (.boolean false, rest)
  | '"' :: _ | '\'' :: _ => (quotedText? cs).map fun (t, rest) => (.string (String.ofList t), rest)
  | _ => number? cs

end DerivedStats.Toml
