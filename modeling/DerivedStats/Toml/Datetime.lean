import DerivedStats.Decimal.Numeral
import DerivedStats.Toml.Text

/-! Dates and times of day, and the one form each is written in. -/

namespace DerivedStats.Toml

open Decimal (isDigit naturalOf)

def part? (n low high : Nat) (cs : Rest) : Option (Nat × Rest) :=
  let ds := cs.take n
  if ds.length = n ∧ ds.all isDigit ∧ low ≤ naturalOf ds ∧ naturalOf ds ≤ high then
    some (naturalOf ds, cs.drop n)
  else none

def skip? (c : Char) : Rest → Option Rest
  | d :: cs => if d = c then some cs else none
  | [] => none

def padded (width n : Nat) : List Char :=
  let ds := Nat.toDigits 10 n
  List.replicate (width - ds.length) '0' ++ ds

namespace Datetime

def isLeapYear (year : Nat) : Bool := year % 4 == 0 && (year % 100 != 0 || year % 400 == 0)

def daysIn (year month : Nat) : Nat :=
  if month = 2 then (if isLeapYear year then 29 else 28)
  else if month = 4 ∨ month = 6 ∨ month = 9 ∨ month = 11 then 30
  else 31

def date? (cs : Rest) : Option (List Char × Rest) := do
  let (year, cs) ← part? 4 0 9999 cs
  let cs ← skip? '-' cs
  let (month, cs) ← part? 2 1 12 cs
  let cs ← skip? '-' cs
  let (day, cs) ← part? 2 1 31 cs
  if daysIn year month < day then none
  else return (padded 4 year ++ '-' :: padded 2 month ++ '-' :: padded 2 day, cs)

def secondFraction? (cs : Rest) : Option (List Char × Rest) :=
  match cs with
  | '.' :: more =>
    let ds := more.takeWhile isDigit
    if ds.isEmpty then none
    else
      let kept := ((ds.take 9).reverse.dropWhile (· == '0')).reverse
      some (if kept.isEmpty then [] else '.' :: kept, more.dropWhile isDigit)
  | _ => some ([], cs)

def time? (cs : Rest) : Option (List Char × Rest) := do
  let (hour, cs) ← part? 2 0 23 cs
  let cs ← skip? ':' cs
  let (minute, cs) ← part? 2 0 59 cs
  let cs ← skip? ':' cs
  let (second, cs) ← part? 2 0 60 cs
  let (fraction, cs) ← secondFraction? cs
  return (padded 2 hour ++ ':' :: padded 2 minute ++ ':' :: padded 2 second ++ fraction, cs)

def offsetText (negative : Bool) (minutes : Nat) : List Char :=
  (if negative && minutes != 0 then '-' else '+') ::
    padded 2 (minutes / 60) ++ ':' :: padded 2 (minutes % 60)

def offset? (cs : Rest) : Option (List Char × Rest) :=
  match cs with
  | [] => some ([], [])
  | c :: more =>
    if c = 'Z' ∨ c = 'z' then some (['Z'], more)
    else if c = '+' ∨ c = '-' then do
      let (hour, more) ← part? 2 0 23 more
      let more ← skip? ':' more
      let (minute, more) ← part? 2 0 59 more
      return (offsetText (c == '-') (60 * hour + minute), more)
    else some ([], cs)

def timeBehind? (cs : Rest) : Option (List Char × Rest) :=
  match cs with
  | c :: more =>
    if (c = 'T' ∨ c = 't' ∨ c = ' ') ∧ (part? 2 0 23 more).isSome then do
      let (time, more) ← time? more
      let (offset, more) ← offset? more
      return ('T' :: time ++ offset, more)
    else some ([], cs)
  | [] => some ([], [])

def looksLikeDate (cs : Rest) : Bool :=
  (cs.take 4).length == 4 && (cs.take 4).all isDigit && (cs.drop 4).head? == some '-'

def looksLikeTime (cs : Rest) : Bool :=
  (part? 2 0 23 cs).isSome && (cs.drop 2).head? == some ':'

def read? (cs : Rest) : Option (List Char × Rest) :=
  if looksLikeDate cs then do
    let (date, cs) ← date? cs
    let (time, cs) ← timeBehind? cs
    return (date ++ time, cs)
  else time? cs

def ofText? (s : String) : Option String :=
  match read? s.toList with
  | some (text, []) => some (String.ofList text)
  | _ => none

end Datetime

end DerivedStats.Toml
