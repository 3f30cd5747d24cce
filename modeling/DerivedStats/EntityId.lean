/-! Identifiers of entities: 128 bits, written as 32 hexadecimal digits in five groups. -/

namespace DerivedStats

structure EntityId where
  bits : BitVec 128
deriving DecidableEq, Repr

namespace EntityId

def groups : List Nat := [8, 4, 4, 4, 12]

def digits (id : EntityId) : List Char :=
  let ds := Nat.toDigits 16 id.bits.toNat
  List.replicate (32 - ds.length) '0' ++ ds

def hyphenate : List Nat → List Char → List Char
  | [], ds => ds
  | [_], ds => ds
  | n :: ns, ds => ds.take n ++ '-' :: hyphenate ns (ds.drop n)

def text (id : EntityId) : String := String.ofList (hyphenate groups id.digits)

def digit? (c : Char) : Option Nat :=
  if '0' ≤ c ∧ c ≤ '9' then some (c.toNat - '0'.toNat)
  else if 'a' ≤ c ∧ c ≤ 'f' then some (c.toNat - 'a'.toNat + 10)
  else if 'A' ≤ c ∧ c ≤ 'F' then some (c.toNat - 'A'.toNat + 10)
  else none

def ofDigits? (ds : List Char) : Option EntityId := do
  let values ← ds.mapM digit?
  if ds.length = 32 then
    some ⟨BitVec.ofNat 128 (values.foldl (fun n d => 16 * n + d) 0)⟩
  else none

def unhyphenate : List Nat → List Char → Option (List Char)
  | [], cs => if cs.isEmpty then some [] else none
  | [n], cs => if cs.length = n then some cs else none
  | n :: ns, cs =>
    match cs.drop n with
    | '-' :: rest => (unhyphenate ns rest).map (cs.take n ++ ·)
    | _ => none

def ofHyphenated? (cs : List Char) : Option EntityId := (unhyphenate groups cs).bind ofDigits?

def urnStart : List Char := "urn:uuid:".toList

def ofText? (s : String) : Option EntityId :=
  let cs := s.toList
  if cs.length = 32 then ofDigits? cs
  else if (cs.take urnStart.length).map Char.toLower = urnStart then
    ofHyphenated? (cs.drop urnStart.length)
  else
    match cs with
    | '\x7b' :: rest => if rest.getLast? = some '\x7d' then ofHyphenated? rest.dropLast else none
    | _ => ofHyphenated? cs

end EntityId

end DerivedStats
