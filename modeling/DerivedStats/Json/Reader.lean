import DerivedStats.Json.Number

/-! Reading JSON text. Where a character or a text is wanted, an inner `none` stands for half of a
surrogate pair. -/

namespace DerivedStats.Json

def isSpace (c : Char) : Bool := c == ' ' || c == '\n' || c == '\t' || c == '\r'

def skipSpaces (cs : List Char) : List Char := cs.dropWhile isSpace

def hexValue? (c : Char) : Option Nat :=
  if '0' ≤ c ∧ c ≤ '9' then some (c.toNat - '0'.toNat)
  else if 'a' ≤ c ∧ c ≤ 'f' then some (c.toNat - 'a'.toNat + 10)
  else if 'A' ≤ c ∧ c ≤ 'F' then some (c.toNat - 'A'.toNat + 10)
  else none

def readHex : List Char → Option (Nat × List Char)
  | a :: b :: c :: d :: rest => do
    let n := (← hexValue? a) * 4096 + (← hexValue? b) * 256 + (← hexValue? c) * 16 + (← hexValue? d)
    return (n, rest)
  | _ => none

def escape? : Char → Option Char
  | '"' => some '"'
  | '\\' => some '\\'
  | '/' => some '/'
  | 'b' => some '\x08'
  | 'f' => some '\x0c'
  | 'n' => some '\n'
  | 'r' => some '\r'
  | 't' => some '\t'
  | _ => none

def readUnit (cs : List Char) : Option (Option Char × List Char) := do
  let (n, rest) ← readHex cs
  if n < 0xd800 ∨ 0xe000 ≤ n then return (some (Char.ofNat n), rest)
  else if 0xdc00 ≤ n then return (none, rest)
  else
    match rest with
    | '\\' :: 'u' :: more =>
      let (m, after) ← readHex more
      if 0xdc00 ≤ m ∧ m < 0xe000 then
        return (some (Char.ofNat (0x10000 + (n - 0xd800) * 0x400 + (m - 0xdc00))), after)
      else return (none, rest)
    | _ => return (none, rest)

def readChars : Nat → List Char → Option (Option (List Char) × List Char)
  | 0, _ => none
  | _, [] => none
  | fuel + 1, c :: cs =>
    if c = '"' then some (some [], cs)
    else if c = '\\' then
      match cs with
      | 'u' :: cs => do
        let (unit, rest) ← readUnit cs
        let (text, rest) ← readChars fuel rest
        return (do return (← unit) :: (← text), rest)
      | e :: cs => do
        let ch ← escape? e
        let (text, rest) ← readChars fuel cs
        return (text.map (ch :: ·), rest)
      | [] => none
    else if c.toNat < 0x20 then none
    else do
      let (text, rest) ← readChars fuel cs
      return (text.map (c :: ·), rest)

def readText (cs : List Char) : Option (Option String × List Char) :=
  (readChars (cs.length + 1) cs).map fun (text, rest) => (text.map String.ofList, rest)

def readWord (word : String) (value : Value) (cs : List Char) : Option (Value × List Char) :=
  if word.toList.isPrefixOf cs then some (value, cs.drop word.toList.length) else none

mutual

def readValue : Nat → List Char → Option (Value × List Char)
  | 0, _ => none
  | fuel + 1, cs =>
    match skipSpaces cs with
    | [] => none
    | '\x7b' :: cs =>
      match skipSpaces cs with
      | '\x7d' :: rest => some (.object [], rest)
      | cs => do
        let (members, rest) ← readMembers fuel cs
        return (members.elim .unreadable .object, rest)
    | '[' :: cs =>
      match skipSpaces cs with
      | ']' :: rest => some (.array [], rest)
      | cs => (readItems fuel cs).map fun (items, rest) => (.array items, rest)
    | '"' :: cs => (readText cs).map fun (text, rest) => (text.elim .unreadable .string, rest)
    | 't' :: cs => readWord "rue" (.boolean true) cs
    | 'f' :: cs => readWord "alse" (.boolean false) cs
    | 'n' :: cs => readWord "ull" .null cs
    | cs => (readNumeral cs).map fun (n, rest) => (n.value, rest)

def readItems : Nat → List Char → Option (List Value × List Char)
  | 0, _ => none
  | fuel + 1, cs => do
    let (item, rest) ← readValue fuel cs
    match skipSpaces rest with
    | ',' :: rest => do
      let (items, rest) ← readItems fuel rest
      return (item :: items, rest)
    | ']' :: rest => return ([item], rest)
    | _ => none

def readMembers : Nat → List Char → Option (Option (List (String × Value)) × List Char)
  | 0, _ => none
  | fuel + 1, cs =>
    match skipSpaces cs with
    | '"' :: cs => do
      let (name, rest) ← readText cs
      let rest ← match skipSpaces rest with
        | ':' :: rest => some rest
        | _ => none
      let (value, rest) ← readValue fuel rest
      match skipSpaces rest with
      | ',' :: rest => do
        let (members, rest) ← readMembers fuel rest
        return (do return (← name, value) :: (← members), rest)
      | '\x7d' :: rest => return (name.map fun name => [(name, value)], rest)
      | _ => none
    | _ => none

end

def read (text : String) : Option Value := do
  let cs := text.toList
  let (value, rest) ← readValue (2 * cs.length + 2) cs
  if (skipSpaces rest).isEmpty then return value else none

end DerivedStats.Json
