import DerivedStats.Decimal.Layout
import DerivedStats.Json.Value
import DerivedStats.Table

/-! Writing JSON text, on one line or with an indentation of two blanks. -/

namespace DerivedStats.Json

def layout : Decimal.Layout where
  tie := .even
  positionalFrom := some (-5)
  positionalBelow := some 16
  keepsPoint := true

def realText (x : Float) : String :=
  if x.isNaN || x.isInf then "null" else String.ofList (layout.write x)

def hexDigit (n : Nat) : Char := (Nat.digitChar n)

def escape (c : Char) : List Char :=
  if c = '"' then ['\\', '"']
  else if c = '\\' then ['\\', '\\']
  else if c = '\n' then ['\\', 'n']
  else if c = '\r' then ['\\', 'r']
  else if c = '\t' then ['\\', 't']
  else if c = '\x08' then ['\\', 'b']
  else if c = '\x0c' then ['\\', 'f']
  else if c.toNat < 0x20 then
    ['\\', 'u', '0', '0', hexDigit (c.toNat / 16), hexDigit (c.toNat % 16)]
  else [c]

def quote (s : String) : String := String.ofList ('"' :: s.toList.flatMap escape ++ ['"'])

def bracketed (opening closing : String) (parts : List String) : String :=
  opening ++ String.intercalate "," parts ++ closing

mutual

def Value.compact : Value → String
  | .null | .unreadable => "null"
  | .boolean b => if b then "true" else "false"
  | .integer n => toString n
  | .real x => realText x
  | .string s => quote s
  | .array items => bracketed "[" "]" (compactItems items)
  | .object members => bracketed "\x7b" "\x7d" (compactMembers members)

def compactItems : List Value → List String
  | [] => []
  | v :: vs => v.compact :: compactItems vs

def compactMembers : List (String × Value) → List String
  | [] => []
  | (name, v) :: ms => (quote name ++ ":" ++ v.compact) :: compactMembers ms

end

def newLine (depth : Nat) : String := "\n" ++ String.ofList (List.replicate (2 * depth) ' ')

def block (opening closing : String) (depth : Nat) (parts : List String) : String :=
  if parts.isEmpty then opening ++ closing
  else
    let lines := parts.map (newLine (depth + 1) ++ ·)
    opening ++ String.intercalate "," lines ++ newLine depth ++ closing

mutual

def Value.prettyAt : Nat → Value → String
  | depth, .array items => block "[" "]" depth (prettyItems (depth + 1) items)
  | depth, .object members => block "\x7b" "\x7d" depth (prettyMembers (depth + 1) members)
  | _, v => v.compact

def prettyItems : Nat → List Value → List String
  | _, [] => []
  | depth, v :: vs => v.prettyAt depth :: prettyItems depth vs

def prettyMembers : Nat → List (String × Value) → List String
  | _, [] => []
  | depth, (name, v) :: ms => (quote name ++ ": " ++ v.prettyAt depth) :: prettyMembers depth ms

end

def Value.pretty (v : Value) : String := v.prettyAt 0

mutual

def Value.ordered : Value → Value
  | .array items => .array (orderedItems items)
  | .object members => .object (Table.ofPairs (orderedMembers members)).sorted
  | v => v

def orderedItems : List Value → List Value
  | [] => []
  | v :: vs => v.ordered :: orderedItems vs

def orderedMembers : List (String × Value) → List (String × Value)
  | [] => []
  | (name, v) :: ms => (name, v.ordered) :: orderedMembers ms

end

mutual

def Value.readable (depth : Nat) : Value → Bool
  | .unreadable => false
  | .array items => 0 < depth && readableItems (depth - 1) items
  | .object members => 0 < depth && readableMembers (depth - 1) members
  | _ => true

def readableItems (depth : Nat) : List Value → Bool
  | [] => true
  | v :: vs => v.readable depth && readableItems depth vs

def readableMembers (depth : Nat) : List (String × Value) → Bool
  | [] => true
  | (_, v) :: ms => v.readable depth && readableMembers depth ms

end

end DerivedStats.Json
