import DerivedStats.Formula.Fault
import DerivedStats.Text.Blank

/-! A place in a formula's text, with the operators met so far. -/

namespace DerivedStats.Formula

def byteSize : List Char → Nat
  | [] => 0
  | c :: cs => c.utf8Size + byteSize cs

def operatorLimit : Nat := 1024

structure Cursor where
  rest : List Char
  position : Nat
  operators : Nat
deriving DecidableEq, Repr

namespace Cursor

def start (text : List Char) : Cursor := ⟨text, 0, 0⟩

def fail {α : Type} (c : Cursor) (fault : Fault) : Except CompileError α :=
  .error ⟨fault, c.position⟩

def failHere {α : Type} (c : Cursor) : Except CompileError α :=
  match c.rest with
  | [] => c.fail .unexpectedEnd
  | ch :: _ => c.fail (.unexpectedChar ch)

def drop (n : Nat) (c : Cursor) : Cursor :=
  { c with rest := c.rest.drop n, position := c.position + byteSize (c.rest.take n) }

def span (p : Char → Bool) (c : Cursor) : List Char × Cursor :=
  (c.rest.takeWhile p, c.drop (c.rest.takeWhile p).length)

def skipBlanks (c : Cursor) : Cursor := (c.span Text.isBlank).2

def grow (c : Cursor) : Except CompileError Cursor :=
  if operatorLimit < c.operators + 1 then c.fail .tooDeep
  else .ok { c with operators := c.operators + 1 }

def close (c : Cursor) : Except CompileError Cursor :=
  match c.skipBlanks.rest with
  | ')' :: _ => .ok (c.skipBlanks.drop 1)
  | _ => c.skipBlanks.failHere

end Cursor

end DerivedStats.Formula
