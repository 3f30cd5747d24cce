import DerivedStats.Formula.Compile
import DerivedStats.Table

/-! Compiled formulas, kept under the place they come from. The place alone identifies a formula:
another text under the same place is not looked at. -/

namespace DerivedStats.Formula

inductive Section
  | definition | tools | calculate
  | adhoc
deriving DecidableEq, Repr

def Section.name : Section → String
  | .definition => "Definition"
  | .tools => "Tools"
  | .calculate => "Calculate"
  | .adhoc => "Adhoc"

structure Place where
  owner : String
  part : Section
  key : String
deriving DecidableEq, Repr

structure Cache where
  entries : Table Place Expr
  compilations : Nat

namespace Cache

def empty : Cache := ⟨[], 0⟩

def get? (c : Cache) (p : Place) : Option Expr := c.entries.get? p

theorem get?_of_empty {c : Cache} (h : c.entries = []) (p : Place) : c.get? p = none := by
  rw [get?, h]
  rfl

def clear (c : Cache) : Cache := { c with entries := [] }

def size (c : Cache) : Nat := c.entries.length

def fetch (c : Cache) (p : Place) (text : String) : Except CompileError Expr × Cache :=
  match c.get? p with
  | some e => (.ok e, c)
  | none =>
    match compile text with
    | .error err => (.error err, c)
    | .ok e => (.ok e, ⟨c.entries.put p e, c.compilations + 1⟩)

end Cache

end DerivedStats.Formula
