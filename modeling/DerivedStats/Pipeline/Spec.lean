import DerivedStats.Decimal.Layout
import DerivedStats.Table
import DerivedStats.Text.Case
import DerivedStats.Toml.Decode

/-! The formulas of one subsystem, in three parts. -/

namespace DerivedStats.Pipeline

open Toml (Decoder DecodeError Excess Member)

abbrev Formulas := Table String String

inductive Calculation
  | flat (formulas : Formulas)
  | byMode (modes : Table String Formulas)

namespace Calculation

def findMode? (modes : Table String Formulas) (mode : String) : Option (String × Formulas) :=
  modes.find? fun p => Text.sameLetters p.1 mode

def defaultMode : String := "default"

def select? (c : Calculation) (mode : String) : Option (String × Formulas) :=
  match c with
  | .flat formulas => some ("", formulas)
  | .byMode modes => (findMode? modes mode).or (findMode? modes defaultMode)

def isEmpty : Calculation → Bool
  | .flat formulas => formulas.isEmpty
  | .byMode modes => modes.all fun p => p.2.isEmpty

end Calculation

structure Spec where
  definition : Formulas
  tools : Formulas
  calculate : Calculation

namespace Spec

def empty : Spec := ⟨[], [], .flat []⟩

structure Line where
  label : String
  name : String
  text : String

def linesOf (label : String) (formulas : Formulas) : List Line :=
  formulas.map fun p => ⟨label, p.1, p.2⟩

def lines (s : Spec) : List Line :=
  linesOf "Definition" s.definition ++ linesOf "Tools" s.tools ++
    match s.calculate with
    | .flat formulas => linesOf "Calculate" formulas
    | .byMode modes => modes.flatMap fun p => linesOf s!"Calculate.{p.1}" p.2

def formulaText (name : String) : Decoder String
  | .string s => .ok s
  | .integer n => .ok (toString n)
  | .float x => .ok (Decimal.plainText x)
  | v => .error (.formula name v.kind)

def formulasOf (entries : List (String × Toml.Value)) : Except DecodeError Formulas :=
  entries.mapM fun (name, v) => do return (name, ← formulaText name v)

def formulas (excess : Excess) : Decoder Formulas := fun v => do
  formulasOf (← Toml.settledEntries excess (← Toml.entries v))

def isTable : Toml.Value → Bool
  | .table _ => true
  | _ => false

def calculationOf : Decoder Calculation
  | .table entries =>
    if !entries.isEmpty && entries.all fun p => isTable p.2 then do
      let modes ← entries.mapM fun (mode, v) => do
        return (mode, ← formulasOf (← Toml.entries v))
      return .byMode modes
    else do return .flat (← formulasOf entries)
  | v => .error (.calculation v.kind)

def calculation (excess : Excess) : Decoder Calculation := fun v => do
  calculationOf (← Toml.settled excess v)

def members (excess : Excess) : List (Member Spec) := [
  ⟨["definition", "Definition", "Definitions", "definitions"],
    fun v s => do return { s with definition := ← formulas excess v }⟩,
  ⟨["tools", "Tools"], fun v s => do return { s with tools := ← formulas excess v }⟩,
  ⟨["calculate", "Calculate"], fun v s => do return { s with calculate := ← calculation excess v }⟩]

def decode (excess : Excess) : Decoder Spec := Toml.record excess (members excess) empty

end Spec

end DerivedStats.Pipeline
