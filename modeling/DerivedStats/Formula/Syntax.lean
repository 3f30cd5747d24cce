import DerivedStats.Text.Case

/-! Formulas as trees. -/

namespace DerivedStats.Formula

inductive Operator
  | add | sub | mul | div
  | gt | lt | ge | le | eq | ne
  | or
deriving DecidableEq, Repr

def Operator.symbol : Operator → String
  | .add => "+"
  | .sub => "-"
  | .mul => "*"
  | .div => "/"
  | .gt => ">"
  | .lt => "<"
  | .ge => ">="
  | .le => "<="
  | .eq => "=="
  | .ne => "!="
  | .or => "OR"

inductive Builtin
  | choose | max | min | random
deriving DecidableEq, Repr

def Builtin.name : Builtin → String
  | .choose => "if"
  | .max => "max"
  | .min => "min"
  | .random => "random"

def Builtin.arity : Builtin → Nat
  | .choose => 3
  | .max | .min | .random => 2

def Builtin.all : List Builtin := [.choose, .max, .min, .random]

def Builtin.ofName? (name : String) : Option Builtin :=
  Builtin.all.find? fun f => f.name == Text.lower name

inductive Expr
  | number (value : Float)
  | var (name : String)
  | binary (op : Operator) (left right : Expr)
  | call (function : Builtin) (args : List Expr)
deriving Inhabited

mutual

def Expr.variables : Expr → List String
  | .number _ => []
  | .var name => [name]
  | .binary _ left right => left.variables ++ right.variables
  | .call _ args => Expr.variablesOf args

def Expr.variablesOf : List Expr → List String
  | [] => []
  | e :: es => e.variables ++ Expr.variablesOf es

end

end DerivedStats.Formula
