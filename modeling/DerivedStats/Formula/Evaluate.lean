import DerivedStats.Formula.Syntax

/-! The value of a formula.

A scope gives each name a value and each draw a unit sample. Evaluation counts the draws it makes,
so that equal scopes and equal counts give equal values. -/

namespace DerivedStats.Formula

structure Scope where
  value : String → Float
  unit : Nat → Float

structure ArityError where
  function : Builtin
  got : Nat
deriving DecidableEq, Repr

def ArityError.message (e : ArityError) : String :=
  s!"Function {e.function.name} expected {e.function.arity} args, got {e.got}"

abbrev Sampling := ExceptT ArityError (StateM Nat)

def draw (unit : Nat → Float) : Sampling Float := do
  let n ← get
  set (n + 1)
  return unit n

def truth (b : Bool) : Float := if b then 1 else 0

def larger (x y : Float) : Float :=
  if x.isNaN then y else if y.isNaN then x else if x < y then y else x

def smaller (x y : Float) : Float :=
  if x.isNaN then y else if y.isNaN then x else if y < x then y else x

def Operator.apply (op : Operator) (x y : Float) : Float :=
  match op with
  | .add => x + y
  | .sub => x - y
  | .mul => x * y
  | .div => if y == 0 then 0 else x / y
  | .gt => truth (x > y)
  | .lt => truth (x < y)
  | .ge => truth (x ≥ y)
  | .le => truth (x ≤ y)
  | .eq => truth (x == y)
  | .ne => truth (x != y)
  | .or => if x != 0 then x else y

def Operator.combine (op : Operator) (left right : Sampling Float) : Sampling Float := do
  let x ← left
  if op = .or ∧ x != 0 then
    return x
  let y ← right
  return op.apply x y

def Builtin.apply (unit : Nat → Float) : Builtin → List (Sampling Float) → Sampling Float
  | .choose, [condition, yes, no] => do
    let x ← condition
    if x != 0 then yes else no
  | .max, [a, b] => do
    let x ← a
    let y ← b
    return larger x y
  | .min, [a, b] => do
    let x ← a
    let y ← b
    return smaller x y
  | .random, [a, b] => do
    let low ← a
    let high ← b
    let u ← draw unit
    return low + u * (high - low)
  | f, args => throw ⟨f, args.length⟩

mutual

def Expr.sample (s : Scope) : Expr → Sampling Float
  | .number x => return x
  | .var name => return s.value name
  | .binary op left right => op.combine (left.sample s) (right.sample s)
  | .call f args => f.apply s.unit (Expr.samples s args)

def Expr.samples (s : Scope) : List Expr → List (Sampling Float)
  | [] => []
  | e :: es => e.sample s :: Expr.samples s es

end

def Expr.evaluate (s : Scope) (e : Expr) (drawn : Nat) : Except ArityError Float × Nat :=
  (e.sample s).run.run drawn

end DerivedStats.Formula
