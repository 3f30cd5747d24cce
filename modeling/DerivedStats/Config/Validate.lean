import DerivedStats.Config.Decode

/-! What is wrong with a configuration although it can be read. -/

namespace DerivedStats.Config

open Formula (CompileError)

inductive Problem
  | formula (owner label name : String) (error : CompileError)
  | unknownParent (name parent : String)
deriving DecidableEq, Repr

def Problem.message : Problem → String
  | .formula owner label name error => s!"{owner}.{label}.{name}: {error.message}"
  | .unknownParent name parent => s!"classes.{name}: unknown parent '{parent}'"

def lineProblem? (owner : String) (l : Pipeline.Spec.Line) : Option Problem :=
  match Formula.compile l.text with
  | .ok _ => none
  | .error e => some (.formula owner l.label l.name e)

def specProblems (owner : String) (spec : Pipeline.Spec) : List Problem :=
  spec.lines.filterMap (lineProblem? owner)

def classProblem? (classes : Table String ClassConfig) (name : String) (c : ClassConfig) :
    Option Problem :=
  c.parent.bind fun parent =>
    if classes.any fun p => Text.sameLetters p.1 parent then none
    else some (.unknownParent name parent)

def problems (c : Config) : List Problem :=
  c.battle.elim [] (fun b => specProblems "battle" b.spec) ++
    c.systems.flatMap (fun p => specProblems s!"systems.{p.1}" p.2) ++
    c.classes.filterMap fun p => classProblem? c.classes p.1 p.2

end DerivedStats.Config
