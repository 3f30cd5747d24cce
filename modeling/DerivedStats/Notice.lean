import DerivedStats.Failure
import DerivedStats.Formula.Cache
import DerivedStats.Formula.Evaluate
import DerivedStats.Text.Quoted

/-! What is worth telling whoever runs the engine. -/

namespace DerivedStats

open Formula (ArityError CompileError Section)

inductive Notice
  | emptySchema
  | duplicateAttribute (key path replaced : String)
  | strandedClass (name : String) (tier : Nat) (parent : Option String)
  | formulaUncompiled (owner : String) (part : Section) (name text : String) (error : CompileError)
  | formulaFailed (owner : String) (part : Section) (name : String) (error : ArityError)
  | noCalculation (owner mode : String)
  | configProblem (text : String)
  | textUncompiled (text : String) (error : CompileError)
  | textFailed (text : String) (error : ArityError)
  | noBattle
  | componentFailed (component phase : String) (failure : Failure)
  | saveFailed (id : EntityId) (failure : Failure)

namespace Notice

def isError : Notice → Bool
  | .componentFailed .. | .saveFailed .. => true
  | _ => false

def optionText : Option String → String
  | none => "None"
  | some s => "Some(" ++ Text.quoted s ++ ")"

def message : Notice → String
  | .emptySchema => "Attribute schema is empty; no attributes registered"
  | .duplicateAttribute key path replaced =>
    s!"Duplicate attribute key '{key}' at {path} replaces {replaced}"
  | .strandedClass name tier parent =>
    s!"Class '{name}' (tier {tier}) has no valid parent {optionText parent}; it is unreachable"
  | .formulaUncompiled owner part name text error =>
    s!"{owner} {part.name} '{name}': {error.message} in \"{text}\""
  | .formulaFailed owner part name error => s!"{owner} {part.name} '{name}': {error.message}"
  | .noCalculation owner mode => s!"{owner}: no Calculate table for mode '{mode}'"
  | .configProblem text => s!"Config problem: {text}"
  | .textUncompiled text error => s!"Failed to compile \"{text}\": {error.message}"
  | .textFailed text error => s!"Failed to evaluate \"{text}\": {error.message}"
  | .noBattle => "compute_damage called without a [battle] configuration"
  | .componentFailed component phase failure =>
    s!"{component} {phase} failed: {failure.message}"
  | .saveFailed id failure => s!"Failed to save profile {id.text}: {failure.message}"

def line (n : Notice) : String := (if n.isError then "ERROR: " else "WARN: ") ++ n.message

end Notice

end DerivedStats
