import DerivedStats.Formula.Context
import DerivedStats.Notice
import DerivedStats.Pipeline.Spec
import DerivedStats.Pipeline.WriteBack

/-! One run of a subsystem's formulas.

Definitions and tools are evaluated and bound in order, then the formulas of the selected
calculation. A formula that fails leaves a notice: as a definition or tool it counts as zero, in the
calculation it is skipped. A result whose definition reads an attribute of the primary entity is
written back to that attribute. -/

namespace DerivedStats.Pipeline

open Formula (Cache Context Entities Place Section)

abbrev Profiles := Table EntityId Profile

structure Setting where
  registry : Attribute.Registry
  unit : Nat → Float

structure Session where
  cache : Cache
  drawn : Nat
  profiles : Profiles
  notices : List Notice

structure Invocation where
  primary : EntityId
  secondary : Option EntityId
  mode : Option String
  bindings : List (String × Float)

namespace Invocation

def solo (primary : EntityId) : Invocation := ⟨primary, none, none, []⟩

def resolvedMode (i : Invocation) : String :=
  i.mode.getD (if i.secondary.isSome then "adversarial" else "solo")

def entities (i : Invocation) (profiles : Profiles) : Entities :=
  ⟨profiles.get? i.primary, i.secondary.bind profiles.get?⟩

end Invocation

structure Write where
  attributeName : String
  value : Float
  applied : Bool
deriving DecidableEq

structure Outcome where
  mode : String
  outputs : Table String Float
  writes : List Write
  final : Float

namespace Outcome

def empty : Outcome := ⟨"", [], [], 0⟩

def finalName : String := "final"

def finalOf (outputs : Table String Float) : Float :=
  ((outputs.get? finalName).or (outputs.getLast?.map Prod.snd)).getD 0

def appliedWrites (o : Outcome) : Nat := o.writes.countP Write.applied

end Outcome

abbrev Run := StateM Session

def note (n : Notice) : Run Unit := modify fun s => { s with notices := s.notices ++ [n] }

structure Source where
  place : Place
  name : String
  text : String

def fetch (source : Source) : Run (Option Formula.Expr) := do
  let s ← get
  let (result, cache) := s.cache.fetch source.place source.text
  set { s with cache }
  match result with
  | .ok e => return some e
  | .error err => do
    note (.formulaUncompiled source.place.owner source.place.part source.name source.text err)
    return none

def sample (setting : Setting) (i : Invocation) (bindings : Table String Float) (source : Source)
    (e : Formula.Expr) : Run (Option Float) := do
  let s ← get
  let context : Context := ⟨setting.registry, i.entities s.profiles, bindings⟩
  let (result, drawn) := e.evaluate (context.scope setting.unit) s.drawn
  set { s with drawn }
  match result with
  | .ok x => return some x
  | .error err => do
    note (.formulaFailed source.place.owner source.place.part source.name err)
    return none

def evaluate (setting : Setting) (i : Invocation) (bindings : Table String Float)
    (source : Source) : Run (Option Float) := do
  match ← fetch source with
  | none => return none
  | some e => sample setting i bindings source e

def bindAll (setting : Setting) (i : Invocation) (owner : String) (part : Section) :
    Formulas → Table String Float → Run (Table String Float)
  | [], bindings => return bindings
  | (name, text) :: rest, bindings => do
    let x ← evaluate setting i bindings ⟨⟨owner, part, name⟩, name, text⟩
    bindAll setting i owner part rest (bindings.put name (x.getD 0))

def store (setting : Setting) (id : EntityId) (key : String) (value : Float) : Run Bool := do
  let s ← get
  match (s.profiles.get? id).bind fun p => p.setStat? setting.registry key value with
  | none => return false
  | some p => do
    set { s with profiles := s.profiles.put id p }
    return true

structure Progress where
  bindings : Table String Float
  outputs : Table String Float
  writes : List Write

def writeBack (setting : Setting) (i : Invocation) (definition : Formulas) (name : String)
    (value : Float) : Run (List Write) := do
  match (definition.get? name).bind writeBackTarget? with
  | none => return []
  | some key => do
    let applied ← store setting i.primary key value
    return [⟨key, value, applied⟩]

def calculationKey (mode name : String) : String :=
  if mode.isEmpty then name else mode ++ "." ++ name

def calculateAll (setting : Setting) (i : Invocation) (owner mode : String)
    (definition : Formulas) : Formulas → Progress → Run Progress
  | [], p => return p
  | (name, text) :: rest, p => do
    let source : Source := ⟨⟨owner, .calculate, calculationKey mode name⟩, name, text⟩
    match ← evaluate setting i p.bindings source with
    | none => calculateAll setting i owner mode definition rest p
    | some x => do
      let writes ← writeBack setting i definition name x
      calculateAll setting i owner mode definition rest
        ⟨p.bindings.put name x, p.outputs.put name x, p.writes ++ writes⟩

def run (setting : Setting) (owner : String) (spec : Spec) (i : Invocation) : Run Outcome := do
  let given := Table.ofPairs i.bindings
  let defined ← bindAll setting i owner .definition spec.definition given
  let tooled ← bindAll setting i owner .tools spec.tools defined
  match spec.calculate.select? i.resolvedMode with
  | none => do
    note (.noCalculation owner i.resolvedMode)
    return .empty
  | some (mode, formulas) => do
    let p ← calculateAll setting i owner mode spec.definition formulas ⟨tooled, [], []⟩
    return ⟨mode, p.outputs, p.writes, Outcome.finalOf p.outputs⟩

end DerivedStats.Pipeline
