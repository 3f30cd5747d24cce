import DerivedStats.Formula.Evaluate
import DerivedStats.Formula.Reference
import DerivedStats.Profile.Basic

/-! The values of names: bindings first, then the stats of the entities at hand. -/

namespace DerivedStats.Formula

structure Entities where
  primary : Option Profile
  secondary : Option Profile

namespace Entities

def none : Entities := ⟨.none, .none⟩

def get? (e : Entities) : Role → Option Profile
  | .primary => e.primary
  | .secondary => e.secondary

end Entities

structure Context where
  registry : Attribute.Registry
  entities : Entities
  bindings : Table String Float

namespace Context

def bind (c : Context) (name : String) (value : Float) : Context :=
  { c with bindings := c.bindings.put name value }

def resolve (c : Context) (name : String) : Float :=
  match c.bindings.get? name with
  | some x => x
  | none =>
    match Reference.ofName? name with
    | some r => (c.entities.get? r.role).elim 0 (·.stat c.registry r.key)
    | none => 0

def scope (c : Context) (unit : Nat → Float) : Scope := ⟨c.resolve, unit⟩

theorem resolve_bind (c : Context) (name other : String) (value : Float) :
    (c.bind name value).resolve other = if other = name then value else c.resolve other := by
  by_cases h : other = name
  · simp [resolve, bind, Table.get?_put, h]
  · simp [resolve, bind, Table.get?_put, h]

end Context

def Scope.ofTable (t : Table String Float) (unit : Nat → Float) : Scope :=
  ⟨fun name => (t.get? name).getD 0, unit⟩

end DerivedStats.Formula
