import DerivedStats.Attribute.Registry
import DerivedStats.EntityId
import DerivedStats.Json.Value

/-! The attributes and notes of one entity.

Stats stand under canonical keys. A registry decides which of them are read and written; what it
does not know any more stays stored. -/

namespace DerivedStats

open Attribute (Registry canonicalKey)

structure Profile where
  id : EntityId
  name : String
  stats : Table String Float
  metadata : Table String Json.Value

namespace Profile

def new (id : EntityId) (name : String) : Profile := ⟨id, name, [], []⟩

def stat? (r : Registry) (p : Profile) (key : String) : Option Float :=
  if r.permits (canonicalKey key) then p.stats.get? (canonicalKey key) else none

def stat (r : Registry) (p : Profile) (key : String) : Float := (p.stat? r key).getD 0

theorem stat_eq (r : Registry) (p : Profile) (key : String) : p.stat r key =
    if r.permits (canonicalKey key) then (p.stats.get? (canonicalKey key)).getD 0 else 0 := by
  rw [stat, stat?]
  split <;> rfl

def setStat? (r : Registry) (p : Profile) (key : String) (value : Float) : Option Profile :=
  if r.permits (canonicalKey key) then
    some { p with stats := p.stats.put (canonicalKey key) value }
  else none

def setName (p : Profile) (name : String) : Profile := { p with name }

def setMetadata (p : Profile) (key : String) (value : Json.Value) : Profile :=
  { p with metadata := p.metadata.put key value }

def missingDefaults (r : Registry) (p : Profile) : List (String × Float) :=
  r.knownKeys.filterMap fun key =>
    if p.stats.has key then none else (r.default? key).map (key, ·)

def applyDefaults (r : Registry) (p : Profile) : Profile :=
  { p with stats := (p.missingDefaults r).foldl (fun t d => t.put d.1 d.2) p.stats }

end Profile

end DerivedStats
