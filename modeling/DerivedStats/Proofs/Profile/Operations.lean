import DerivedStats.Attribute.Rebuild
import DerivedStats.Profile.Snapshot

/-! A profile together with the registry it is attached to, as operations on either of them find
and leave the two. -/

namespace DerivedStats.Profile

open Attribute (Registry Schema)

inductive Operation
  | rebuild (schema : Schema)
  | clear
  | setStat (key : String) (value : Float)
  | applyDefaults
  | setName (name : String)
  | setMetadata (key : String) (value : Json.Value)
  | reopen

structure Attached where
  registry : Registry
  profile : Profile

namespace Attached

def new (id : EntityId) (name : String) : Attached := ⟨.unloaded, .new id name⟩

def perform (a : Attached) : Operation → Attached
  | .rebuild schema => { a with registry := (Registry.rebuild schema).1 }
  | .clear => { a with registry := .unloaded }
  | .setStat key value =>
    { a with profile := (a.profile.setStat? a.registry key value).getD a.profile }
  | .applyDefaults => { a with profile := a.profile.applyDefaults a.registry }
  | .setName name => { a with profile := a.profile.setName name }
  | .setMetadata key value => { a with profile := a.profile.setMetadata key value }
  | .reopen => { a with profile := restore a.profile.snapshot }

def after (a : Attached) (ops : List Operation) : Attached := ops.foldl perform a

end Attached

end DerivedStats.Profile
