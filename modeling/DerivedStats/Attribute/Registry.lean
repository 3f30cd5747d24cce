import DerivedStats.Attribute.Key
import DerivedStats.Attribute.Schema
import DerivedStats.Table

/-! The attributes in force, by canonical key. -/

namespace DerivedStats.Attribute

structure Definition where
  key : String
  path : String
  displayName : String
  defaultValue : Float
  statusValue : Option Int
deriving DecidableEq

structure Collision where
  key : String
  replaced : String
  winning : String
deriving DecidableEq, Repr

structure Registry where
  loaded : Bool
  definitions : Table String Definition
  collisions : List Collision

namespace Registry

def unloaded : Registry := ⟨false, [], []⟩

def Definition.ofEntry (e : Schema.Entry) : Definition where
  key := canonicalKey e.key
  path := e.path
  displayName := e.declaration.displayName.getD e.key
  defaultValue := e.declaration.default
  statusValue := e.declaration.statusValue

def register (r : Registry) (d : Definition) : Registry where
  loaded := r.loaded
  definitions := r.definitions.put d.key d
  collisions := match r.definitions.get? d.key with
    | some previous => r.collisions ++ [⟨d.key, previous.path, d.path⟩]
    | none => r.collisions

def ofSchema (s : Schema) : Registry :=
  (s.entries.map Definition.ofEntry).foldl register ⟨true, [], []⟩

def get? (r : Registry) (key : String) : Option Definition := r.definitions.get? (canonicalKey key)

def isValid (r : Registry) (key : String) : Bool := (r.get? key).isSome

def permits (r : Registry) (key : String) : Bool := !r.loaded || r.isValid key

def default? (r : Registry) (key : String) : Option Float :=
  (r.get? key).map Definition.defaultValue

def knownKeys (r : Registry) : List String := r.definitions.keys

def size (r : Registry) : Nat := r.definitions.length

def all (r : Registry) : List Definition :=
  (r.definitions.map Prod.snd).mergeSort fun a b => !(b.path < a.path)

end Registry

end DerivedStats.Attribute
