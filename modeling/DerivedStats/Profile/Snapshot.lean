import DerivedStats.Json.Reader
import DerivedStats.Json.Writer
import DerivedStats.Profile.Basic

/-! The stored form of a profile, as a JSON object of four members. -/

namespace DerivedStats.Profile

open Attribute (canonicalKey)

structure Snapshot where
  id : EntityId
  name : String
  stats : List (String × Float)
  metadata : List (String × Json.Value)

def snapshot (p : Profile) : Snapshot := ⟨p.id, p.name, p.stats.sorted, p.metadata.sorted⟩

def restore (s : Snapshot) : Profile where
  id := s.id
  name := s.name
  stats := Table.ofPairs (s.stats.map fun (key, value) => (canonicalKey key, value))
  metadata := s.metadata

namespace Snapshot

def toJson (s : Snapshot) : Json.Value :=
  .object [
    ("uuid", .string s.id.text),
    ("name", .string s.name),
    ("stats", .object (s.stats.map fun (key, value) => (key, .real value))),
    ("meta", .object s.metadata)]

def text (s : Snapshot) : String := s.toJson.pretty

def idOf? : Json.Value → Option EntityId
  | .string s => EntityId.ofText? s
  | _ => none

def nameOf? : Json.Value → Option String
  | .string s => some s
  | _ => none

def numberOf? : Json.Value → Option Float
  | .integer n => some (Float.ofInt n)
  | .real x => some x
  | _ => none

def statsOf? : Json.Value → Option (List (String × Float))
  | .object members => do
    let stats ← members.mapM fun (key, value) => (numberOf? value).map (key, ·)
    return (Table.ofPairs stats).sorted
  | _ => none

def noteDepth : Nat := 125

def metadataOf? : Json.Value → Option (List (String × Json.Value))
  | .object members => do
    if members.all fun m => m.2.readable noteDepth then
      return (Table.ofPairs (members.map fun (key, value) => (key, value.ordered))).sorted
    else none
  | _ => none

def build? (id name stats metadata : Option Json.Value) : Option Snapshot := do
  return {
    id := ← idOf? (← id)
    name := ← nameOf? (← name)
    stats := ← stats.elim (some []) statsOf?
    metadata := ← metadata.elim (some []) metadataOf? }

def fields : List String := ["uuid", "name", "stats", "meta"]

def ofJson? : Json.Value → Option Snapshot
  | .object members =>
    if fields.all fun f => members.countP (·.1 == f) ≤ 1 then
      build? (members.lookup "uuid") (members.lookup "name") (members.lookup "stats")
        (members.lookup "meta")
    else none
  | .array items =>
    if items.length ≤ 4 then build? items[0]? items[1]? items[2]? items[3]?
    else none
  | _ => none

def ofText? (text : String) : Option Snapshot := (Json.read text).bind ofJson?

end Snapshot

end DerivedStats.Profile
