import DerivedStats.Attribute.Schema
import DerivedStats.ClassTree
import DerivedStats.Pipeline.Battle
import DerivedStats.Pipeline.Systems
import DerivedStats.Toml.Reader

/-! The configuration of an engine. -/

namespace DerivedStats

open Attribute (Schema)
open Toml (Decoder Excess Member)

structure General where
  debugMode : Bool
  logFilter : String
deriving DecidableEq, Repr

structure Config where
  general : General
  attributes : Schema
  classes : Table String ClassConfig
  battle : Option Pipeline.Battle
  systems : Pipeline.Systems

namespace Config

def defaultGeneral : General := ⟨false, "nexus_core=info"⟩

def generalMembers : List (Member General) := [
  ⟨["debug-mode"], fun v g => do return { g with debugMode := ← Toml.flag v }⟩,
  ⟨["log-filter"], fun v g => do return { g with logFilter := ← Toml.text v }⟩]

def classMembers : List (Member ClassConfig) := [
  ⟨["display-name"], fun v c => do return { c with displayName := some (← Toml.text v) }⟩,
  ⟨["tier"], fun v c => do return { c with tier := ← Toml.natural32 v }⟩,
  ⟨["parent"], fun v c => do return { c with parent := some (← Toml.text v) }⟩]

def decodeClass (excess : Excess) : Decoder ClassConfig :=
  Toml.record excess classMembers ⟨none, 1, none⟩

def decodeClasses (excess : Excess) : Decoder (Table String ClassConfig) :=
  Toml.tableOf (decodeClass excess)

def decodeSystems (excess : Excess) : Decoder Pipeline.Systems :=
  Toml.tableOf (Pipeline.Spec.decode excess)

def empty : Config := ⟨defaultGeneral, .category [], [], none, []⟩

def members (excess : Excess) : List (Member Config) := [
  ⟨["general"], fun v c => do
    return { c with general := ← Toml.record excess generalMembers defaultGeneral v }⟩,
  ⟨["attributes"], fun v c => do
    return { c with attributes := .ofToml (← Toml.settled excess v) }⟩,
  ⟨["classes"], fun v c => do return { c with classes := ← decodeClasses excess v }⟩,
  ⟨["battle"], fun v c => do return { c with battle := some (← Pipeline.Battle.decode v) }⟩,
  ⟨["systems"], fun v c => do return { c with systems := ← decodeSystems excess v }⟩]

def decode : Decoder Config := Toml.record .refused (members .refused) empty

def ofText? (text : String) : Option (Except Toml.DecodeError Config) :=
  (Toml.read text).map (Toml.record .ignored (members .ignored) empty)

end Config

end DerivedStats
