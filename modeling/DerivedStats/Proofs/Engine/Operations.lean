import DerivedStats.Engine
import Mathlib.Tactic.Lemma

/-! What is asked of an engine, and what each request does to registry, profiles and
configuration. -/

namespace DerivedStats

open Attribute (Registry)
open Lifecycle (Component Phase)

lemma Lifecycle.pass_state_cons {σ : Type} (phase : Phase) (c : Component σ)
    (cs : List (Component σ)) (s : σ) :
    (pass phase (c :: cs) s).state = (pass phase cs (c.call phase s).state).state := by
  rw [pass]
  cases (c.call phase s).failure <;> rfl

namespace Engine

inductive Operation
  | enable
  | reload (config : Config)
  | shutdown
  | loadOrCreate (id : EntityId) (name : String)
  | unload (id : EntityId)
  | saveLater (id : EntityId)
  | setStat (id : EntityId) (key : String) (value : Float)
  | computeDamage (attacker : EntityId) (defender : Option EntityId) (attack : Pipeline.Attack)
  | updateProfile (id : EntityId)
  | updateAll
  | calculate (text : String) (primary secondary : Option EntityId)

def profilesWithStat (e : Engine) (id : EntityId) (key : String) (value : Float) :
    Pipeline.Profiles :=
  match (e.roster.get? id).bind fun p => p.setStat? e.registry key value with
  | some p => e.roster.profiles.put id p
  | none => e.roster.profiles

def perform (unit : Nat → Float) (e : Engine) : Operation → Engine
  | .enable => e.enable.state
  | .reload config => (e.reload config).state
  | .shutdown => e.shutdown.state
  | .loadOrCreate id name => { e with roster := (e.roster.loadOrCreate e.registry id name).2 }
  | .unload id => { e with roster := (e.roster.unload id).2 }
  | .saveLater id => { e with roster := (e.roster.saveLater id).2 }
  | .setStat id key value => { e with roster.profiles := e.profilesWithStat id key value }
  | .computeDamage attacker defender attack => (e.computeDamage unit attacker defender attack).2.1
  | .updateProfile id => (e.updateProfile unit id).2.1
  | .updateAll => (e.updateAll unit).2.1
  | .calculate text primary secondary => (e.calculate unit text primary secondary).2.1

def after (unit : Nat → Float) (e : Engine) (ops : List Operation) : Engine :=
  ops.foldl (perform unit) e

lemma after_append (unit : Nat → Float) (e : Engine) (ops more : List Operation) :
    e.after unit (ops ++ more) = (e.after unit ops).after unit more :=
  List.foldl_append

lemma enable_state (e : Engine) :
    e.enable.state =
      { e with
        registry := (Registry.rebuild e.config.attributes).1
        classes := (ClassTree.build e.config.classes).1
        roster := e.roster.init.state } := by
  simp only [enable, conclude, Lifecycle.initAll, components, Lifecycle.pass_state_cons]
  rfl

lemma reload_state (e : Engine) (c : Config) :
    (e.reload c).state =
      { e with
        config := c
        registry := (Registry.rebuild c.attributes).1
        cache := e.cache.clear
        classes := (ClassTree.build c.classes).1
        roster := e.roster.reload (Registry.rebuild c.attributes).1 } := by
  simp only [reload, conclude, Lifecycle.reloadAll, components, Lifecycle.pass_state_cons]
  rfl

lemma shutdown_state (e : Engine) :
    e.shutdown.state =
      { e with
        registry := .unloaded
        cache := e.cache.clear
        roster := e.roster.shutdown.state } := by
  simp only [shutdown, Lifecycle.shutdownAll, components, List.reverse_cons, List.reverse_nil,
    List.nil_append, List.cons_append, Lifecycle.pass_state_cons]
  rfl

lemma init_profiles (r : Roster) : r.init.state.profiles = r.profiles := by
  rw [Roster.init]
  cases r.storage.prepare <;> rfl

lemma init_storage (r : Roster) (storage : Roster.Storage) :
    ({ r with storage } : Roster).init.state =
      { r.init.state with storage := ({ r with storage } : Roster).init.state.storage } := by
  rw [Roster.init, Roster.init]
  cases storage.prepare <;> cases r.storage.prepare <;> rfl

end Engine

end DerivedStats
