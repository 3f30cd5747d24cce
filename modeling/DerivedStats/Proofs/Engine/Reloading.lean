import DerivedStats.Proofs.Engine.Operations
import DerivedStats.Proofs.Pipeline.Twins

/-! What a reloaded engine answers, and that it does not depend on what the engine did before. -/

namespace DerivedStats.Engine

open Attribute (Collision Definition Registry)
open Formula (SameDraws)
open Pipeline (Attack Outcome Respects Run Setting Twins)
open Profile (AllMatch)

inductive Request
  | calculate (text : String) (primary secondary : Option EntityId)
  | computeDamage (attacker : EntityId) (defender : Option EntityId) (attack : Attack)
  | updateProfile (id : EntityId)
  | definition (key : String)
  | isValid (key : String)
  | registered
  | collisions
  | classes

inductive Answer
  | value (x : Float)
  | outcome (o : Outcome)
  | outcomes (os : List (String × Outcome))
  | definition (d : Option Definition)
  | validity (valid : Bool)
  | count (n : Nat)
  | collisions (cs : List Collision)
  | classes (t : ClassTree)

abbrev Reply := Answer × List Notice

def ask (unit : Nat → Float) (e : Engine) : Request → Reply × Engine
  | .calculate text primary secondary =>
    let (x, e, notices) := e.calculate unit text primary secondary
    ((.value x, notices), e)
  | .computeDamage attacker defender attack =>
    let (o, e, notices) := e.computeDamage unit attacker defender attack
    ((.outcome o, notices), e)
  | .updateProfile id =>
    let (os, e, notices) := e.updateProfile unit id
    ((.outcomes os, notices), e)
  | .definition key => ((.definition (e.registry.get? key), []), e)
  | .isValid key => ((.validity (e.registry.isValid key), []), e)
  | .registered => ((.count e.registry.size, []), e)
  | .collisions => ((.collisions e.registry.collisions, []), e)
  | .classes => ((.classes e.classes, []), e)

def askAll (unit : Nat → Float) (e : Engine) : List Request → List Reply × Engine
  | [] => ([], e)
  | q :: qs =>
    let (reply, e) := e.ask unit q
    let (replies, e) := askAll unit e qs
    (reply :: replies, e)

structure Indistinct (u v : Nat → Float) (e f : Engine) : Prop where
  config : e.config = f.config
  registry : e.registry = f.registry
  classes : e.classes = f.classes
  session : Twins u v e.session f.session

lemma reload_indistinct {u v : Nat → Float} {e f : Engine}
    (hprofiles : AllMatch e.roster.profiles f.roster.profiles)
    (hdraws : SameDraws u v e.drawn f.drawn) (c : Config) :
    Indistinct u v (e.reload c).state (f.reload c).state := by
  rw [reload_state, reload_state]
  -- what reloading does not replace are the profiles and the count of draws
  exact ⟨rfl, rfl, rfl, hdraws, hprofiles.applyDefaults _, fun _ => rfl, rfl⟩

namespace Indistinct

variable {u v : Nat → Float} {e f : Engine}

lemma run {α : Type} (h : Indistinct u v e f) (r r' : Setting → Run α)
    (hr : Respects (Twins u v) (r ⟨e.registry, u⟩) (r' ⟨f.registry, v⟩)) :
    (e.run u r).1 = (f.run v r').1 ∧ (e.run u r).2.2 = (f.run v r').2.2 ∧
      Indistinct u v (e.run u r).2.1 (f.run v r').2.1 := by
  obtain ⟨hresult, hdraws, hprofiles, hcache, hnotices⟩ := hr _ _ h.session
  exact ⟨hresult, hnotices, h.config, h.registry, h.classes, hdraws, hprofiles, hcache, rfl⟩

lemma ask (h : Indistinct u v e f) (q : Request) :
    (e.ask u q).1 = (f.ask v q).1 ∧ Indistinct u v (e.ask u q).2 (f.ask v q).2 := by
  cases q with
  | calculate text primary secondary =>
    obtain ⟨hvalue, hnotices, hafter⟩ := h.run (calculateRun text primary secondary)
      (calculateRun text primary secondary)
      (h.registry ▸ Twins.calculate e.registry text primary secondary)
    exact ⟨Prod.ext (congrArg Answer.value hvalue) hnotices, hafter⟩
  | computeDamage attacker defender attack =>
    obtain ⟨houtcome, hnotices, hafter⟩ := h.run
      (damageRun e.config.battle attacker defender attack)
      (damageRun f.config.battle attacker defender attack) <| by
        rw [h.registry, h.config]
        exact (Twins.steps f.registry).damage fun _ _ _ _ => trivial
    exact ⟨Prod.ext (congrArg Answer.outcome houtcome) hnotices, hafter⟩
  | updateProfile id =>
    obtain ⟨houtcomes, hnotices, hafter⟩ := h.run
      (fun setting => Pipeline.updateProfile setting id e.config.systems)
      (fun setting => Pipeline.updateProfile setting id f.config.systems) <| by
        rw [h.registry, h.config]
        exact (Twins.steps f.registry).updateProfile id fun _ _ => trivial
    exact ⟨Prod.ext (congrArg Answer.outcomes houtcomes) hnotices, hafter⟩
  | definition key => exact ⟨by rw [Engine.ask, Engine.ask, h.registry], h⟩
  | isValid key => exact ⟨by rw [Engine.ask, Engine.ask, h.registry], h⟩
  | registered => exact ⟨by rw [Engine.ask, Engine.ask, h.registry], h⟩
  | collisions => exact ⟨by rw [Engine.ask, Engine.ask, h.registry], h⟩
  | classes => exact ⟨by rw [Engine.ask, Engine.ask, h.classes], h⟩

lemma askAll (h : Indistinct u v e f) (qs : List Request) :
    (e.askAll u qs).1 = (f.askAll v qs).1 ∧
      Indistinct u v (e.askAll u qs).2 (f.askAll v qs).2 := by
  induction qs generalizing e f with
  | nil => exact ⟨rfl, h⟩
  | cons q qs ih =>
    obtain ⟨hreply, hnext⟩ := h.ask q
    obtain ⟨hreplies, hafter⟩ := ih hnext
    exact ⟨congrArg₂ List.cons hreply hreplies, hafter⟩

end Indistinct

/-- Engines with whatever past, whose profiles match and whose samples to come are the same, reply
alike to all requests after they have been reloaded with one configuration, and their profiles go on
to match. -/
theorem reload_leaves_no_trace (u v : Nat → Float) (e f : Engine)
    (hprofiles : AllMatch e.roster.profiles f.roster.profiles)
    (hdraws : SameDraws u v e.drawn f.drawn) (c : Config) (qs : List Request) :
    ((e.reload c).state.askAll u qs).1 = ((f.reload c).state.askAll v qs).1 ∧
      AllMatch ((e.reload c).state.askAll u qs).2.roster.profiles
        ((f.reload c).state.askAll v qs).2.roster.profiles := by
  obtain ⟨hreplies, hafter⟩ := (reload_indistinct hprofiles hdraws c).askAll qs
  exact ⟨hreplies, hafter.session.profiles⟩

theorem reload_leaves_no_trace_reconfigured :
    let half : Nat → Float := fun _ => 0.5
    let storage : Roster.Storage := ⟨⟨[], [], []⟩, .memory [] 0⟩
    let health := { Config.empty with attributes := .category [("HP", .leaf ⟨none, 10, none⟩)] }
    let mana := { Config.empty with attributes := .category [("MP", .leaf ⟨none, 3, none⟩)] }
    let e := (new health storage).after half [.loadOrCreate ⟨1⟩ "A", .enable]
    let f := (new mana storage).after half [.loadOrCreate ⟨1⟩ "A", .reload Config.empty]
    let qs : List Request := [.calculate "random(1, 2)" none none, .isValid "HP", .registered]
    AllMatch e.roster.profiles f.roster.profiles ∧ SameDraws half half e.drawn f.drawn ∧
      ((e.reload mana).state.askAll half qs).1 = ((f.reload mana).state.askAll half qs).1 ∧
      AllMatch ((e.reload mana).state.askAll half qs).2.roster.profiles
        ((f.reload mana).state.askAll half qs).2.roster.profiles := by
  intro half storage health mana e f qs
  have he : e.roster.profiles = [(⟨1⟩, .new ⟨1⟩ "A")] := by
    change (Engine.enable _).state.roster.profiles = _
    rw [enable_state]
    exact init_profiles _
  have hf : f.roster.profiles = [(⟨1⟩, .new ⟨1⟩ "A")] := by
    change (Engine.reload _ _).state.roster.profiles = _
    rw [reload_state]
    rfl
  have hprofiles : AllMatch e.roster.profiles f.roster.profiles := by
    rw [he, hf]
    exact .refl _
  have hdraws : SameDraws half half e.drawn f.drawn := fun _ => by simp only [half]
  exact ⟨hprofiles, hdraws, reload_leaves_no_trace half half e f hprofiles hdraws mana qs⟩

end DerivedStats.Engine
