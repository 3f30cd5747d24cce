import DerivedStats.Proofs.Pipeline.Calls
import DerivedStats.Proofs.Pipeline.Keys

/-! The formulas of a configuration, told apart by who owns them, by their part and by their name,
and the places they are looked up under. -/

namespace DerivedStats.Pipeline

open Formula (Cache Place Section)

inductive Owner
  | battle
  | system (name : String)

inductive Part
  | definition
  | tools
  | calculate (mode : String)

structure Site where
  owner : Owner
  part : Part
  name : String

def Owner.name : Owner → String
  | battle => battleOwner
  | system name => name

namespace Part

def toSection : Part → Section
  | definition => .definition
  | tools => .tools
  | calculate _ => .calculate

def key : Part → String → String
  | calculate mode, name => calculationKey mode name
  | _, name => name

end Part

def Site.place (x : Site) : Place := ⟨x.owner.name, x.part.toSection, x.part.key x.name⟩

def Site.source (x : Site) (text : String) : Source := ⟨x.place, x.name, text⟩

lemma Site.configured_source (x : Site) (text : String) : (x.source text).configured = true := by
  obtain ⟨owner, part, name⟩ := x
  cases part <;> rfl

def Spec.entries (spec : Spec) (mode : String) : List (Part × String × String) :=
  spec.definition.map (Part.definition, ·) ++ spec.tools.map (Part.tools, ·) ++
    (spec.calculate.select? mode).elim [] fun selected =>
      selected.2.map (Part.calculate selected.1, ·)

lemma Spec.lookups_eq (spec : Spec) (owner : Owner) (mode : String) :
    spec.lookups owner.name mode =
      (spec.entries mode).map fun e => Site.source ⟨owner, e.1, e.2.1⟩ e.2.2 := by
  rw [Spec.lookups, Spec.entries]
  cases spec.calculate.select? mode with
  | none =>
    simp only [Option.elim, List.append_nil, List.map_append, List.map_map]
    rfl
  | some selected =>
    simp only [Option.elim, List.map_append, List.map_map]
    rfl

def soloMode : String := "solo"

inductive LooksUp (c : Config) : Site → String → Prop
  | battle {b : Battle} {mode : String} {part : Part} {name text : String}
    (hbattle : c.battle = some b) (hentry : (part, name, text) ∈ b.spec.entries mode) :
    LooksUp c ⟨.battle, part, name⟩ text
  | system {owner : String} {spec : Spec} {part : Part} {name text : String}
    (hsystem : (owner, spec) ∈ c.systems) (hentry : (part, name, text) ∈ spec.entries soloMode) :
    LooksUp c ⟨.system owner, part, name⟩ text

inductive Makes (c : Config) : Call → Prop
  | damage {b : Battle} (hbattle : c.battle = some b) (attacker : EntityId)
    (defender : Option EntityId) (attack : Attack) : Makes c (.damage b attacker defender attack)
  | update (id : EntityId) : Makes c (.update id c.systems)
  | calculate (text : String) (primary secondary : Option EntityId) :
    Makes c (.calculate text primary secondary)

def Submits (c : Config) (y : Source) : Prop := ∃ call, Makes c call ∧ y ∈ call.lookups

lemma LooksUp.submits {c : Config} {x : Site} {text : String} (h : LooksUp c x text) :
    Submits c (x.source text) := by
  cases h with
  | @battle b mode part name _ hbattle hentry =>
    refine ⟨_, .damage hbattle ⟨0⟩ none ⟨[], some mode, none⟩, ?_⟩
    change _ ∈ b.spec.lookups Owner.battle.name mode
    rw [Spec.lookups_eq]
    exact List.mem_map_of_mem hentry
  | @system owner spec part name _ hsystem hentry =>
    refine ⟨_, .update ⟨0⟩, List.mem_flatMap.mpr ⟨_, hsystem, ?_⟩⟩
    change _ ∈ spec.lookups (Owner.system owner).name soloMode
    rw [Spec.lookups_eq]
    exact List.mem_map_of_mem hentry

lemma Submits.looksUp {c : Config} {y : Source} (h : Submits c y) (hconfigured : y.configured = true) :
    ∃ x text, LooksUp c x text ∧ y = x.source text := by
  obtain ⟨call, hmakes, hy⟩ := h
  cases hmakes with
  | @damage b hbattle attacker defender attack =>
    change _ ∈ b.spec.lookups Owner.battle.name _ at hy
    rw [Spec.lookups_eq] at hy
    obtain ⟨e, hentry, rfl⟩ := List.mem_map.mp hy
    exact ⟨_, _, .battle hbattle hentry, rfl⟩
  | update id =>
    obtain ⟨⟨owner, spec⟩, hsystem, hmem⟩ := List.mem_flatMap.mp hy
    change _ ∈ spec.lookups (Owner.system owner).name soloMode at hmem
    rw [Spec.lookups_eq] at hmem
    obtain ⟨e, hentry, rfl⟩ := List.mem_map.mp hmem
    exact ⟨_, _, .system hsystem hentry, rfl⟩
  | calculate text primary secondary =>
    obtain rfl := List.mem_singleton.mp hy
    cases hconfigured

theorem submits_configured_iff (c : Config) (y : Source) :
    (Submits c y ∧ y.configured = true) ↔ ∃ x text, LooksUp c x text ∧ y = x.source text := by
  constructor
  · rintro ⟨hsubmits, hconfigured⟩
    exact hsubmits.looksUp hconfigured
  · rintro ⟨x, text, hx, rfl⟩
    exact ⟨hx.submits, x.configured_source text⟩

end DerivedStats.Pipeline
