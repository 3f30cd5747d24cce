import DerivedStats.Proofs.Attribute.Known
import DerivedStats.Proofs.Engine.Operations
import DerivedStats.Proofs.Pipeline.Stores

/-! Which attributes the loaded profiles carry, whatever is asked of the engine. -/

namespace DerivedStats

open Attribute (Registry Schema)
open Pipeline (Profiles Stored Stores)
open Relation (ReflTransGen)

namespace Profile

def Carries (r : Registry) (p : Profile) : Prop := ∀ key ∈ r.knownKeys, p.stats.has key = true

lemma carries_unloaded (p : Profile) : p.Carries .unloaded :=
  fun _ hkey => absurd hkey List.not_mem_nil

lemma Carries.setStat {r r' : Registry} {p q : Profile} (h : p.Carries r) {key : String}
    {value : Float} (hset : p.setStat? r' key value = some q) : q.Carries r := by
  rw [setStat?] at hset
  split at hset
  · cases hset
    intro known hknown
    have hold : known ∈ p.stats.keys := Table.has_iff_mem.mp (h known hknown)
    exact Table.has_iff_mem.mpr (Table.mem_keys_put.mpr (.inr hold))
  · cases hset

lemma carries_applyDefaults (s : Schema) (p : Profile) :
    (p.applyDefaults (Registry.ofSchema s)).Carries (Registry.ofSchema s) := by
  intro key hkey
  rw [Registry.knownKeys_ofSchema] at hkey
  refine Table.has_iff_mem.mpr (Table.mem_keys_foldl_put.mpr ?_)
  by_cases hstored : p.stats.has key = true
  · exact .inl (Table.has_iff_mem.mp hstored)
  · have hdefault : ((Registry.ofSchema s).default? key).isSome := by
      rw [Registry.default?_ofSchema, Schema.canonical_of_mem_keys hkey]
      exact Schema.default?_isSome hkey
    obtain ⟨x, hx⟩ := Option.isSome_iff_exists.mp hdefault
    refine .inr (List.mem_map.mpr ⟨(key, x), List.mem_filterMap.mpr ⟨key, ?_, ?_⟩, rfl⟩)
    · rwa [Registry.knownKeys_ofSchema]
    · rw [if_neg hstored, hx]
      rfl

end Profile

lemma Pipeline.forall_of_stored {r : Registry} {P : Profile → Prop}
    (hset : ∀ p key value q, P p → p.setStat? r key value = some q → P q) {before after : Profiles}
    (hstored : ReflTransGen (Stored r) before after) (h : ∀ e ∈ before, P e.2) :
    ∀ e ∈ after, P e.2 := by
  induction hstored with
  | refl => exact h
  | tail _ hlast ih =>
    obtain ⟨id, p, key, value, q, hp, hq, rfl⟩ := hlast
    intro e he
    obtain rfl | he := Table.mem_put he
    · exact hset p key value q (ih _ (Table.mem_of_get? hp)) hq
    · exact ih e he

namespace Engine

structure Seeded (e : Engine) : Prop where
  registry : e.registry = .unloaded ∨ e.registry = Registry.ofSchema e.config.attributes
  carried : ∀ q ∈ e.roster.profiles, q.2.Carries e.registry

namespace Seeded

variable {e : Engine}

lemma new (config : Config) (storage : Roster.Storage) : Seeded (.new config storage) :=
  ⟨.inl rfl, fun _ hq => absurd hq List.not_mem_nil⟩

lemma applyDefaults (h : Seeded e) (p : Profile) :
    (p.applyDefaults e.registry).Carries e.registry := by
  obtain hr | hr := h.registry
  · rw [hr]
    exact (p.applyDefaults .unloaded).carries_unloaded
  · rw [hr]
    exact p.carries_applyDefaults _

lemma loadOrCreate_fst (h : Seeded e) {id : EntityId} {name : String} {p : Profile}
    (hp : (e.roster.loadOrCreate e.registry id name).1 = .ok p) : p.Carries e.registry := by
  rw [Roster.loadOrCreate] at hp
  split at hp
  · next old hold =>
    cases hp
    exact h.carried (id, old) (Table.mem_of_get? hold)
  · dsimp only at hp
    split at hp
    · cases hp
    · cases hp
      exact h.applyDefaults _

lemma loadOrCreate_snd (h : Seeded e) (id : EntityId) (name : String) :
    ∀ q ∈ (e.roster.loadOrCreate e.registry id name).2.profiles, q.2.Carries e.registry := by
  rw [Roster.loadOrCreate]
  split
  · next old hold =>
    intro q hq
    obtain rfl | hq := Table.mem_put hq
    · exact h.carried (id, old) (Table.mem_of_get? hold)
    · exact h.carried q hq
  · dsimp only
    split
    · exact h.carried
    · intro q hq
      obtain rfl | hq := Table.mem_put hq
      · exact h.applyDefaults _
      · exact h.carried q hq

lemma run {α : Type} (h : Seeded e) {unit : Nat → Float} {r : Pipeline.Setting → Pipeline.Run α}
    (hr : Stores ⟨e.registry, unit⟩ (r ⟨e.registry, unit⟩)) : Seeded (e.run unit r).2.1 where
  registry := h.registry
  carried := Pipeline.forall_of_stored (fun _ _ _ _ hp hset => hp.setStat hset) (hr e.session)
    h.carried

lemma perform (h : Seeded e) (unit : Nat → Float) (op : Operation)
    (henable : op = .enable → e.registry.loaded = false →
      ∀ p ∈ e.roster.loaded, p.Carries (Registry.ofSchema e.config.attributes)) :
    Seeded (e.perform unit op) := by
  cases op with
  | enable =>
    rw [Engine.perform, enable_state]
    refine ⟨.inr rfl, ?_⟩
    change ∀ q ∈ e.roster.init.state.profiles, q.2.Carries (Registry.ofSchema e.config.attributes)
    rw [init_profiles]
    -- only the registry changes, and this only if it was not loaded
    obtain hr | hr := h.registry
    · exact fun q hq => henable rfl (by rw [hr]; rfl) q.2 (List.mem_map_of_mem hq)
    · exact hr ▸ h.carried
  | reload config =>
    rw [Engine.perform, reload_state]
    refine ⟨.inr rfl, fun q hq => ?_⟩
    obtain ⟨old, -, rfl⟩ := List.mem_map.mp hq
    exact old.2.carries_applyDefaults config.attributes
  | shutdown =>
    rw [Engine.perform, shutdown_state]
    exact ⟨.inl rfl, fun _ hq => absurd hq List.not_mem_nil⟩
  | loadOrCreate id name => exact ⟨h.registry, h.loadOrCreate_snd id name⟩
  | unload id =>
    refine ⟨h.registry, ?_⟩
    change ∀ q ∈ (e.roster.unload id).2.profiles, _
    rw [Roster.unload]
    split
    · exact h.carried
    · exact fun q hq => h.carried q (List.mem_filter.mp hq).1
  | saveLater id =>
    refine ⟨h.registry, ?_⟩
    change ∀ q ∈ (e.roster.saveLater id).2.profiles, _
    rw [Roster.saveLater]
    split
    · exact h.carried
    · exact h.carried
  | setStat id key value =>
    refine ⟨h.registry, ?_⟩
    change ∀ q ∈ e.profilesWithStat id key value, _
    rw [profilesWithStat]
    split
    · next q hq =>
      obtain ⟨p, hp, hset⟩ := Option.bind_eq_some_iff.mp hq
      exact Pipeline.forall_of_stored (fun _ _ _ _ hp hset => hp.setStat hset)
        (.single ⟨id, p, key, value, q, hp, hset, rfl⟩) h.carried
    · exact h.carried
  | computeDamage attacker defender attack =>
    exact h.run (.damage e.config.battle attacker defender attack)
  | updateProfile id => exact h.run (.updateProfile id e.config.systems)
  | updateAll => exact h.run (.updateAll e.config.systems e.roster.ids)
  | calculate text primary secondary => exact h.run (.calculate text primary secondary)

lemma after (h : Seeded e) (unit : Nat → Float) (ops : List Operation)
    (henable : ∀ front, front ++ [.enable] <+: ops → (e.after unit front).registry.loaded = false →
      ∀ p ∈ (e.after unit front).roster.loaded,
        p.Carries (Registry.ofSchema (e.after unit front).config.attributes)) :
    Seeded (e.after unit ops) := by
  induction ops generalizing e with
  | nil => exact h
  | cons op ops ih =>
    refine ih (h.perform unit op ?_) fun front hfront => ?_
    · rintro rfl
      exact henable [] (List.prefix_append _ _)
    · exact henable (op :: front) (List.cons_prefix_cons.mpr ⟨rfl, hfront⟩)

end Seeded

/-- Loaded profiles and those handed out carry every registered attribute throughout, exactly if
every time `enable` loads the registry the profiles that are loaded by then carry its attributes
already: it does not fill defaults in, nor does a look-up of a loaded profile. -/
theorem loaded_profiles_carry_iff (config : Config) (storage : Roster.Storage) (unit : Nat → Float)
    (ops : List Operation) :
    (∀ front, front <+: ops →
      let e := (new config storage).after unit front
      e.registry.loaded = true →
        (∀ p ∈ e.roster.loaded, p.Carries e.registry) ∧
        ∀ id name p, (e.roster.loadOrCreate e.registry id name).1 = .ok p → p.Carries e.registry) ↔
    ∀ front, front ++ [.enable] <+: ops →
      let e := (new config storage).after unit front
      e.registry.loaded = false →
        ∀ p ∈ e.roster.loaded, p.Carries (Registry.rebuild e.config.attributes).1 := by
  constructor
  · intro hcarried front hfront e _ p hp
    have hstate : (new config storage).after unit (front ++ [.enable]) = e.enable.state := by
      rw [after_append]
      rfl
    have henabled := hcarried _ hfront
    rw [hstate, enable_state] at henabled
    refine (henabled (Registry.loaded_ofSchema _)).1 p ?_
    change p ∈ e.roster.init.state.profiles.map Prod.snd
    rwa [init_profiles]
  · intro henable front hfront e _
    have hseeded : Seeded e := (Seeded.new config storage).after unit front fun start hstart =>
      henable start (hstart.trans hfront)
    refine ⟨fun p hp => ?_, fun id name p hp => hseeded.loadOrCreate_fst hp⟩
    obtain ⟨q, hq, rfl⟩ := List.mem_map.mp hp
    exact hseeded.carried q hq

theorem loaded_profiles_carry_reloaded :
    let health : Schema := .category [("HP", .leaf ⟨none, 10, none⟩)]
    let mana : Schema := .category [("MP", .leaf ⟨none, 3, none⟩)]
    let ops : List Operation :=
      [.enable, .loadOrCreate ⟨1⟩ "A", .reload { Config.empty with attributes := mana }]
    let e := (new { Config.empty with attributes := health } ⟨⟨[], [], []⟩, .memory [] 0⟩).after
      (fun _ => 0) ops
    e.registry.loaded = true ∧ e.roster.ids = [⟨1⟩] ∧
      ∀ p ∈ e.roster.loaded, p.Carries e.registry := by
  intro health mana ops e
  refine ⟨by decide +kernel, by decide +kernel, ?_⟩
  refine ((loaded_profiles_carry_iff _ _ (fun _ => 0) ops).mpr ?_ ops (List.prefix_refl _)
    (by decide +kernel)).1
  intro front hfront _ _ p hp
  cases front with
  | nil => cases hp
  | cons op front =>
    have hlater : Operation.enable ∈ ops.tail :=
      (List.cons_prefix_cons.mp hfront).2.subset (by simp)
    simp [ops] at hlater

theorem loaded_profile_carries_nothing :
    let strength : Schema := .category [("STR", .leaf ⟨none, 5, none⟩)]
    let e := (new { Config.empty with attributes := strength } ⟨⟨[], [], []⟩, .memory [] 0⟩).after
      (fun _ => 0) [.loadOrCreate ⟨1⟩ "A", .enable]
    e.registry.loaded = true ∧ e.registry.knownKeys = ["str"] ∧
      ∃ p ∈ e.roster.loaded, (e.roster.loadOrCreate e.registry ⟨1⟩ "A").1 = .ok p ∧
        p.stats.has "str" = false := by
  intro strength e
  refine ⟨by decide +kernel, by decide +kernel, .new ⟨1⟩ "A", ?_, ?_, rfl⟩
  · exact List.mem_singleton.mpr rfl
  · rfl

end Engine

end DerivedStats
