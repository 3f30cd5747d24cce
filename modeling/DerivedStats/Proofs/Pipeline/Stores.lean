import DerivedStats.Proofs.Pipeline.Composed
import Mathlib.Logic.Relation

/-! All that a run does to profiles is to store stats that the registry accepts. -/

namespace DerivedStats.Pipeline

open Attribute (Registry)
open Relation (ReflTransGen)

def Stored (r : Registry) (before after : Profiles) : Prop :=
  ∃ id p key value q, before.get? id = some p ∧ p.setStat? r key value = some q ∧
    after = before.put id q

def Stores {α : Type} (setting : Setting) (x : Run α) : Prop :=
  ∀ s : Session, ReflTransGen (Stored setting.registry) s.profiles (x.run s).2.profiles

namespace Stores

variable {setting : Setting} {α β : Type}

lemma of_profiles_eq {x : Run α} (h : ∀ s, (x.run s).2.profiles = s.profiles) :
    Stores setting x := by
  intro s
  rw [h s]

lemma pure (a : α) : Stores setting (Pure.pure a) := of_profiles_eq fun _ => rfl

lemma note (n : Notice) : Stores setting (Pipeline.note n) := of_profiles_eq fun _ => rfl

lemma bind {x : Run α} {f : α → Run β} (hx : Stores setting x) (hf : ∀ a, Stores setting (f a)) :
    Stores setting (x >>= f) := by
  intro s
  rw [run_bind]
  exact (hx s).trans (hf _ _)

lemma store (id : EntityId) (key : String) (value : Float) :
    Stores setting (Pipeline.store setting id key value) := by
  intro s
  simp only [Pipeline.store, StateT.run_bind, StateT.run_get, pure_bind]
  split
  · exact .refl
  · next q hq =>
    obtain ⟨p, hp, hset⟩ := Option.bind_eq_some_iff.mp hq
    exact .single ⟨id, p, key, value, q, hp, hset, rfl⟩

lemma of_composed {looked : Source → Prop} {r : Run α} (h : Composed setting looked r) :
    Stores setting r := by
  induction h with
  | pure a => exact pure a
  | bind _ _ hr hf => exact hr.bind hf
  | @evaluate i bindings x _ => exact of_profiles_eq (evaluate_profiles setting i bindings x)
  | store id key value => exact store id key value
  | noCalculation owner mode => exact note _

lemma run (owner : String) (spec : Spec) (i : Invocation) :
    Stores setting (Pipeline.run setting owner spec i) :=
  of_composed (.run fun _ _ => trivial)

lemma updateProfile (id : EntityId) (systems : Systems) :
    Stores setting (Pipeline.updateProfile setting id systems) :=
  of_composed (.updateProfile id fun _ _ => trivial)

lemma updateAll (systems : Systems) (ids : List EntityId) :
    Stores setting (Pipeline.updateAll setting systems ids) := by
  induction ids with
  | nil => exact pure _
  | cons id rest ih =>
    exact (updateProfile id systems).bind fun outcomes => ih.bind fun others => pure _

lemma damage (battle : Option Battle) (attacker : EntityId) (defender : Option EntityId)
    (a : Attack) : Stores setting (Engine.damageRun battle attacker defender a setting) := by
  cases battle with
  | none => exact (note _).bind fun _ => pure _
  | some b => exact run battleOwner b.spec _

lemma calculate (text : String) (primary secondary : Option EntityId) :
    Stores setting (Engine.calculateRun text primary secondary setting) := by
  refine of_profiles_eq fun s => ?_
  simp only [Engine.calculateRun, StateT.run_bind, StateT.run_get, StateT.run_set, pure_bind]
  split
  · rfl
  · simp only [StateT.run_bind, StateT.run_get, StateT.run_set, pure_bind]
    split
    · rfl
    · rfl

end Stores

end DerivedStats.Pipeline
