import DerivedStats.Proofs.Pipeline.Sites
import Mathlib.Data.List.Nodup

/-! When two formulas of one configuration are looked up under one place of the cache. -/

namespace DerivedStats.Pipeline

open Formula (Place)

def Meets : Part → String → Part → String → Prop
  | .definition, name, .definition, name' => name = name'
  | .tools, name, .tools, name' => name = name'
  | .calculate mode, name, .calculate mode', name' =>
    (mode = mode' ∧ name = name') ∨ Swallows mode name mode' name' ∨ Swallows mode' name' mode name
  | _, _, _, _ => False

lemma meets_iff (part part' : Part) (name name' : String) :
    Meets part name part' name' ↔
      part.toSection = part'.toSection ∧ part.key name = part'.key name' := by
  cases part <;> cases part' <;>
    simp [Meets, Part.toSection, Part.key, calculationKey_eq_iff]

inductive Namesakes : Owner → Owner → Prop
  | battle_system : Namesakes .battle (.system battleOwner)
  | system_battle : Namesakes (.system battleOwner) .battle

lemma Owner.name_eq_iff (owner owner' : Owner) :
    owner.name = owner'.name ↔ owner = owner' ∨ Namesakes owner owner' := by
  constructor
  · intro h
    cases owner <;> cases owner'
    · exact .inl rfl
    · obtain rfl : battleOwner = _ := h
      exact .inr .battle_system
    · obtain rfl : _ = battleOwner := h
      exact .inr .system_battle
    · exact .inl (congrArg Owner.system h)
  · rintro (rfl | h)
    · rfl
    · cases h <;> rfl

theorem Site.place_eq_iff (x y : Site) :
    x.place = y.place ↔
      (x.owner = y.owner ∨ Namesakes x.owner y.owner) ∧ Meets x.part x.name y.part y.name := by
  rw [← Owner.name_eq_iff, meets_iff, Site.place, Site.place, Place.mk.injEq]

def PlacesApart (c : Config) : Prop :=
  ∀ x text y text', LooksUp c x text → LooksUp c y text' → x.place = y.place → x = y

structure Unambiguous (c : Config) : Prop where
  owners : ∀ part name text part' name' text',
    LooksUp c ⟨.battle, part, name⟩ text → LooksUp c ⟨.system battleOwner, part', name'⟩ text' →
      ¬ Meets part name part' name'
  modes : ∀ owner mode name text mode' name' text',
    LooksUp c ⟨owner, .calculate mode, name⟩ text →
      LooksUp c ⟨owner, .calculate mode', name'⟩ text' → ¬ Swallows mode name mode' name'

lemma Unambiguous.eq_of_meets {c : Config} (h : Unambiguous c) {owner : Owner} {part part' : Part}
    {name name' text text' : String} (hx : LooksUp c ⟨owner, part, name⟩ text)
    (hy : LooksUp c ⟨owner, part', name'⟩ text') (hmeets : Meets part name part' name') :
    Site.mk owner part name = ⟨owner, part', name'⟩ := by
  cases part <;> cases part'
  case definition.definition => rw [show name = name' from hmeets]
  case tools.tools => rw [show name = name' from hmeets]
  case calculate.calculate mode mode' =>
    rcases hmeets with ⟨rfl, rfl⟩ | hswallows | hswallows
    · rfl
    · exact absurd hswallows (h.modes _ _ _ _ _ _ _ hx hy)
    · exact absurd hswallows (h.modes _ _ _ _ _ _ _ hy hx)
  all_goals exact hmeets.elim

lemma placesApart_iff (c : Config) : PlacesApart c ↔ Unambiguous c := by
  constructor
  · intro h
    constructor
    · intro part name text part' name' text' hx hy hmeets
      have hplace := (Site.place_eq_iff ⟨.battle, part, name⟩ ⟨.system battleOwner, part', name'⟩).mpr
        ⟨.inr .battle_system, hmeets⟩
      cases h _ _ _ _ hx hy hplace
    · intro owner mode name text mode' name' text' hx hy hswallows
      have hplace := (Site.place_eq_iff ⟨owner, .calculate mode, name⟩
        ⟨owner, .calculate mode', name'⟩).mpr ⟨.inl rfl, .inr (.inl hswallows)⟩
      cases h _ _ _ _ hx hy hplace
      exact hswallows.mode_ne rfl
  · rintro h ⟨owner, part, name⟩ text ⟨owner', part', name'⟩ text' hx hy hplace
    obtain ⟨howner, hmeets⟩ := (Site.place_eq_iff _ _).mp hplace
    rcases howner with rfl | hnamesakes
    · exact h.eq_of_meets hx hy hmeets
    · cases hnamesakes with
      | battle_system => exact absurd hmeets (h.owners _ _ _ _ _ _ hx hy)
      | system_battle =>
        have hback := (Site.place_eq_iff _ _).mp hplace.symm
        exact absurd hback.2 (h.owners _ _ _ _ _ _ hy hx)

lemma Spec.mode_of_mem_entries {spec : Spec} {mode mode' : String} {f : String × String}
    (h : (.calculate mode', f) ∈ spec.entries mode) :
    ∃ formulas, spec.calculate.select? mode = some (mode', formulas) ∧ f ∈ formulas := by
  rw [Spec.entries] at h
  cases hselect : spec.calculate.select? mode with
  | none => simp [hselect] at h
  | some selected =>
    simp only [hselect, Option.elim, List.mem_append, List.mem_map, Prod.mk.injEq, reduceCtorEq,
      false_and, and_false, exists_false, false_or, Part.calculate.injEq] at h
    obtain ⟨f', hf, rfl, rfl⟩ := h
    exact ⟨selected.2, rfl, hf⟩

lemma LooksUp.system_mode_eq {c : Config} {owner mode name text mode' name' text' : String}
    (hsystems : c.systems.keys.Nodup)
    (hx : LooksUp c ⟨.system owner, .calculate mode, name⟩ text)
    (hy : LooksUp c ⟨.system owner, .calculate mode', name'⟩ text') : mode = mode' := by
  cases hx with
  | @system _ spec _ _ _ hspec hentry =>
    cases hy with
    | @system _ spec' _ _ _ hspec' hentry' =>
      obtain rfl : spec = spec' :=
        (Prod.mk.inj (List.inj_on_of_nodup_map hsystems hspec hspec' rfl)).2
      obtain ⟨_, hselect, -⟩ := Spec.mode_of_mem_entries hentry
      obtain ⟨_, hselect', -⟩ := Spec.mode_of_mem_entries hentry'
      cases hselect.symm.trans hselect'
      rfl

lemma unambiguous_of_battle {c : Config} (hsystems : c.systems.keys.Nodup)
    (howners : ∀ part name text part' name' text', LooksUp c ⟨.battle, part, name⟩ text →
      LooksUp c ⟨.system battleOwner, part', name'⟩ text' → ¬ Meets part name part' name')
    (hmodes : ∀ mode name text mode' name' text', LooksUp c ⟨.battle, .calculate mode, name⟩ text →
      LooksUp c ⟨.battle, .calculate mode', name'⟩ text' → ¬ Swallows mode name mode' name') :
    Unambiguous c := by
  refine ⟨howners, fun owner mode name text mode' name' text' hx hy hswallows => ?_⟩
  cases owner with
  | battle => exact hmodes _ _ _ _ _ _ hx hy hswallows
  | system owner => exact hswallows.mode_ne (hx.system_mode_eq hsystems hy)

end DerivedStats.Pipeline
