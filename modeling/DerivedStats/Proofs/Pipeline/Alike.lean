import DerivedStats.Proofs.Formula.Fetching
import DerivedStats.Proofs.Pipeline.Respects

/-! Two runs of the same formulas, in sessions that differ in their notices and in what the cache
holds under some of its places. -/

namespace DerivedStats.Pipeline

open Formula (Place)

/-- The sessions differ in nothing but their notices, the count of compilations, and what the caches
hold under the places that are left out. -/
structure Alike (out : Place → Prop) (s t : Session) : Prop where
  drawn : s.drawn = t.drawn
  profiles : s.profiles = t.profiles
  cache : ∀ p, ¬ out p → s.cache.get? p = t.cache.get? p

namespace Alike

variable {out : Place → Prop} {r s t : Session}

lemma symm (h : Alike out s t) : Alike out t s :=
  ⟨h.drawn.symm, h.profiles.symm, fun p hp => (h.cache p hp).symm⟩

lemma trans (h : Alike out r s) (h' : Alike out s t) : Alike out r t :=
  ⟨h.drawn.trans h'.drawn, h.profiles.trans h'.profiles,
    fun p hp => (h.cache p hp).trans (h'.cache p hp)⟩

end Alike

lemma SameEnd.symm {α : Type} {out : Place → Prop} {x y : Run α} {s t : Session}
    (h : SameEnd (Alike out) x s y t) : SameEnd (Alike out) y t x s := ⟨h.1.symm, h.2.symm⟩

lemma SameEnd.trans {α : Type} {out : Place → Prop} {x y z : Run α} {r s t : Session}
    (h : SameEnd (Alike out) x r y s) (h' : SameEnd (Alike out) y s z t) :
    SameEnd (Alike out) x r z t := ⟨h.1.trans h'.1, h.2.trans h'.2⟩

lemma Alike.steps (out : Place → Prop) (setting : Setting) :
    StepsRespect (Alike out) setting setting fun p => ¬ out p where
  note _ _ _ h := ⟨rfl, h.drawn, h.profiles, h.cache⟩
  fetch x hx := by
    rintro ⟨c, drawn, profiles, notices⟩ ⟨d, _, _, notices'⟩ ⟨rfl, rfl, hcache⟩
    obtain ⟨hfound, hkept⟩ := Formula.Cache.fetch_congr out hcache hx x.text
    simp only [SameEnd, Pipeline.fetch, StateT.run_bind, StateT.run_get, StateT.run_set, pure_bind,
      ← hfound]
    cases (c.fetch x.place x.text).1 with
    | ok e => exact ⟨rfl, rfl, rfl, hkept⟩
    | error err => exact ⟨rfl, rfl, rfl, hkept⟩
  sample i bindings x e := by
    rintro ⟨c, drawn, profiles, notices⟩ ⟨d, _, _, notices'⟩ ⟨rfl, rfl, hcache⟩
    simp only [SameEnd, Pipeline.sample, StateT.run_bind, StateT.run_get, StateT.run_set, pure_bind]
    split
    · exact ⟨rfl, rfl, rfl, hcache⟩
    · exact ⟨rfl, rfl, rfl, hcache⟩
  store id key value := by
    rintro ⟨c, drawn, profiles, notices⟩ ⟨d, _, _, notices'⟩ ⟨rfl, rfl, hcache⟩
    simp only [SameEnd, Pipeline.store, StateT.run_bind, StateT.run_get, pure_bind]
    split
    · exact ⟨rfl, rfl, rfl, hcache⟩
    · exact ⟨rfl, rfl, rfl, hcache⟩

end DerivedStats.Pipeline
