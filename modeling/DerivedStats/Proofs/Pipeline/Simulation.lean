import DerivedStats.Proofs.Pipeline.Calls

/-! A run on a cache that holds what its formulas compile to agrees with the run that starts every
look-up from an empty cache. -/

namespace DerivedStats.Pipeline

open Formula (Cache Section Expr Place compile)

def OneText (sources : List Source) : Prop :=
  ∀ x ∈ sources, ∀ y ∈ sources, x.place = y.place → x.text = y.text

def Faithful (sources : List Source) (c : Cache) : Prop :=
  ∀ p e, c.get? p = some e → ∃ x ∈ sources, x.place = p ∧ compile x.text = .ok e

lemma Faithful.empty (sources : List Source) (n : Nat) : Faithful sources ⟨[], n⟩ := by
  intro p e h
  cases h

lemma Faithful.mono {sources more : List Source} {c : Cache} (h : Faithful sources c)
    (hsub : sources ⊆ more) : Faithful more c := by
  intro p e hp
  obtain ⟨x, hx, hplace, hcompile⟩ := h p e hp
  exact ⟨x, hsub hx, hplace, hcompile⟩

lemma Faithful.fetch_fst {sources : List Source} {c : Cache} (h : Faithful sources c)
    (hone : OneText sources) {x : Source} (hx : x ∈ sources) :
    (c.fetch x.place x.text).1 = compile x.text := by
  rw [Cache.fetch]
  split
  · next e he =>
    obtain ⟨y, hy, hplace, hcompile⟩ := h _ _ he
    rw [← hone y hy x hx hplace, hcompile]
  · split
    · next err herr => exact herr.symm
    · next e he => exact he.symm

lemma Faithful.fetch_snd {sources : List Source} {c : Cache} (h : Faithful sources c)
    {x : Source} (hx : x ∈ sources) : Faithful sources (c.fetch x.place x.text).2 := by
  rw [Cache.fetch]
  split
  · exact h
  · split
    · exact h
    · next e he =>
      intro p e' hp
      rw [Cache.get?, Table.get?_put] at hp
      split at hp
      · next heq =>
        cases hp
        exact ⟨x, hx, heq.symm, he⟩
      · exact h p e' hp

lemma fetch_clear (c : Cache) (p : Place) (text : String) :
    (c.clear.fetch p text).1 = compile text := by
  rw [Cache.fetch]
  split
  · next h => cases h
  · split
    · next h => exact h.symm
    · next h => exact h.symm

structure Agrees (sources : List Source) (s t : Session) : Prop where
  drawn : s.drawn = t.drawn
  profiles : s.profiles = t.profiles
  notices : s.notices = t.notices
  faithful : Faithful sources s.cache

def Simulates {α : Type} (sources : List Source) (x y : Run α) : Prop :=
  ∀ s t, Agrees sources s t →
    (x.run s).1 = (y.run t).1 ∧ Agrees sources (x.run s).2 (y.run t).2

namespace Simulates

variable {α β : Type} {sources : List Source}

lemma of_blind {r : Run α} (h : Blind r) : Simulates sources r r := by
  rintro s ⟨c, _, _, _⟩ ⟨rfl, rfl, rfl, hfaithful⟩
  have hother : r.run ⟨c, s.drawn, s.profiles, s.notices⟩ = _ := h s c
  have hkept : (r.run s).2.cache = s.cache := h.looks s
  rw [hother]
  refine ⟨rfl, rfl, rfl, rfl, ?_⟩
  rw [hkept]
  exact hfaithful

lemma pure (a : α) : Simulates sources (Pure.pure a) (Pure.pure a) := of_blind (.pure a)

lemma bind {x y : Run α} {f g : α → Run β} (hxy : Simulates sources x y)
    (hfg : ∀ a, Simulates sources (f a) (g a)) : Simulates sources (x >>= f) (y >>= g) := by
  intro s t h
  obtain ⟨hresult, hstate⟩ := hxy s t h
  rw [run_bind, run_bind, ← hresult]
  exact hfg _ _ _ hstate

lemma map {x y : Run α} (f : α → β) (hxy : Simulates sources x y) :
    Simulates sources (do return f (← x)) (do return f (← y)) :=
  hxy.bind fun _ => .pure _

lemma fetch (hone : OneText sources) {x : Source} (hx : x ∈ sources) :
    Simulates sources (Pipeline.fetch x)
      (do prepared Cache.clear; Pipeline.fetch x) := by
  rintro ⟨c, drawn, profiles, notices⟩ ⟨c', _, _, _⟩ ⟨rfl, rfl, rfl, hfaithful⟩
  have hkept := hfaithful.fetch_snd hx
  have hcached := hfaithful.fetch_fst hone hx
  have hcompiled := fetch_clear c' x.place x.text
  simp only [Pipeline.fetch, prepared, StateT.run_bind, StateT.run_get, StateT.run_set,
    StateT.run_modify, pure_bind, hcached, hcompiled]
  cases compile x.text with
  | ok e => exact ⟨rfl, rfl, rfl, rfl, hkept⟩
  | error err => exact ⟨rfl, rfl, rfl, rfl, hkept⟩

lemma evaluate (hone : OneText sources) (setting : Setting) (i : Invocation)
    (bindings : Table String Float) {x : Source} (hx : x ∈ sources) :
    Simulates sources (Pipeline.evaluate setting i bindings x)
      (evaluateAfter Cache.clear setting i bindings x) := by
  rw [evaluateAfter, Pipeline.evaluate]
  rw [← bind_assoc]
  refine (fetch hone hx).bind fun found => ?_
  cases found with
  | none => exact .pure _
  | some e => exact of_blind (.sample setting i bindings x e)

lemma bindAll (hone : OneText sources) (setting : Setting) (i : Invocation) (owner : String)
    (part : Section) (formulas : Formulas) (hsub : listed owner part formulas ⊆ sources)
    (bindings : Table String Float) :
    Simulates sources (Pipeline.bindAll setting i owner part formulas bindings)
      (bindAllAfter Cache.clear setting i owner part formulas bindings) := by
  induction formulas generalizing bindings with
  | nil => exact .pure _
  | cons f rest ih =>
    obtain ⟨hfirst, hrest⟩ := List.cons_subset.mp hsub
    exact (evaluate hone setting i bindings hfirst).bind fun x => ih hrest _

lemma calculateAll (hone : OneText sources) (setting : Setting) (i : Invocation)
    (owner mode : String) (definition formulas : Formulas)
    (hsub : calculated owner mode formulas ⊆ sources) (p : Progress) :
    Simulates sources (Pipeline.calculateAll setting i owner mode definition formulas p)
      (calculateAllAfter Cache.clear setting i owner mode definition formulas p) := by
  induction formulas generalizing p with
  | nil => exact .pure _
  | cons f rest ih =>
    obtain ⟨hfirst, hrest⟩ := List.cons_subset.mp hsub
    refine (evaluate hone setting i p.bindings hfirst).bind fun result => ?_
    cases result with
    | none => exact ih hrest p
    | some x => exact (of_blind (.writeBack setting i definition f.1 x)).bind fun writes => ih hrest _

lemma run (hone : OneText sources) (setting : Setting) (i : Invocation) (owner : String)
    (spec : Spec) (hsub : spec.lookups owner i.resolvedMode ⊆ sources) :
    Simulates sources (Pipeline.run setting owner spec i)
      (runAfter Cache.clear setting i owner spec) := by
  rw [Spec.lookups] at hsub
  obtain ⟨hbound, hselected⟩ := List.append_subset.mp hsub
  obtain ⟨hdefinition, htools⟩ := List.append_subset.mp hbound
  refine (bindAll hone setting i owner _ _ hdefinition _).bind fun defined => ?_
  refine (bindAll hone setting i owner _ _ htools defined).bind fun tooled => ?_
  cases hselect : spec.calculate.select? i.resolvedMode with
  | none => exact (of_blind (.note _)).bind fun _ => .pure _
  | some selected =>
    rw [hselect] at hselected
    exact (calculateAll hone setting i owner _ _ _ hselected _).map _

lemma updateProfile (hone : OneText sources) (setting : Setting) (id : EntityId)
    (systems : Systems) (hsub : systemLookups systems (Invocation.solo id).resolvedMode ⊆ sources) :
    Simulates sources (Pipeline.updateProfile setting id systems)
      (updateProfileAfter Cache.clear setting id systems) := by
  induction systems with
  | nil => exact .pure _
  | cons system rest ih =>
    obtain ⟨hfirst, hrest⟩ := List.append_subset.mp hsub
    refine (run hone setting (.solo id) system.1 system.2 hfirst).bind fun outcome => ?_
    exact (ih hrest).map _

end Simulates

end DerivedStats.Pipeline
