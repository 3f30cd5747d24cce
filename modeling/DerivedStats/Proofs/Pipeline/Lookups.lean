import DerivedStats.Engine
import DerivedStats.Proofs.Pipeline.Evaluation

/-! Which formulas a run looks up, and that it does nothing else to the cache. -/

namespace DerivedStats.Pipeline

open Formula (Cache Expr Section)

def listed (owner : String) (part : Section) (formulas : Formulas) : List Source :=
  formulas.map fun f => ⟨⟨owner, part, f.1⟩, f.1, f.2⟩

def calculated (owner mode : String) (formulas : Formulas) : List Source :=
  formulas.map fun f => ⟨⟨owner, .calculate, calculationKey mode f.1⟩, f.1, f.2⟩

def Spec.lookups (spec : Spec) (owner mode : String) : List Source :=
  listed owner .definition spec.definition ++ listed owner .tools spec.tools ++
    (spec.calculate.select? mode).elim [] fun selected => calculated owner selected.1 selected.2

def systemLookups (systems : Systems) (mode : String) : List Source :=
  systems.flatMap fun system => system.2.lookups system.1 mode

def Source.configured (x : Source) : Bool := x.place.part ≠ .adhoc

def Source.look (c : Cache) (x : Source) : Cache := (c.fetch x.place x.text).2

def Blind {α : Type} (r : Run α) : Prop :=
  ∀ s c, r.run { s with cache := c } = ((r.run s).1, { (r.run s).2 with cache := c })

namespace Blind

variable {α β : Type}

lemma pure (a : α) : Blind (Pure.pure a : Run α) := fun _ _ => rfl

lemma bind {r : Run α} {f : α → Run β} (hr : Blind r) (hf : ∀ a, Blind (f a)) :
    Blind (r >>= f) := by
  intro s c
  rw [run_bind, run_bind, hr]
  exact hf _ _ c

lemma note (n : Notice) : Blind (Pipeline.note n) := fun _ _ => rfl

lemma sample (setting : Setting) (i : Invocation) (bindings : Table String Float)
    (source : Source) (e : Expr) : Blind (Pipeline.sample setting i bindings source e) := by
  intro s c
  simp only [Pipeline.sample, StateT.run_bind, StateT.run_get, StateT.run_set, pure_bind]
  split
  · rfl
  · rfl

lemma store (setting : Setting) (id : EntityId) (key : String) (value : Float) :
    Blind (Pipeline.store setting id key value) := by
  intro s c
  simp only [Pipeline.store, StateT.run_bind, StateT.run_get, pure_bind]
  split
  · rfl
  · rfl

lemma writeBack (setting : Setting) (i : Invocation) (definition : Formulas) (name : String)
    (value : Float) : Blind (Pipeline.writeBack setting i definition name value) := by
  rw [Pipeline.writeBack]
  cases (definition.get? name).bind writeBackTarget? with
  | none => exact pure _
  | some key => exact (store setting i.primary key value).bind fun applied => pure _

end Blind

def Looks {α : Type} (xs : List Source) (r : Run α) : Prop :=
  ∀ s, (r.run s).2.cache = xs.foldl Source.look s.cache

lemma Blind.looks {α : Type} {r : Run α} (h : Blind r) : Looks [] r :=
  fun s => congrArg (fun result => result.2.cache) (h s s.cache)

namespace Looks

variable {α β : Type}

lemma pure (a : α) : Looks [] (Pure.pure a : Run α) := (Blind.pure a).looks

lemma bind {xs ys : List Source} {r : Run α} {f : α → Run β} (hr : Looks xs r)
    (hf : ∀ a, Looks ys (f a)) : Looks (xs ++ ys) (r >>= f) := by
  intro s
  rw [run_bind, hf, hr, List.foldl_append]

lemma map {xs : List Source} {r : Run α} (f : α → β) (hr : Looks xs r) :
    Looks xs (do return f (← r)) := by
  simpa using hr.bind fun a => pure (f a)

lemma fetch (x : Source) : Looks [x] (Pipeline.fetch x) := by
  intro s
  simp only [Pipeline.fetch, StateT.run_bind, StateT.run_get, StateT.run_set, pure_bind]
  split
  · rfl
  · rfl

lemma evaluate (setting : Setting) (i : Invocation) (bindings : Table String Float) (x : Source) :
    Looks [x] (Pipeline.evaluate setting i bindings x) := by
  refine (fetch x).bind fun found => ?_
  cases found with
  | none => exact pure _
  | some e => exact (Blind.sample setting i bindings x e).looks

lemma bindAll (setting : Setting) (i : Invocation) (owner : String) (part : Section)
    (formulas : Formulas) (bindings : Table String Float) :
    Looks (listed owner part formulas)
      (Pipeline.bindAll setting i owner part formulas bindings) := by
  induction formulas generalizing bindings with
  | nil => exact pure _
  | cons f rest ih => exact (evaluate setting i bindings _).bind fun x => ih _

lemma calculateAll (setting : Setting) (i : Invocation) (owner mode : String)
    (definition formulas : Formulas) (p : Progress) :
    Looks (calculated owner mode formulas)
      (Pipeline.calculateAll setting i owner mode definition formulas p) := by
  induction formulas generalizing p with
  | nil => exact pure _
  | cons f rest ih =>
    refine (evaluate setting i p.bindings _).bind fun result => ?_
    cases result with
    | none => exact ih p
    | some x => exact (Blind.writeBack setting i definition f.1 x).looks.bind fun writes => ih _

theorem run (setting : Setting) (owner : String) (spec : Spec) (i : Invocation) :
    Looks (spec.lookups owner i.resolvedMode) (Pipeline.run setting owner spec i) := by
  rw [Spec.lookups]
  rw [List.append_assoc]
  refine (bindAll setting i owner .definition _ _).bind fun defined => ?_
  refine (bindAll setting i owner .tools _ defined).bind fun tooled => ?_
  cases spec.calculate.select? i.resolvedMode with
  | none => exact (Blind.note _).looks.bind fun _ => pure _
  | some selected => exact (calculateAll setting i owner _ _ _ _).map _

theorem updateProfile (setting : Setting) (id : EntityId) (systems : Systems) :
    Looks (systemLookups systems (Invocation.solo id).resolvedMode)
      (Pipeline.updateProfile setting id systems) := by
  induction systems with
  | nil => exact pure _
  | cons system rest ih =>
    exact (run setting system.1 system.2 (.solo id)).bind fun outcome => ih.map _

theorem calculate (text : String) (primary secondary : Option EntityId) (setting : Setting) :
    Looks [⟨⟨Engine.adhocOwner, .adhoc, text⟩, text, text⟩]
      (Engine.calculateRun text primary secondary setting) := by
  intro s
  simp only [Engine.calculateRun, StateT.run_bind, StateT.run_get, StateT.run_set, pure_bind]
  split
  · rfl
  · simp only [StateT.run_bind, StateT.run_get, StateT.run_set, pure_bind]
    split
    · rfl
    · rfl

end Looks

end DerivedStats.Pipeline
