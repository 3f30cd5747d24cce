import DerivedStats.Engine
import DerivedStats.Proofs.Pipeline.Bindings
import DerivedStats.Proofs.Pipeline.Lookups

/-! Two computations side by side, from sessions that stand in a relation. Runs consist of four
kinds of steps, and what these respect the runs respect. -/

namespace DerivedStats.Pipeline

open Formula (Expr Place Section)

def SameEnd {α : Type} (R : Session → Session → Prop) (x : Run α) (s : Session) (y : Run α)
    (t : Session) : Prop :=
  (x.run s).1 = (y.run t).1 ∧ R (x.run s).2 (y.run t).2

def Respects {α : Type} (R : Session → Session → Prop) (x y : Run α) : Prop :=
  ∀ s t, R s t → SameEnd R x s y t

section

variable {α β : Type} {R : Session → Session → Prop}

lemma SameEnd.bind {x y : Run α} {s t : Session} {f g : α → Run β} (h : SameEnd R x s y t)
    (hfg : ∀ a, Respects R (f a) (g a)) : SameEnd R (x >>= f) s (y >>= g) t := by
  obtain ⟨hresult, hsession⟩ := h
  rw [SameEnd, run_bind, run_bind, ← hresult]
  exact hfg _ _ _ hsession

lemma SameEnd.after {x : Run α} {s : Session} {f g : α → Run β}
    (h : SameEnd R (f (x.run s).1) (x.run s).2 (g (x.run s).1) (x.run s).2) :
    SameEnd R (x >>= f) s (x >>= g) s := h

namespace Respects

lemma pure (a : α) : Respects R (Pure.pure a) (Pure.pure a) := fun _ _ h => ⟨rfl, h⟩

lemma bind {x y : Run α} {f g : α → Run β} (hxy : Respects R x y)
    (hfg : ∀ a, Respects R (f a) (g a)) : Respects R (x >>= f) (y >>= g) :=
  fun s t h => (hxy s t h).bind hfg

end Respects

end

structure StepsRespect (R : Session → Session → Prop) (setting other : Setting)
    (looked : Place → Prop) : Prop where
  note : ∀ n, Respects R (note n) (note n)
  fetch : ∀ x : Source, looked x.place → Respects R (fetch x) (fetch x)
  sample : ∀ i bindings x e,
    Respects R (sample setting i bindings x e) (sample other i bindings x e)
  store : ∀ id key value, Respects R (store setting id key value) (store other id key value)

namespace StepsRespect

variable {R : Session → Session → Prop} {setting other : Setting} {looked : Place → Prop}

lemma evaluate (h : StepsRespect R setting other looked) (i : Invocation)
    (bindings : Table String Float) {x : Source} (hx : looked x.place) :
    Respects R (Pipeline.evaluate setting i bindings x) (Pipeline.evaluate other i bindings x) := by
  refine (h.fetch x hx).bind fun found => ?_
  cases found with
  | none => exact .pure _
  | some e => exact h.sample i bindings x e

lemma bindAll (h : StepsRespect R setting other looked) (i : Invocation) (owner : String)
    (part : Section) {formulas : Formulas}
    (hlooked : ∀ x ∈ listed owner part formulas, looked x.place) (bindings : Table String Float) :
    Respects R (Pipeline.bindAll setting i owner part formulas bindings)
      (Pipeline.bindAll other i owner part formulas bindings) := by
  induction formulas generalizing bindings with
  | nil => exact .pure _
  | cons f rest ih =>
    obtain ⟨hfirst, hrest⟩ := List.forall_mem_cons.mp hlooked
    exact (h.evaluate i bindings hfirst).bind fun x => ih hrest _

lemma writeBack (h : StepsRespect R setting other looked) (i : Invocation) (definition : Formulas)
    (name : String) (value : Float) :
    Respects R (Pipeline.writeBack setting i definition name value)
      (Pipeline.writeBack other i definition name value) := by
  rw [Pipeline.writeBack, Pipeline.writeBack]
  cases (definition.get? name).bind writeBackTarget? with
  | none => exact .pure _
  | some key => exact (h.store i.primary key value).bind fun applied => .pure _

lemma calculateAll (h : StepsRespect R setting other looked) (i : Invocation)
    (owner mode : String) (definition : Formulas) {formulas : Formulas}
    (hlooked : ∀ x ∈ calculated owner mode formulas, looked x.place) (p : Progress) :
    Respects R (Pipeline.calculateAll setting i owner mode definition formulas p)
      (Pipeline.calculateAll other i owner mode definition formulas p) := by
  induction formulas generalizing p with
  | nil => exact .pure _
  | cons f rest ih =>
    obtain ⟨hfirst, hrest⟩ := List.forall_mem_cons.mp hlooked
    refine (h.evaluate i p.bindings hfirst).bind fun result => ?_
    cases result with
    | none => exact ih hrest p
    | some x => exact (h.writeBack i definition f.1 x).bind fun writes => ih hrest _

lemma calculateSelected (h : StepsRespect R setting other looked) (owner : String) (spec : Spec)
    (i : Invocation)
    (hlooked : ∀ x ∈ (spec.calculate.select? i.resolvedMode).elim []
      fun selected => calculated owner selected.1 selected.2, looked x.place)
    (tooled : Table String Float) :
    Respects R (Pipeline.calculateSelected setting owner spec i tooled)
      (Pipeline.calculateSelected other owner spec i tooled) := by
  rw [Pipeline.calculateSelected, Pipeline.calculateSelected]
  cases hselected : spec.calculate.select? i.resolvedMode with
  | none => exact (h.note _).bind fun _ => .pure _
  | some selected =>
    rw [hselected] at hlooked
    exact (h.calculateAll i owner _ _ hlooked _).bind fun p => .pure _

lemma run (h : StepsRespect R setting other looked) (owner : String) (spec : Spec)
    (i : Invocation) (hlooked : ∀ x ∈ spec.lookups owner i.resolvedMode, looked x.place) :
    Respects R (Pipeline.run setting owner spec i) (Pipeline.run other owner spec i) := by
  simp only [Spec.lookups, List.forall_mem_append] at hlooked
  obtain ⟨⟨hdefinition, htools⟩, hcalculate⟩ := hlooked
  refine (h.bindAll i owner .definition hdefinition _).bind fun defined => ?_
  refine (h.bindAll i owner .tools htools defined).bind fun tooled => ?_
  exact h.calculateSelected owner spec i hcalculate tooled

lemma updateProfile (h : StepsRespect R setting other looked) (id : EntityId) {systems : Systems}
    (hlooked : ∀ x ∈ systemLookups systems (Invocation.solo id).resolvedMode, looked x.place) :
    Respects R (Pipeline.updateProfile setting id systems)
      (Pipeline.updateProfile other id systems) := by
  induction systems with
  | nil => exact .pure _
  | cons system rest ih =>
    rw [systemLookups, List.flatMap_cons, List.forall_mem_append] at hlooked
    exact (h.run system.1 system.2 (.solo id) hlooked.1).bind fun outcome =>
      (ih hlooked.2).bind fun outcomes => .pure _

lemma damage (h : StepsRespect R setting other looked) {battle : Option Battle}
    {attacker : EntityId} {defender : Option EntityId} {a : Attack}
    (hlooked : ∀ b ∈ battle,
      ∀ x ∈ b.spec.lookups battleOwner (a.invocation b attacker defender).resolvedMode,
        looked x.place) :
    Respects R (Engine.damageRun battle attacker defender a setting)
      (Engine.damageRun battle attacker defender a other) := by
  cases battle with
  | none => exact (h.note _).bind fun _ => .pure _
  | some b => exact h.run battleOwner b.spec _ (hlooked b rfl)

end StepsRespect

end DerivedStats.Pipeline
