import DerivedStats.Proofs.Pipeline.Lookups

/-! What runs are put together from. What holds of the steps and passes on from them to sequences of
steps, holds of runs by one induction. -/

namespace DerivedStats.Pipeline

open Formula (Section)

inductive Composed (setting : Setting) (looked : Source → Prop) : {α : Type} → Run α → Prop
  | pure {α : Type} (a : α) : Composed setting looked (Pure.pure a)
  | bind {α β : Type} {r : Run α} {f : α → Run β} : Composed setting looked r →
      (∀ a, Composed setting looked (f a)) → Composed setting looked (r >>= f)
  | evaluate (i : Invocation) (bindings : Table String Float) {x : Source} : looked x →
      Composed setting looked (evaluate setting i bindings x)
  | store (id : EntityId) (key : String) (value : Float) :
      Composed setting looked (store setting id key value)
  | noCalculation (owner mode : String) :
      Composed setting looked (note (.noCalculation owner mode))

namespace Composed

variable {setting : Setting} {looked : Source → Prop}

lemma bindAll (i : Invocation) {owner : String} {part : Section} {formulas : Formulas}
    (h : ∀ x ∈ listed owner part formulas, looked x) (bindings : Table String Float) :
    Composed setting looked (Pipeline.bindAll setting i owner part formulas bindings) := by
  induction formulas generalizing bindings with
  | nil => exact pure _
  | cons f rest ih =>
    obtain ⟨hfirst, hrest⟩ := List.forall_mem_cons.mp h
    exact (evaluate i bindings hfirst).bind fun x => ih hrest _

lemma writeBack (i : Invocation) (definition : Formulas) (name : String) (value : Float) :
    Composed setting looked (Pipeline.writeBack setting i definition name value) := by
  rw [Pipeline.writeBack]
  cases (definition.get? name).bind writeBackTarget? with
  | none => exact pure _
  | some key => exact (store i.primary key value).bind fun applied => pure _

lemma calculateAll (i : Invocation) {owner mode : String} (definition : Formulas)
    {formulas : Formulas} (h : ∀ x ∈ calculated owner mode formulas, looked x) (p : Progress) :
    Composed setting looked
      (Pipeline.calculateAll setting i owner mode definition formulas p) := by
  induction formulas generalizing p with
  | nil => exact pure p
  | cons f rest ih =>
    obtain ⟨hfirst, hrest⟩ := List.forall_mem_cons.mp h
    refine (evaluate i p.bindings hfirst).bind fun result => ?_
    cases result with
    | none => exact ih hrest p
    | some x => exact (writeBack i definition f.1 x).bind fun writes => ih hrest _

lemma run {owner : String} {spec : Spec} {i : Invocation}
    (h : ∀ x ∈ spec.lookups owner i.resolvedMode, looked x) :
    Composed setting looked (Pipeline.run setting owner spec i) := by
  simp only [Spec.lookups, List.forall_mem_append] at h
  obtain ⟨⟨hdefinition, htools⟩, hcalculate⟩ := h
  refine (bindAll i hdefinition _).bind fun defined => ?_
  refine (bindAll i htools defined).bind fun tooled => ?_
  cases hselected : spec.calculate.select? i.resolvedMode with
  | none => exact (noCalculation owner _).bind fun _ => pure _
  | some selected =>
    rw [hselected] at hcalculate
    exact (calculateAll i spec.definition hcalculate _).bind fun p => pure _

lemma updateProfile (id : EntityId) {systems : Systems}
    (h : ∀ x ∈ systemLookups systems (Invocation.solo id).resolvedMode, looked x) :
    Composed setting looked (Pipeline.updateProfile setting id systems) := by
  induction systems with
  | nil => exact pure _
  | cons system rest ih =>
    rw [systemLookups, List.flatMap_cons, List.forall_mem_append] at h
    exact (run h.1).bind fun outcome => (ih h.2).bind fun outcomes => pure _

end Composed

end DerivedStats.Pipeline
