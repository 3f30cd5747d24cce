import DerivedStats.Pipeline.Run
import Mathlib.Tactic.Lemma

/-! Bindings enter a run only through their values, so the order in which they stand is not seen. -/

namespace DerivedStats.Pipeline

open Formula (Context Section)

def SameValues (t u : Table String Float) : Prop := ∀ name, t.get? name = u.get? name

namespace SameValues

variable {t u : Table String Float}

lemma put (h : SameValues t u) (name : String) (x : Float) :
    SameValues (t.put name x) (u.put name x) := by
  intro other
  rw [Table.get?_put, Table.get?_put, h]

lemma put_put (t : Table String Float) {name other : String} (h : name ≠ other) (x y : Float) :
    SameValues ((t.put name x).put other y) ((t.put other y).put name x) := by
  intro key
  simp only [Table.get?_put]
  by_cases hkey : key = other
  · rw [if_pos hkey, if_neg (hkey ▸ h.symm), if_pos hkey]
  · rw [if_neg hkey, if_neg hkey]

lemma resolve (h : SameValues t u) (r : Attribute.Registry) (entities : Formula.Entities) :
    (Context.mk r entities t).resolve = (Context.mk r entities u).resolve := by
  funext name
  simp only [Context.resolve, h name]

end SameValues

variable {α : Type} {setting : Setting} {i : Invocation} {owner : String}
  {bindings bindings' : Table String Float}

lemma evaluate_congr (h : SameValues bindings bindings') (x : Source) :
    evaluate setting i bindings x = evaluate setting i bindings' x := by
  apply bind_congr
  intro found
  cases found with
  | none => rfl
  | some e =>
    simp only [sample, Context.scope, h.resolve]

def Unordered (k : Table String Float → Run α) : Prop :=
  ∀ bindings bindings', SameValues bindings bindings' → k bindings = k bindings'

lemma Unordered.bindAll {k : Table String Float → Run α} (hk : Unordered k) (part : Section)
    (formulas : Formulas) :
    Unordered fun bindings => bindAll setting i owner part formulas bindings >>= k := by
  induction formulas with
  | nil => exact hk
  | cons f rest ih =>
    intro bindings bindings' h
    simp only [Pipeline.bindAll, bind_assoc, evaluate_congr h]
    apply bind_congr
    intro x
    exact ih _ _ (h.put f.1 (x.getD 0))

lemma Unordered.calculateAll (k : Table String Float → List Write → Run α) (mode : String)
    (definition formulas : Formulas) (outputs : Table String Float) (writes : List Write) :
    Unordered fun bindings =>
      calculateAll setting i owner mode definition formulas ⟨bindings, outputs, writes⟩ >>=
        fun p => k p.outputs p.writes := by
  induction formulas generalizing outputs writes with
  | nil => exact fun _ _ _ => rfl
  | cons f rest ih =>
    intro bindings bindings' h
    simp only [Pipeline.calculateAll, bind_assoc, evaluate_congr h]
    apply bind_congr
    intro result
    cases result with
    | none => exact ih outputs writes _ _ h
    | some x =>
      simp only [bind_assoc]
      apply bind_congr
      intro more
      exact ih _ _ _ _ (h.put f.1 x)

def calculateSelected (setting : Setting) (owner : String) (spec : Spec) (i : Invocation)
    (tooled : Table String Float) : Run Outcome :=
  match spec.calculate.select? i.resolvedMode with
  | none => do
    note (.noCalculation owner i.resolvedMode)
    return .empty
  | some (mode, formulas) => do
    let p ← calculateAll setting i owner mode spec.definition formulas ⟨tooled, [], []⟩
    return ⟨mode, p.outputs, p.writes, Outcome.finalOf p.outputs⟩

lemma run_eq (spec : Spec) :
    run setting owner spec i =
      bindAll setting i owner .definition spec.definition (Table.ofPairs i.bindings) >>=
        fun defined => bindAll setting i owner .tools spec.tools defined >>=
          calculateSelected setting owner spec i := rfl

lemma Unordered.calculateSelected (spec : Spec) :
    Unordered (calculateSelected setting owner spec i) := by
  intro bindings bindings' h
  rw [Pipeline.calculateSelected, Pipeline.calculateSelected]
  cases spec.calculate.select? i.resolvedMode with
  | none => rfl
  | some selected =>
    let k (outputs : Table String Float) (writes : List Write) : Run Outcome :=
      return ⟨selected.1, outputs, writes, Outcome.finalOf outputs⟩
    exact Unordered.calculateAll k selected.1 spec.definition selected.2 [] [] _ _ h

end DerivedStats.Pipeline
