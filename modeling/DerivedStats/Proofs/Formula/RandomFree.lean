import DerivedStats.Proofs.Formula.Drawing

/-! Formulas without a call of `random` draw nothing, and their values do not depend on what was
drawn before. -/

namespace DerivedStats.Formula

mutual

def Expr.randomFree : Expr → Bool
  | .number _ => true
  | .var _ => true
  | .binary _ left right => left.randomFree && right.randomFree
  | .call f args => f != .random && Expr.allRandomFree args

def Expr.allRandomFree : List Expr → Bool
  | [] => true
  | e :: es => e.randomFree && Expr.allRandomFree es

end

def Drawless {α : Type} (x : Sampling α) : Prop := ∃ result, ∀ n, x.run.run n = (result, n)

lemma EndAlike.drawless {α : Type} {u : Nat → Float} {x : Sampling α} (h : EndAlike u u 0 x x) :
    Drawless x := by
  have hpair := fun n => h 0 n fun _ hk => absurd hk (Nat.not_lt_zero _)
  obtain ⟨result, _, _, hfirst, -⟩ := hpair 0
  refine ⟨result, fun n => ?_⟩
  obtain ⟨result', k, hk, hzero, hn⟩ := hpair n
  obtain rfl := Nat.le_zero.mp hk
  obtain ⟨rfl, -⟩ := Prod.mk.inj (hfirst.symm.trans hzero)
  exact hn

lemma Builtin.draws_eq_zero {f : Builtin} (h : f ≠ .random) : f.draws = 0 := by
  cases f with
  | random => contradiction
  | choose | max | min => rfl

mutual

lemma randomCalls_eq_zero {e : Expr} (h : e.randomFree) : e.randomCalls = 0 := by
  cases e with
  | number x => rfl
  | var name => rfl
  | binary op left right =>
    obtain ⟨hleft, hright⟩ := Bool.and_eq_true_iff.mp h
    rw [Expr.randomCalls, randomCalls_eq_zero hleft, randomCalls_eq_zero hright]
  | call f args =>
    obtain ⟨hf, hargs⟩ := Bool.and_eq_true_iff.mp h
    rw [Expr.randomCalls, Builtin.draws_eq_zero (bne_iff_ne.mp hf), randomCallsOf_eq_zero hargs]

lemma randomCallsOf_eq_zero {es : List Expr} (h : Expr.allRandomFree es) :
    Expr.randomCallsOf es = 0 := by
  cases es with
  | nil => rfl
  | cons e es =>
    obtain ⟨he, hes⟩ := Bool.and_eq_true_iff.mp h
    rw [Expr.randomCallsOf, randomCalls_eq_zero he, randomCallsOf_eq_zero hes]

end

lemma sample_drawless (s : Scope) {e : Expr} (h : e.randomFree) : Drawless (e.sample s) := by
  have hsame := sample_endAlike (s := s) (t := s) e fun _ _ => rfl
  rw [randomCalls_eq_zero h] at hsame
  exact hsame.drawless

end DerivedStats.Formula
