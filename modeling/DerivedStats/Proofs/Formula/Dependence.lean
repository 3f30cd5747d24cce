import DerivedStats.Formula.Evaluate
import Mathlib.Data.List.Basic

/-! The value of a formula depends on nothing but the names it lists and the samples it draws. -/

namespace DerivedStats.Formula

def Builtin.draws : Builtin → Nat
  | .random => 1
  | _ => 0

mutual

def Expr.randomCalls : Expr → Nat
  | .number _ => 0
  | .var _ => 0
  | .binary _ left right => left.randomCalls + right.randomCalls
  | .call f args => f.draws + Expr.randomCallsOf args

def Expr.randomCallsOf : List Expr → Nat
  | [] => 0
  | e :: es => e.randomCalls + Expr.randomCallsOf es

end

mutual

def Expr.Saturated : Expr → Prop
  | .number _ => True
  | .var _ => True
  | .binary _ left right => left.Saturated ∧ right.Saturated
  | .call f args => args.length = f.arity ∧ Expr.AllSaturated args

def Expr.AllSaturated : List Expr → Prop
  | [] => True
  | e :: es => e.Saturated ∧ Expr.AllSaturated es

end

lemma Builtin.apply_of_length_ne (unit : Nat → Float) {f : Builtin}
    {args : List (Sampling Float)} (h : args.length ≠ f.arity) :
    f.apply unit args = throw ⟨f, args.length⟩ := by
  rw [apply.eq_def]
  split <;> first | exact absurd rfl h | rfl

lemma run_bind {α β : Type} (x : Sampling α) (f : α → Sampling β) (n : Nat) :
    (x >>= f).run.run n = StateT.run (ExceptT.bindCont f (x.run.run n).1) (x.run.run n).2 := rfl

/-- Where both sources go on with the same `d` samples, the two computations give the same result and
draw the same number of samples, `d` of them at most. -/
def EndAlike {α : Type} (u v : Nat → Float) (d : Nat) (x y : Sampling α) : Prop :=
  ∀ m n, (∀ k < d, u (m + k) = v (n + k)) →
    ∃ result, ∃ k ≤ d, x.run.run m = (result, m + k) ∧ y.run.run n = (result, n + k)

namespace EndAlike

variable {u v : Nat → Float} {d d' : Nat} {α β : Type}

lemma pure (a : α) : EndAlike u v 0 (Pure.pure a) (Pure.pure a) :=
  fun _ _ _ => ⟨.ok a, 0, Nat.le_refl 0, rfl, rfl⟩

lemma throw (err : ArityError) :
    EndAlike u v 0 (MonadExcept.throw err : Sampling α) (MonadExcept.throw err) :=
  fun _ _ _ => ⟨.error err, 0, Nat.le_refl 0, rfl, rfl⟩

lemma draw : EndAlike u v 1 (Formula.draw u) (Formula.draw v) := by
  intro m n h
  refine ⟨.ok (u m), 1, Nat.le_refl 1, rfl, ?_⟩
  have hfirst : u m = v n := h 0 Nat.one_pos
  rw [hfirst]
  rfl

lemma mono {x y : Sampling α} (h : EndAlike u v d x y) (hd : d ≤ d') : EndAlike u v d' x y := by
  intro m n hsame
  obtain ⟨result, k, hk, hx, hy⟩ := h m n fun k hk => hsame k (Nat.lt_of_lt_of_le hk hd)
  exact ⟨result, k, Nat.le_trans hk hd, hx, hy⟩

lemma bind {x y : Sampling α} {f g : α → Sampling β} (hxy : EndAlike u v d x y)
    (hfg : ∀ a, EndAlike u v d' (f a) (g a)) : EndAlike u v (d + d') (x >>= f) (y >>= g) := by
  intro m n hsame
  obtain ⟨result, k, hk, hx, hy⟩ := hxy m n fun k hk => hsame k (by omega)
  rw [run_bind, run_bind, hx, hy]
  cases result with
  | error err => exact ⟨.error err, k, by omega, rfl, rfl⟩
  | ok a =>
    have hrest : ∀ j < d', u (m + k + j) = v (n + k + j) := by
      intro j hj
      rw [Nat.add_assoc, Nat.add_assoc]
      exact hsame (k + j) (by omega)
    obtain ⟨result, l, hl, hf, hg⟩ := hfg a (m + k) (n + k) hrest
    rw [Nat.add_assoc] at hf hg
    exact ⟨result, k + l, by omega, hf, hg⟩

lemma combine (op : Operator) {left left' right right' : Sampling Float}
    (hleft : EndAlike u v d left left') (hright : EndAlike u v d' right right') :
    EndAlike u v (d + d') (op.combine left right) (op.combine left' right') := by
  refine hleft.bind fun x => ?_
  split
  · exact (pure x).mono (Nat.zero_le _)
  · exact hright.bind fun y => pure _

inductive All (u v : Nat → Float) : Nat → List (Sampling Float) → List (Sampling Float) → Prop
  | nil : All u v 0 [] []
  | cons {d k : Nat} {x y : Sampling Float} {xs ys : List (Sampling Float)} :
      EndAlike u v d x y → All u v k xs ys → All u v (d + k) (x :: xs) (y :: ys)

lemma All.length_eq {args args' : List (Sampling Float)} (h : All u v d args args') :
    args.length = args'.length := by
  induction h with
  | nil => rfl
  | cons _ _ ih => rw [List.length_cons, List.length_cons, ih]

lemma apply (f : Builtin) {args args' : List (Sampling Float)} (h : All u v d args args') :
    EndAlike u v (f.draws + d) (f.apply u args) (f.apply v args') := by
  by_cases harity : args.length = f.arity
  · cases f with
    | choose =>
      obtain _ | ⟨hcondition, _ | ⟨hyes, _ | ⟨hno, _ | _⟩⟩⟩ := h <;> cases harity
      refine mono ?_ (Nat.le_add_left _ _)
      refine hcondition.bind fun x => ?_
      split
      · exact hyes.mono (Nat.le_add_right _ _)
      · exact hno.mono (by omega)
    | max =>
      obtain _ | ⟨ha, _ | ⟨hb, _ | _⟩⟩ := h <;> cases harity
      exact (ha.bind fun x => hb.bind fun y => pure _).mono (Nat.le_add_left _ _)
    | min =>
      obtain _ | ⟨ha, _ | ⟨hb, _ | _⟩⟩ := h <;> cases harity
      exact (ha.bind fun x => hb.bind fun y => pure _).mono (Nat.le_add_left _ _)
    | random =>
      obtain _ | ⟨ha, _ | ⟨hb, _ | _⟩⟩ := h <;> cases harity
      refine mono (ha.bind fun low => hb.bind fun high => draw.bind fun unit => pure _) ?_
      change _ ≤ 1 + _
      omega
  · rw [f.apply_of_length_ne u harity, f.apply_of_length_ne v (h.length_eq ▸ harity), h.length_eq]
    exact (throw _).mono (Nat.zero_le _)

end EndAlike

mutual

lemma sample_endAlike {s t : Scope} (e : Expr)
    (h : ∀ name ∈ e.variables, s.value name = t.value name) :
    EndAlike s.unit t.unit e.randomCalls (e.sample s) (e.sample t) := by
  cases e with
  | number x => exact .pure x
  | var name =>
    rw [Expr.sample, Expr.sample, h name (List.mem_singleton_self name)]
    exact .pure _
  | binary op left right =>
    obtain ⟨hleft, hright⟩ := List.forall_mem_append.mp h
    exact .combine op (sample_endAlike left hleft) (sample_endAlike right hright)
  | call f args => exact .apply f (samples_endAlike args h)

lemma samples_endAlike {s t : Scope} (es : List Expr)
    (h : ∀ name ∈ Expr.variablesOf es, s.value name = t.value name) :
    EndAlike.All s.unit t.unit (Expr.randomCallsOf es) (Expr.samples s es) (Expr.samples t es) := by
  cases es with
  | nil => exact .nil
  | cons e es =>
    obtain ⟨hfirst, hrest⟩ := List.forall_mem_append.mp h
    exact .cons (sample_endAlike e hfirst) (samples_endAlike es hrest)

end

lemma evaluate_congr {s t : Scope} {e : Expr}
    (hvalues : ∀ name ∈ e.variables, s.value name = t.value name) (hunit : s.unit = t.unit)
    (n : Nat) : e.evaluate s n = e.evaluate t n := by
  obtain ⟨result, k, -, hs, ht⟩ := sample_endAlike e hvalues n n fun k _ => by rw [hunit]
  exact hs.trans ht.symm

def Succeeds {α : Type} (x : Sampling α) : Prop := ∀ n, ∃ a m, x.run.run n = (.ok a, m)

namespace Succeeds

variable {α β : Type}

lemma pure (a : α) : Succeeds (Pure.pure a) := fun n => ⟨a, n, rfl⟩

lemma draw (unit : Nat → Float) : Succeeds (Formula.draw unit) := fun n => ⟨unit n, n + 1, rfl⟩

lemma bind {x : Sampling α} {f : α → Sampling β} (hx : Succeeds x) (hf : ∀ a, Succeeds (f a)) :
    Succeeds (x >>= f) := by
  intro n
  obtain ⟨a, m, ha⟩ := hx n
  obtain ⟨b, k, hb⟩ := hf a m
  refine ⟨b, k, ?_⟩
  rw [run_bind, ha]
  exact hb

lemma combine (op : Operator) {left right : Sampling Float} (hleft : Succeeds left)
    (hright : Succeeds right) : Succeeds (op.combine left right) := by
  refine hleft.bind fun x => ?_
  split
  · exact pure x
  · exact hright.bind fun y => pure _

lemma apply (f : Builtin) (unit : Nat → Float) {args : List (Sampling Float)}
    (harity : args.length = f.arity) (h : ∀ x ∈ args, Succeeds x) :
    Succeeds (f.apply unit args) := by
  cases f with
  | choose =>
    obtain ⟨condition, yes, no, rfl⟩ := List.length_eq_three.mp harity
    simp only [List.forall_mem_cons] at h
    obtain ⟨hcondition, hyes, hno, -⟩ := h
    refine hcondition.bind fun x => ?_
    split
    · exact hyes
    · exact hno
  | max =>
    obtain ⟨a, b, rfl⟩ := List.length_eq_two.mp harity
    simp only [List.forall_mem_cons] at h
    exact h.1.bind fun x => h.2.1.bind fun y => pure _
  | min =>
    obtain ⟨a, b, rfl⟩ := List.length_eq_two.mp harity
    simp only [List.forall_mem_cons] at h
    exact h.1.bind fun x => h.2.1.bind fun y => pure _
  | random =>
    obtain ⟨a, b, rfl⟩ := List.length_eq_two.mp harity
    simp only [List.forall_mem_cons] at h
    exact h.1.bind fun low => h.2.1.bind fun high => (draw unit).bind fun u => pure _

end Succeeds

lemma length_samples (s : Scope) (es : List Expr) : (Expr.samples s es).length = es.length := by
  induction es with
  | nil => rfl
  | cons e es ih => exact congrArg (· + 1) ih

mutual

lemma sample_succeeds (s : Scope) {e : Expr} (h : e.Saturated) : Succeeds (e.sample s) := by
  cases e with
  | number x => exact .pure x
  | var name => exact .pure (s.value name)
  | binary op left right =>
    exact .combine op (sample_succeeds s h.1) (sample_succeeds s h.2)
  | call f args =>
    obtain ⟨harity, hargs⟩ := h
    exact .apply f s.unit ((length_samples s args).trans harity) (samples_succeed s hargs)

lemma samples_succeed (s : Scope) {es : List Expr} (h : Expr.AllSaturated es) :
    ∀ x ∈ Expr.samples s es, Succeeds x := by
  cases es with
  | nil => exact List.forall_mem_nil _
  | cons e es =>
    exact List.forall_mem_cons.mpr ⟨sample_succeeds s h.1, samples_succeed s h.2⟩

end

/-- Scopes that agree on the names of a formula and on the samples to come give one result, with the
same number of samples taken from each. -/
theorem variables_determine_value (e : Expr) :
    (∀ (s t : Scope) (m n : Nat), (∀ name ∈ e.variables, s.value name = t.value name) →
      (∀ k < e.randomCalls, s.unit (m + k) = t.unit (n + k)) →
      ∃ result, ∃ k ≤ e.randomCalls,
        e.evaluate s m = (result, m + k) ∧ e.evaluate t n = (result, n + k)) ∧
    (e.Saturated → ∀ s n, ∃ x, (e.evaluate s n).1 = .ok x) := by
  constructor
  · intro s t m n hvalues hdraws
    exact sample_endAlike e hvalues m n hdraws
  · intro h s n
    obtain ⟨x, k, hx⟩ := sample_succeeds s h n
    exact ⟨x, congrArg Prod.fst hx⟩

def blow : Expr := .call .random [.number 1, .var "strength"]

def untouched : Scope where
  value _ := 7
  unit _ := 0.5

def weary : Scope where
  value name := if name = "strength" then 7 else 0
  unit k := if k < 3 then 0 else 0.5

theorem variables_determine_value_blow :
    (∀ name ∈ blow.variables, weary.value name = untouched.value name) ∧
      (∀ k < blow.randomCalls, weary.unit (3 + k) = untouched.unit (0 + k)) ∧ blow.Saturated ∧
      ∃ x, ∃ k ≤ 1, blow.evaluate weary 3 = (.ok x, 3 + k) ∧
        blow.evaluate untouched 0 = (.ok x, 0 + k) := by
  obtain ⟨halike, hok⟩ := variables_determine_value blow
  have hvalues : ∀ name ∈ blow.variables, weary.value name = untouched.value name := by
    intro name hname
    rw [show blow.variables = ["strength"] from rfl, List.mem_singleton] at hname
    exact if_pos hname
  have hdraws : ∀ k < blow.randomCalls, weary.unit (3 + k) = untouched.unit (0 + k) :=
    fun k _ => if_neg (Nat.not_lt.mpr (Nat.le_add_right 3 k))
  have hcalls : blow.Saturated := ⟨rfl, trivial, trivial, trivial⟩
  obtain ⟨result, k, hk, hweary, huntouched⟩ := halike _ _ 3 0 hvalues hdraws
  obtain ⟨x, hx⟩ := hok hcalls weary 3
  rw [hweary] at hx
  cases hx
  exact ⟨hvalues, hdraws, hcalls, x, k, hk, hweary, huntouched⟩

end DerivedStats.Formula
