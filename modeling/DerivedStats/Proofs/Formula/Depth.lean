import DerivedStats.Formula.Evaluate
import DerivedStats.Proofs.Formula.CompileSound

/-! How deep the tree of a compiled formula is. The compiler bounds the levels and the operators of
the text; with a call taking two levels these bound the nodes between the root and a leaf. -/

namespace DerivedStats.Formula

namespace Expr

inductive Path : Expr → List Expr → Prop
  | number (value : Float) : Path (.number value) [.number value]
  | var (name : String) : Path (.var name) [.var name]
  | left (op : Operator) {x : Expr} (y : Expr) {path : List Expr} : Path x path →
      Path (.binary op x y) (.binary op x y :: path)
  | right (op : Operator) (x : Expr) {y : Expr} {path : List Expr} : Path y path →
      Path (.binary op x y) (.binary op x y :: path)
  | empty (f : Builtin) : Path (.call f []) [.call f []]
  | argument (f : Builtin) {args : List Expr} {x : Expr} {path : List Expr} : x ∈ args →
      Path x path → Path (.call f args) (.call f args :: path)

def isCall : Expr → Bool
  | .call _ _ => true
  | _ => false

def callCount (path : List Expr) : ℕ := path.countP isCall

@[simp] lemma callCount_number (value : Float) : callCount [.number value] = 0 := rfl

@[simp] lemma callCount_var (name : String) : callCount [.var name] = 0 := rfl

@[simp] lemma callCount_binary (op : Operator) (x y : Expr) (path : List Expr) :
    callCount (.binary op x y :: path) = callCount path := List.countP_cons_of_neg (by simp [isCall])

@[simp] lemma callCount_call (f : Builtin) (args path : List Expr) :
    callCount (.call f args :: path) = callCount path + 1 := List.countP_cons_of_pos rfl

@[simp] lemma callCount_nil : callCount [] = 0 := rfl

/-- Evaluation that calls itself no more than `n` deep, and is given up where this is too little. -/
def sampleWithin (s : Scope) : ℕ → Expr → Option (Sampling Float)
  | 0, _ => none
  | _ + 1, .number x => some (return x)
  | _ + 1, .var name => some (return s.value name)
  | n + 1, .binary op left right => do
    return op.combine (← left.sampleWithin s n) (← right.sampleWithin s n)
  | n + 1, .call f args => do return f.apply s.unit (← args.mapM (sampleWithin s n))

def variablesWithin : ℕ → Expr → Option (List String)
  | 0, _ => none
  | _ + 1, .number _ => some []
  | _ + 1, .var name => some [name]
  | n + 1, .binary _ left right => do
    return (← left.variablesWithin n) ++ (← right.variablesWithin n)
  | n + 1, .call _ args => do return (← args.mapM (variablesWithin n)).flatten

def Within (n : ℕ) (e : Expr) : Prop := ∀ path, e.Path path → path.length ≤ n

lemma exists_path : ∀ e : Expr, ∃ path, e.Path path
  | .number value => ⟨_, .number value⟩
  | .var name => ⟨_, .var name⟩
  | .binary op x y => by
    obtain ⟨path, hpath⟩ := exists_path x
    exact ⟨_, .left op y hpath⟩
  | .call f [] => ⟨_, .empty f⟩
  | .call f (x :: args) => by
    obtain ⟨path, hpath⟩ := exists_path x
    exact ⟨_, .argument f List.mem_cons_self hpath⟩

lemma Path.length_pos {e : Expr} {path : List Expr} (h : e.Path path) : 0 < path.length := by
  cases h <;> exact Nat.succ_pos _

lemma not_within_zero (e : Expr) : ¬ e.Within 0 := by
  intro h
  obtain ⟨path, hpath⟩ := e.exists_path
  exact absurd (h path hpath) (by have := hpath.length_pos; omega)

lemma Within.left {n : ℕ} {op : Operator} {x y : Expr} (h : (binary op x y).Within (n + 1)) :
    x.Within n := by
  intro path hpath
  exact Nat.le_of_succ_le_succ (h _ (.left op y hpath))

lemma Within.right {n : ℕ} {op : Operator} {x y : Expr} (h : (binary op x y).Within (n + 1)) :
    y.Within n := by
  intro path hpath
  exact Nat.le_of_succ_le_succ (h _ (.right op x hpath))

lemma Within.argument {n : ℕ} {f : Builtin} {args : List Expr} (h : (call f args).Within (n + 1)) :
    ∀ x ∈ args, x.Within n := by
  intro x hx path hpath
  exact Nat.le_of_succ_le_succ (h _ (.argument f hx hpath))

lemma samples_eq_map (s : Scope) (args : List Expr) : samples s args = args.map (sample s) := by
  induction args with
  | nil => rfl
  | cons e es ih => simp [samples, ih]

lemma variablesOf_eq_flatten (args : List Expr) :
    variablesOf args = (args.map Expr.variables).flatten := by
  induction args with
  | nil => rfl
  | cons e es ih => simp [variablesOf, ih]

lemma mapM_eq_some {α β : Type} {f : α → Option β} {g : α → β} {xs : List α}
    (h : ∀ x ∈ xs, f x = some (g x)) : xs.mapM f = some (xs.map g) := by
  induction xs with
  | nil => rfl
  | cons x xs ih =>
    obtain ⟨hx, hxs⟩ := List.forall_mem_cons.mp h
    simp [List.mapM_cons, hx, ih hxs]

lemma Within.sampleWithin {n : ℕ} {e : Expr} (h : e.Within n) (s : Scope) :
    e.sampleWithin s n = some (e.sample s) := by
  induction n generalizing e with
  | zero => exact (not_within_zero e h).elim
  | succ n ih =>
    cases e with
    | number x => simp [Expr.sampleWithin, sample]
    | var name => simp [Expr.sampleWithin, sample]
    | binary op x y => simp [Expr.sampleWithin, sample, ih h.left, ih h.right]
    | call f args =>
      have hargs := mapM_eq_some fun x hx => ih (h.argument x hx)
      simp [Expr.sampleWithin, sample, hargs, samples_eq_map]

lemma Within.variablesWithin {n : ℕ} {e : Expr} (h : e.Within n) :
    e.variablesWithin n = some e.variables := by
  induction n generalizing e with
  | zero => exact (not_within_zero e h).elim
  | succ n ih =>
    cases e with
    | number x => simp [Expr.variablesWithin, Expr.variables]
    | var name => simp [Expr.variablesWithin, Expr.variables]
    | binary op x y => simp [Expr.variablesWithin, Expr.variables, ih h.left, ih h.right]
    | call f args =>
      have hargs := mapM_eq_some fun x hx => ih (h.argument x hx)
      simp [Expr.variablesWithin, Expr.variables, hargs, variablesOf_eq_flatten]

lemma operatorCount_le_of_mem {x : Expr} {args : List Expr} (h : x ∈ args) :
    x.operatorCount ≤ operatorCountOf args := by
  induction args with
  | nil => cases h
  | cons y args ih =>
    rw [operatorCountOf]
    rcases List.mem_cons.mp h with rfl | h
    · exact Nat.le_add_right _ _
    · exact (ih h).trans (Nat.le_add_left _ _)

end Expr

namespace Grammar

def Category.calls (n : ℕ) : Category → ℕ
  | .primary => (n + 1) / 2
  | _ => n / 2

def Category.spine (n : ℕ) : Category → ℕ
  | .primary => n / 2 + 1
  | _ => (n + 1) / 2

lemma Category.calls_operand (n : ℕ) (r : Rank) : r.operand.calls n = n / 2 := by
  cases r <;> rfl

lemma Category.spine_operand (n : ℕ) (r : Rank) : r.operand.spine n = (n + 1) / 2 := by
  cases r <;> rfl

lemma Derives.path_bounds {n : ℕ} {c : Category} {ts : List Token} {x : Expr}
    (h : Derives n c ts x) {path : List Expr} (hpath : x.Path path) :
    Expr.callCount path ≤ c.calls n ∧ path.length ≤ x.operatorCount + c.spine n := by
  induction h generalizing path with
  | operand _ ih =>
    rw [Category.calls_operand, Category.spine_operand] at ih
    exact ih hpath
  | join _ _ _ ihx ihy =>
    rw [Category.calls_operand, Category.spine_operand] at ihy
    simp only [Category.calls, Category.spine, Expr.operatorCount] at ihx ⊢
    cases hpath with
    | left _ _ hpath =>
      obtain ⟨hcalls, hlength⟩ := ihx hpath
      rw [Expr.callCount_binary, List.length_cons]
      omega
    | right _ _ hpath =>
      obtain ⟨hcalls, hlength⟩ := ihy hpath
      rw [Expr.callCount_binary, List.length_cons]
      omega
  | plus _ ih | unsigned _ ih | group _ ih =>
    obtain ⟨hcalls, hlength⟩ := ih hpath
    simp only [Category.calls, Category.spine] at hcalls hlength ⊢
    omega
  | minus _ ih =>
    simp only [Category.calls, Category.spine, Expr.operatorCount] at ih ⊢
    cases hpath with
    | left _ _ hpath =>
      cases hpath
      simp only [Expr.callCount_binary, Expr.callCount_number, List.length_cons, List.length_nil]
      omega
    | right _ _ hpath =>
      obtain ⟨hcalls, hlength⟩ := ih hpath
      rw [Expr.callCount_binary, List.length_cons]
      omega
  | number _ | delimited _ | name =>
    cases hpath
    simp [Category.calls, Category.spine, Expr.operatorCount]
  | @call n f cs args _ _ ih =>
    simp only [Category.calls, Category.spine, Expr.operatorCount] at ih ⊢
    generalize hargs : args.map Prod.snd = xs at hpath
    cases hpath with
    | empty _ =>
      simp only [Expr.callCount_call, Expr.callCount_nil, List.length_cons, List.length_nil]
      omega
    | argument _ hmem hpath =>
      have hcount := Expr.operatorCount_le_of_mem hmem
      rw [← hargs] at hmem
      obtain ⟨a, ha, rfl⟩ := List.mem_map.mp hmem
      obtain ⟨hcalls, hlength⟩ := ih a ha hpath
      rw [Expr.callCount_call, List.length_cons]
      omega

/-- A compiled formula has at most 1024 operators, no more than 128 calls inside one another and no
path of more than 1152 nodes; so neither its evaluation nor the listing of its names calls itself
deeper than that. -/
theorem compile_bounded {text : String} {e : Expr} (h : compile text = .ok e) :
    e.operatorCount ≤ 1024 ∧
      (∀ path, e.Path path → Expr.callCount path ≤ 128 ∧ path.length ≤ 1152) ∧
      (∀ s, e.sampleWithin s 1152 = some (e.sample s)) ∧
      e.variablesWithin 1152 = some e.variables := by
  obtain ⟨ts, -, hderives, hcount⟩ := compile_sound h
  have hpaths : ∀ path, e.Path path → Expr.callCount path ≤ 128 ∧ path.length ≤ 1152 := by
    intro path hpath
    have hbounds := hderives.path_bounds hpath
    simp only [Category.calls, Category.spine, nestingLimit] at hbounds
    exact ⟨hbounds.1, hbounds.2.trans (Nat.add_le_add_right hcount 128)⟩
  have hwithin : e.Within 1152 := fun path hpath => (hpaths path hpath).2
  exact ⟨hcount, hpaths, hwithin.sampleWithin, hwithin.variablesWithin⟩

theorem compile_bounded_nested :
    ∃ e, compile "max(-level, if(power > 1, min(), (%bonus% OR 2) * 3))" = .ok e ∧
      e.operatorCount ≤ 1024 ∧
      (∀ path, e.Path path → Expr.callCount path ≤ 128 ∧ path.length ≤ 1152) ∧
      (∀ s, e.sampleWithin s 1152 = some (e.sample s)) ∧
      e.variablesWithin 1152 = some e.variables := by
  have hcompiles :
      (compile "max(-level, if(power > 1, min(), (%bonus% OR 2) * 3))").isOk = true := by
    decide +kernel
  cases h : compile "max(-level, if(power > 1, min(), (%bonus% OR 2) * 3))" with
  | ok e => exact ⟨e, rfl, compile_bounded h⟩
  | error err =>
    rw [h] at hcompiles
    cases hcompiles

end Grammar

end DerivedStats.Formula
