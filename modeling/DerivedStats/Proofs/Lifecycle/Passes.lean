import DerivedStats.Proofs.Engine.Operations
import Mathlib.Data.List.FinRange
import Mathlib.Logic.Function.Basic

/-! Passes over components that keep their states apart, with a note of every call. -/

namespace DerivedStats.Lifecycle

variable {σ : Type}

namespace Component

def method (c : Component σ) : Phase → Phase
  | .reload => if c.reload.isSome then .reload else .init
  | phase => phase

def answer (c : Component σ) : Phase → σ → Step σ
  | .init, s => c.init s
  | .reload, s =>
    match c.reload with
    | some reload => reload s
    | none => c.init s
  | .shutdown, s => c.shutdown s

def fault? (c : Component σ) (phase : Phase) (s : σ) : Option PhaseFailure :=
  (c.answer phase s).failure.map fun f => ⟨c.name, phase, f⟩

lemma fault?_eq_none {c : Component σ} {phase : Phase} {s : σ} :
    c.fault? phase s = none ↔ (c.answer phase s).failure = none :=
  Option.map_eq_none_iff

lemma call_eq (c : Component σ) (phase : Phase) : c.call phase = c.answer phase := by
  funext s
  cases phase with
  | init | shutdown => rfl
  | reload =>
    rw [call, answer]
    cases c.reload <;> rfl

lemma method_of_reload_eq_none {c : Component σ} (h : c.reload = none) :
    c.method .reload = .init := by
  rw [method, h]
  rfl

lemma answer_of_reload_eq_none {c : Component σ} (h : c.reload = none) (s : σ) :
    c.answer .reload s = c.init s := by
  rw [answer, h]

end Component

lemma pass_failures_cons (phase : Phase) (c : Component σ) (cs : List (Component σ)) (s : σ) :
    (pass phase (c :: cs) s).failures =
      (c.fault? phase s).toList ++ (pass phase cs (c.answer phase s).state).failures := by
  rw [pass, Component.fault?, Component.call_eq]
  cases (c.answer phase s).failure <;> rfl

def passAll : Phase → List (Component σ) → σ → Pass σ
  | .init => initAll
  | .reload => reloadAll
  | .shutdown => shutdownAll

variable {n : ℕ} {α : Fin n → Type}

structure World (α : Fin n → Type) where
  states : ∀ i, α i
  calls : List (Fin n × Phase)

def noted (i : Fin n) (method : Phase) (f : α i → Step (α i)) (w : World α) : Step (World α) :=
  let step := f (w.states i)
  ⟨⟨Function.update w.states i step.state, w.calls ++ [(i, method)]⟩, step.notices, step.failure⟩

def installed (i : Fin n) (c : Component (α i)) : Component (World α) where
  name := c.name
  init := noted i .init c.init
  reload := c.reload.map (noted i .reload)
  shutdown := noted i .shutdown c.shutdown

lemma answer_installed (i : Fin n) (c : Component (α i)) (phase : Phase) (w : World α) :
    (installed i c).answer phase w = noted i (c.method phase) (c.answer phase) w := by
  cases phase with
  | init | shutdown => rfl
  | reload =>
    rw [Component.answer, installed, Component.method]
    cases hreload : c.reload with
    | none =>
      simp only [Option.map_none, noted, Component.answer, hreload]
      rfl
    | some reload =>
      simp only [Option.map_some, noted, Component.answer, hreload]
      rfl

lemma fault?_installed (i : Fin n) (c : Component (α i)) (phase : Phase) (w : World α) :
    (installed i c).fault? phase w = c.fault? phase (w.states i) := by
  rw [Component.fault?, answer_installed]
  rfl

lemma states_answer_installed {i k : Fin n} (h : i ≠ k) (c : Component (α k)) (phase : Phase)
    (w : World α) : ((installed k c).answer phase w).state.states i = w.states i := by
  rw [answer_installed]
  exact Function.update_of_ne h ..

def registered (cs : ∀ i, Component (α i)) : List (Component (World α)) :=
  (List.finRange n).map fun i => installed i (cs i)

def order (n : ℕ) : Phase → List (Fin n)
  | .init | .reload => List.finRange n
  | .shutdown => (List.finRange n).reverse

lemma nodup_order (phase : Phase) : (order n phase).Nodup := by
  cases phase with
  | init | reload => exact List.nodup_finRange n
  | shutdown => exact List.nodup_reverse.mpr (List.nodup_finRange n)

lemma mem_order (i : Fin n) (phase : Phase) : i ∈ order n phase := by
  cases phase with
  | init | reload => exact List.mem_finRange i
  | shutdown => exact List.mem_reverse.mpr (List.mem_finRange i)

variable (cs : ∀ i, Component (α i)) (phase : Phase)

lemma passAll_registered (w : World α) :
    passAll phase (registered cs) w =
      pass phase ((order n phase).map fun i => installed i (cs i)) w := by
  cases phase with
  | init | reload => rfl
  | shutdown =>
    rw [order, List.map_reverse]
    rfl

lemma calls_pass (is : List (Fin n)) (w : World α) :
    (pass phase (is.map fun i => installed i (cs i)) w).state.calls =
      w.calls ++ is.map fun i => (i, (cs i).method phase) := by
  induction is generalizing w with
  | nil => exact (List.append_nil _).symm
  | cons i is ih =>
    rw [List.map_cons, pass_state_cons, Component.call_eq, ih, answer_installed, List.map_cons]
    exact List.append_assoc ..

variable {is : List (Fin n)}

lemma states_pass_of_notMem {i : Fin n} (h : i ∉ is) (w : World α) :
    (pass phase (is.map fun i => installed i (cs i)) w).state.states i = w.states i := by
  induction is generalizing w with
  | nil => rfl
  | cons k is ih =>
    rw [List.mem_cons, not_or] at h
    rw [List.map_cons, pass_state_cons, ih h.2, Component.call_eq, states_answer_installed h.1]

lemma states_pass_of_mem (hnodup : is.Nodup) {i : Fin n} (h : i ∈ is) (w : World α) :
    (pass phase (is.map fun i => installed i (cs i)) w).state.states i =
      ((cs i).answer phase (w.states i)).state := by
  induction is generalizing w with
  | nil => exact absurd h List.not_mem_nil
  | cons k is ih =>
    obtain ⟨hk, hrest⟩ := List.nodup_cons.mp hnodup
    rw [List.map_cons, pass_state_cons, Component.call_eq]
    obtain rfl | hi := List.mem_cons.mp h
    · rw [states_pass_of_notMem _ _ hk, answer_installed]
      exact Function.update_self ..
    · rw [ih hrest hi, states_answer_installed (ne_of_mem_of_not_mem hi hk)]

lemma failures_pass (hnodup : is.Nodup) (w : World α) :
    (pass phase (is.map fun i => installed i (cs i)) w).failures =
      is.filterMap fun i => (cs i).fault? phase (w.states i) := by
  induction is generalizing w with
  | nil => rfl
  | cons k is ih =>
    obtain ⟨hk, hrest⟩ := List.nodup_cons.mp hnodup
    -- the components after this one find their states as they were before it was called
    have hlater : ∀ i ∈ is, (cs i).fault? phase
        (((installed k (cs k)).answer phase w).state.states i) =
          (cs i).fault? phase (w.states i) := by
      intro i hi
      rw [states_answer_installed (ne_of_mem_of_not_mem hi hk)]
    rw [List.map_cons, pass_failures_cons, ih hrest, List.filterMap_congr hlater,
      fault?_installed, List.filterMap_cons]
    cases (cs k).fault? phase (w.states k) <;> rfl

def World.after (cs : Config → ∀ i, Component (α i)) (w : World α)
    (passes : List (Config × Phase)) : World α :=
  passes.foldl (fun w (config, phase) => (passAll phase (registered (cs config)) w).state) w

end DerivedStats.Lifecycle
