import DerivedStats.Proofs.Lifecycle.Passes

/-! A component that fails is reported, and no other component is concerned. -/

namespace DerivedStats.Lifecycle

variable {n : ℕ} {α : Fin n → Type}

lemma Pass.failure?_eq_none {σ : Type} {p : Pass σ} : p.failure? = none ↔ p.failures = [] := by
  rw [Pass.failure?, Option.map_eq_none_iff, List.head?_eq_none_iff]

lemma filterMap_middle {β γ : Type} (f : β → Option γ) (front back : List β) (b : β) :
    (front ++ b :: back).filterMap f =
      front.filterMap f ++ (f b).toList ++ back.filterMap f := by
  rw [List.filterMap_append, List.filterMap_cons]
  cases f b <;> simp

section Account

variable (cs : ∀ i, Component (α i)) (phase : Phase) (w : World α)

structure Accounted (p : Pass (World α)) : Prop where
  calls : p.state.calls = w.calls ++ (order n phase).map fun i => (i, (cs i).method phase)
  states : ∀ i, p.state.states i = ((cs i).answer phase (w.states i)).state
  failures : p.failures = (order n phase).filterMap fun i => (cs i).fault? phase (w.states i)
  restarted : phase = .reload → ∀ i, (cs i).reload = none →
    (i, .init) ∈ p.state.calls.drop w.calls.length ∧
    p.state.states i = ((cs i).init (w.states i)).state ∧
    ∀ f, ((cs i).init (w.states i)).failure = some f → ⟨(cs i).name, .reload, f⟩ ∈ p.failures
  success : p.failure? = none ↔ ∀ i, ((cs i).answer phase (w.states i)).failure = none
  first : ∀ front i back f, order n phase = front ++ i :: back →
    (∀ k ∈ front, ((cs k).answer phase (w.states k)).failure = none) →
    ((cs i).answer phase (w.states i)).failure = some f →
      p.failure? = some (.lifecycle (cs i).name s!"{phase.name} failed: {f.message}")

lemma accounted : Accounted cs phase w (passAll phase (registered cs) w) := by
  rw [passAll_registered]
  have hcalls := calls_pass cs phase (order n phase) w
  have hstates := fun i => states_pass_of_mem cs phase (nodup_order phase) (mem_order i phase) w
  have hfailures := failures_pass cs phase (nodup_order phase) w
  refine ⟨hcalls, hstates, hfailures, ?restarted, ?success, ?first⟩
  case restarted =>
    rintro rfl i hi
    have hanswer := Component.answer_of_reload_eq_none hi (w.states i)
    rw [hcalls, List.drop_left, hstates, hfailures, hanswer]
    refine ⟨List.mem_map.mpr ⟨i, mem_order i _, ?_⟩, rfl, fun f hf => ?_⟩
    · rw [Component.method_of_reload_eq_none hi]
    · apply List.mem_filterMap.mpr
      refine ⟨i, mem_order i _, ?_⟩
      rw [Component.fault?, hanswer, hf]
      rfl
  case success =>
    rw [Pass.failure?_eq_none, hfailures, List.filterMap_eq_nil_iff]
    simp only [Component.fault?_eq_none, mem_order, true_imp_iff]
  case first =>
    intro front i back f horder hfront hf
    have hnone : front.filterMap (fun k => (cs k).fault? phase (w.states k)) = [] := by
      rw [List.filterMap_eq_nil_iff]
      exact fun k hk => Component.fault?_eq_none.mpr (hfront k hk)
    rw [Pass.failure?, hfailures, horder, List.filterMap_append, hnone, List.filterMap_cons,
      Component.fault?, hf]
    rfl

end Account

/-- Worlds that only component `j` tells apart. -/
structure Agree (j : Fin n) (w v : World α) : Prop where
  states : ∀ i ≠ j, v.states i = w.states i
  called : v.calls.map Prod.fst = w.calls.map Prod.fst
  calls : v.calls.filter (·.1 ≠ j) = w.calls.filter (·.1 ≠ j)

namespace Agree

variable {j : Fin n} {w v : World α} (h : Agree j w v)

include h

section Step

variable {cs ds : ∀ i, Component (α i)} (hsame : ∀ i ≠ j, ds i = cs i) (phase : Phase)

include hsame

lemma passAll : Agree j (passAll phase (registered cs) w).state
    (passAll phase (registered ds) v).state := by
  have hw := accounted cs phase w
  have hv := accounted ds phase v
  refine ⟨fun i hi => ?states, ?called, ?calls⟩
  case states => rw [hv.states, hw.states, hsame i hi, h.states i hi]
  case called => simp [hv.calls, hw.calls, h.called, Function.comp_def]
  case calls =>
    -- whoever is called in front of `j` or behind it, has the same method run
    have hothers : ∀ i ∈ (order n phase).filter (· ≠ j),
        (i, (ds i).method phase) = (i, (cs i).method phase) := by
      intro i hi
      rw [hsame i (of_decide_eq_true (List.mem_filter.mp hi).2)]
    rw [hv.calls, hw.calls, List.filter_append, List.filter_append, h.calls, List.filter_map,
      List.filter_map]
    exact congrArg _ (List.map_congr_left hothers)

lemma failures_passAll : ∃ front back,
    (Lifecycle.passAll phase (registered cs) w).failures =
      front ++ ((cs j).fault? phase (w.states j)).toList ++ back ∧
    (Lifecycle.passAll phase (registered ds) v).failures =
      front ++ ((ds j).fault? phase (v.states j)).toList ++ back := by
  obtain ⟨front, back, horder⟩ := List.append_of_mem (mem_order j phase)
  have hnodup := nodup_order (n := n) phase
  rw [horder, List.nodup_middle, List.nodup_cons] at hnodup
  have hothers : ∀ i ∈ front ++ back,
      (ds i).fault? phase (v.states i) = (cs i).fault? phase (w.states i) := by
    intro i hi
    have hne : i ≠ j := ne_of_mem_of_not_mem hi hnodup.1
    rw [hsame i hne, h.states i hne]
  obtain ⟨hfront, hback⟩ := List.forall_mem_append.mp hothers
  refine ⟨front.filterMap fun i => (cs i).fault? phase (w.states i),
    back.filterMap fun i => (cs i).fault? phase (w.states i), ?_, ?_⟩
  · rw [(accounted cs phase w).failures, horder, filterMap_middle]
  · rw [(accounted ds phase v).failures, horder, filterMap_middle, List.filterMap_congr hfront,
      List.filterMap_congr hback]

end Step

lemma after {cs ds : Config → ∀ i, Component (α i)}
    (hsame : ∀ config, ∀ i ≠ j, ds config i = cs config i) (passes : List (Config × Phase)) :
    Agree j (w.after cs passes) (v.after ds passes) := by
  induction passes generalizing w v with
  | nil => exact h
  | cons p passes ih => exact ih (h.passAll (hsame p.1) p.2)

end Agree

/-- Each pass in a sequence calls every component once, reports the failures of these calls and
names the first; a component that fails where it did not before concerns no other. The engine that
is enabled or shut down is the same for every storage, but for that storage. -/
theorem failures_isolated :
    (∀ (n : ℕ) (α : Fin n → Type) (cs : Config → ∀ i, Component (α i)) (w : World α)
        (passes : List (Config × Phase)) (config : Config) (phase : Phase),
      let now := w.after cs passes
      let p := passAll phase (registered (cs config)) now
      Accounted (cs config) phase now p ∧
      ∀ j ds v, (∀ config, ∀ i ≠ j, ds config i = cs config i) → Agree j w v →
        let now' := v.after ds passes
        let p' := passAll phase (registered (ds config)) now'
        Agree j p.state p'.state ∧
        ∃ front back,
          p.failures = front ++ ((cs config j).fault? phase (now.states j)).toList ++ back ∧
          p'.failures = front ++ ((ds config j).fault? phase (now'.states j)).toList ++ back) ∧
    ∀ (e : Engine) (storage : Roster.Storage),
      let other : Engine := { e with roster.storage := storage }
      other.enable.state =
        { e.enable.state with roster.storage := other.enable.state.roster.storage } ∧
      other.shutdown.state =
        { e.shutdown.state with roster.storage := other.shutdown.state.roster.storage } := by
  refine ⟨fun n α cs w passes config phase => ?passes, fun e storage => ?engine⟩
  case passes =>
    refine ⟨accounted .., fun j ds v hsame h => ?_⟩
    have hnow := h.after hsame passes
    exact ⟨hnow.passAll (hsame config) phase, hnow.failures_passAll (hsame config) phase⟩
  case engine =>
    dsimp only
    rw [Engine.enable_state, Engine.enable_state, Engine.shutdown_state, Engine.shutdown_state,
      Engine.init_storage]
    exact ⟨rfl, rfl⟩

def counter (name : String) (fails : Bool) : Component ℕ where
  name := name
  init s := ⟨s + 1, [], if fails then some (.configuration "boom") else none⟩
  reload := none
  shutdown s := ⟨s, [], if fails then some (.storage "stuck") else none⟩

def trio (fails : Bool) (_ : Config) : Fin 3 → Component ℕ
  | 0 => counter "a" false
  | 1 => counter "b" fails
  | 2 => { counter "c" false with reload := some fun s => ⟨s, [], some (.configuration "late")⟩ }

theorem failures_isolated_trio :
    let w : World fun _ : Fin 3 => ℕ := ⟨fun _ => 0, []⟩
    let pass (fails : Bool) (phase : Phase) := passAll phase (registered (trio fails .empty))
      (w.after (trio fails) [(.empty, .shutdown)])
    (pass true .init).failures = [⟨"b", .init, .configuration "boom"⟩] ∧
    (pass true .reload).failures =
      [⟨"b", .reload, .configuration "boom"⟩, ⟨"c", .reload, .configuration "late"⟩] ∧
    (pass true .shutdown).failures = [⟨"b", .shutdown, .storage "stuck"⟩] ∧
    (pass true .init).failure? =
      some (.lifecycle "b" "init failed: Configuration error: boom") ∧
    (pass true .reload).failure? =
      some (.lifecycle "b" "reload failed: Configuration error: boom") ∧
    (pass true .shutdown).failure? =
      some (.lifecycle "b" "shutdown failed: Storage error: stuck") ∧
    (pass false .init).failure? = none ∧
    (1, .init) ∈ (pass true .reload).state.calls.drop 3 ∧
    Agree 1 (pass true .reload).state (pass false .reload).state := by
  intro w pass
  have hpass (fails : Bool) (phase : Phase) :=
    failures_isolated.1 3 (fun _ => ℕ) (trio fails) w [(.empty, .shutdown)] .empty phase
  have hfirst (phase : Phase) := (hpass true phase).1.first
  have hsuccess : (pass false .init).failure? = none := by
    refine (hpass false .init).1.success.mpr fun i => ?_
    match i with
    | 0 | 1 | 2 => rfl
  have hsame : ∀ config, ∀ i ≠ 1, trio false config i = trio true config i := by
    intro config i hi
    match i with
    | 0 | 2 => rfl
    | 1 => exact absurd rfl hi
  obtain ⟨haccounted, hothers⟩ := hpass true .reload
  obtain ⟨hagree, -⟩ := hothers 1 (trio false) w hsame ⟨fun _ _ => rfl, rfl, rfl⟩
  refine ⟨(hpass true .init).1.failures.trans (by decide +kernel),
    haccounted.failures.trans (by decide +kernel),
    (hpass true .shutdown).1.failures.trans (by decide +kernel), ?_, ?_, ?_, hsuccess,
    (haccounted.restarted rfl 1 rfl).1, hagree⟩
  · exact (hfirst .init [0] 1 [2] _ rfl (by decide) rfl).trans (by decide +kernel)
  · exact (hfirst .reload [0] 1 [2] _ rfl (by decide) rfl).trans (by decide +kernel)
  · exact (hfirst .shutdown [2] 1 [0] _ rfl (by decide) rfl).trans (by decide +kernel)

end DerivedStats.Lifecycle
