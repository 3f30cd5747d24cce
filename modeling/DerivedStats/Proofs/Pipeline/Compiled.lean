import DerivedStats.Proofs.Pipeline.Isolation
import DerivedStats.Proofs.Pipeline.Lookups
import DerivedStats.Proofs.Table.Listing

/-! Runs of specs that compile: whatever the cache holds, every formula is found, and it fails only
because a call has a wrong number of arguments. -/

namespace DerivedStats.Pipeline

open Formula (Cache Context Section compile)

def Compiled (text : String) : Prop := ∃ e, compile text = .ok e

structure Spec.Compiles (spec : Spec) : Prop where
  definition : ∀ f ∈ spec.definition, Compiled f.2
  tools : ∀ f ∈ spec.tools, Compiled f.2
  flat : ∀ formulas, spec.calculate = .flat formulas → ∀ f ∈ formulas, Compiled f.2
  byMode : ∀ modes, spec.calculate = .byMode modes → ∀ m ∈ modes, ∀ f ∈ m.2, Compiled f.2

section

variable (setting : Setting) (owner : String) (spec : Spec) (i : Invocation) (s : Session)

inductive Reaches : Source → Table String Float → Session → Prop
  | definition {front back : Formulas} {name text : String} {bindings : Table String Float}
    {t : Session} (hentry : spec.definition = front ++ (name, text) :: back)
    (hreached : (bindAll setting i owner .definition front (Table.ofPairs i.bindings)).run s =
      (bindings, t)) : Reaches ⟨⟨owner, .definition, name⟩, name, text⟩ bindings t
  | tools {front back : Formulas} {name text : String} {defined bindings : Table String Float}
    {d t : Session} (hentry : spec.tools = front ++ (name, text) :: back)
    (hdefined : (bindAll setting i owner .definition spec.definition
      (Table.ofPairs i.bindings)).run s = (defined, d))
    (hreached : (bindAll setting i owner .tools front defined).run d = (bindings, t)) :
    Reaches ⟨⟨owner, .tools, name⟩, name, text⟩ bindings t
  | calculate {front back : Formulas} {name text : String} {p : Progress} {t : Session}
    (hentry : (spec.selected i).2 = front ++ (name, text) :: back)
    (hreached : (calculating setting owner spec i front).run s = (p, t)) :
    Reaches (spec.entrySource owner i (name, text)) p.bindings t

def ArityFault (bindings : Table String Float) (x : Source) : Prop :=
  ∃ e err, Resolves s.cache x e ∧
    (e.evaluate ((Context.mk setting.registry (i.entities s.profiles) bindings).scope setting.unit)
      s.drawn).1 = .error err

structure ArityOnly : Prop where
  found : ∀ x bindings t, Reaches setting owner spec i s x bindings t →
    ∃ e, (t.cache.fetch x.place x.text).1 = .ok e
  failing : ∀ x bindings t, Reaches setting owner spec i s x bindings t →
    ((evaluate setting i bindings x).run t).1 = none → ArityFault setting i t bindings x
  missing : ∀ f ∈ (spec.selected i).2,
    f.1 ∉ ((run setting owner spec i).run s).1.outputs.keys → ∃ bindings t,
      Reaches setting owner spec i s (spec.entrySource owner i f) bindings t ∧
        ArityFault setting i t bindings (spec.entrySource owner i f)

end

section

variable {setting : Setting} {owner : String} {spec : Spec} {i : Invocation} {s : Session}
  {x : Source} {bindings : Table String Float}

lemma Spec.Compiles.selected (h : spec.Compiles) : ∀ f ∈ (spec.selected i).2, Compiled f.2 := by
  have hmode : ∀ modes, spec.calculate = .byMode modes → ∀ mode found,
      Calculation.findMode? modes mode = some found → ∀ f ∈ found.2, Compiled f.2 :=
    fun modes hmodes mode found hfound =>
      h.byMode modes hmodes found (List.mem_of_find?_eq_some hfound)
  cases hselect : spec.calculate.select? i.resolvedMode with
  | none => simp [Spec.selected_eq, hselect]
  | some found =>
    rw [Spec.selected_eq, hselect]
    cases hcalculate : spec.calculate with
    | flat formulas =>
      rw [hcalculate] at hselect
      obtain rfl := Option.some.inj hselect
      exact h.flat formulas hcalculate
    | byMode modes =>
      rw [hcalculate] at hselect
      rcases Option.or_eq_some_iff.mp hselect with hfound | ⟨-, hfound⟩
      · exact hmode modes hcalculate _ _ hfound
      · exact hmode modes hcalculate _ _ hfound

lemma Spec.Compiles.lookups (h : spec.Compiles) :
    ∀ x ∈ spec.lookups owner i.resolvedMode, Compiled x.text := by
  have hselected := h.selected (i := i)
  simp only [Spec.lookups, List.forall_mem_append]
  refine ⟨⟨List.forall_mem_map.mpr h.definition, List.forall_mem_map.mpr h.tools⟩, ?_⟩
  rw [Spec.selected_eq] at hselected
  cases hselect : spec.calculate.select? i.resolvedMode with
  | none => exact List.forall_mem_nil _
  | some selected =>
    rw [hselect] at hselected
    exact List.forall_mem_map.mpr hselected

lemma Reaches.compiled {t : Session} (h : Reaches setting owner spec i s x bindings t)
    (hspec : spec.Compiles) : Compiled x.text := by
  cases h with
  | @definition front back name text _ _ hentry _ =>
    apply hspec.definition (name, text)
    rw [hentry]
    exact List.mem_append_cons_self
  | @tools front back name text _ _ _ _ hentry _ _ =>
    apply hspec.tools (name, text)
    rw [hentry]
    exact List.mem_append_cons_self
  | @calculate front back name text _ _ hentry _ =>
    apply hspec.selected (name, text)
    rw [hentry]
    exact List.mem_append_cons_self

lemma resolves_of_compiled (h : Compiled x.text) (c : Cache) : ∃ e, Resolves c x e := by
  obtain ⟨e, he⟩ := h
  cases hcached : c.get? x.place with
  | none => exact ⟨e, .inr ⟨hcached, he⟩⟩
  | some cached => exact ⟨cached, .inl hcached⟩

lemma arityFault_of_compiled (h : Compiled x.text)
    (hnone : ((evaluate setting i bindings x).run s).1 = none) :
    ArityFault setting i s bindings x := by
  obtain ⟨e, he⟩ := resolves_of_compiled h s.cache
  refine ⟨e, ?_⟩
  cases hresult : (e.evaluate ((Context.mk setting.registry (i.entities s.profiles) bindings).scope
      setting.unit) s.drawn).1 with
  | error err => exact ⟨err, he, rfl⟩
  | ok value =>
    have hvalue := (evaluate_eq_some_iff setting i bindings x s value).mpr ⟨e, he, hresult⟩
    rw [hnone] at hvalue
    cases hvalue

lemma mem_outputs_calculateAll {mode name : String} {definition formulas : Formulas} {p : Progress}
    (h : name ∈ p.outputs.keys) :
    name ∈ ((calculateAll setting i owner mode definition formulas p).run s).1.outputs.keys := by
  induction formulas generalizing p s with
  | nil => exact h
  | cons f rest ih =>
    rw [calculateAll, run_bind]
    cases ((evaluate setting i p.bindings _).run s).1 with
    | none => exact ih h
    | some y => exact ih (Table.mem_keys_put.mpr (.inr h))

lemma mem_outputs_calculating {front back : Formulas} {f : String × String} {p : Progress}
    {t : Session} {value : Float} (hreached : (calculating setting owner spec i front).run s = (p, t))
    (hvalue : ((evaluate setting i p.bindings (spec.entrySource owner i f)).run t).1 = some value) :
    f.1 ∈ ((calculating setting owner spec i (front ++ f :: back)).run s).1.outputs.keys := by
  rw [← List.singleton_append, ← List.append_assoc, calculating_append, calculating_append,
    hreached, calculateAll_singleton]
  simp only [hvalue]
  exact mem_outputs_calculateAll (Table.mem_keys_put.mpr (.inl rfl))

theorem Spec.Compiles.arityOnly (h : spec.Compiles) (setting : Setting) (owner : String)
    (i : Invocation) (s : Session) : ArityOnly setting owner spec i s where
  found x bindings t hreaches := by
    obtain ⟨e, he⟩ := resolves_of_compiled (hreaches.compiled h) t.cache
    exact ⟨e, (fetch_eq_ok_iff _ _ _).mpr he⟩
  failing x bindings t hreaches hnone := arityFault_of_compiled (hreaches.compiled h) hnone
  missing f hf hmissing := by
    obtain ⟨front, back, hentry⟩ := List.append_of_mem hf
    rw [(run_eq_calculating setting owner spec i s).1, hentry] at hmissing
    generalize hreached : (calculating setting owner spec i front).run s = r
    obtain ⟨p, t⟩ := r
    have hreaches : Reaches setting owner spec i s (spec.entrySource owner i f) p.bindings t :=
      .calculate hentry hreached
    refine ⟨p.bindings, t, hreaches, arityFault_of_compiled (hreaches.compiled h) ?_⟩
    cases hvalue : ((evaluate setting i p.bindings (spec.entrySource owner i f)).run t).1 with
    | none => rfl
    | some value => exact absurd (mem_outputs_calculating hreached hvalue) hmissing

end

end DerivedStats.Pipeline
