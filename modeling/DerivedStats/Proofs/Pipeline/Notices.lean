import DerivedStats.Proofs.Pipeline.Compiled
import DerivedStats.Proofs.Pipeline.Composed

/-! Which notices a run leaves behind. -/

namespace DerivedStats.Pipeline

inductive OfCompiled : Notice → Prop
  | failed (owner : String) (part : Formula.Section) (name : String) (err : Formula.ArityError) :
    OfCompiled (.formulaFailed owner part name err)
  | noCalculation (owner mode : String) : OfCompiled (.noCalculation owner mode)

def Notes {α : Type} (kind : Notice → Prop) (r : Run α) : Prop :=
  ∀ s, ∃ added, (r.run s).2.notices = s.notices ++ added ∧ ∀ n ∈ added, kind n

namespace Notes

variable {α β : Type} {kind : Notice → Prop}

lemma of_notices_eq {r : Run α} (h : ∀ s, (r.run s).2.notices = s.notices) : Notes kind r :=
  fun s => ⟨[], by rw [h, List.append_nil], List.forall_mem_nil _⟩

lemma pure (a : α) : Notes kind (Pure.pure a : Run α) := of_notices_eq fun _ => rfl

lemma bind {r : Run α} {f : α → Run β} (hr : Notes kind r) (hf : ∀ a, Notes kind (f a)) :
    Notes kind (r >>= f) := by
  intro s
  obtain ⟨added, hadded, hkind⟩ := hr s
  obtain ⟨more, hmore, hkind'⟩ := hf (r.run s).1 (r.run s).2
  refine ⟨added ++ more, ?_, List.forall_mem_append.mpr ⟨hkind, hkind'⟩⟩
  rw [run_bind, hmore, hadded, List.append_assoc]

lemma note {n : Notice} (h : kind n) : Notes kind (Pipeline.note n) :=
  fun _ => ⟨[n], rfl, List.forall_mem_singleton.mpr h⟩

section

variable {setting : Setting} {i : Invocation}

lemma fetch {x : Source} (h : Compiled x.text) : Notes kind (Pipeline.fetch x) := by
  refine of_notices_eq fun s => ?_
  obtain ⟨e, he⟩ := resolves_of_compiled h s.cache
  have hfound := (fetch_eq_ok_iff s.cache x e).mpr he
  simp only [Pipeline.fetch, StateT.run_bind, StateT.run_get, StateT.run_set, pure_bind, hfound]
  rfl

lemma sample (bindings : Table String Float) (x : Source) (e : Formula.Expr) :
    Notes OfCompiled (Pipeline.sample setting i bindings x e) := by
  intro s
  simp only [Pipeline.sample, StateT.run_bind, StateT.run_get, StateT.run_set, pure_bind]
  split
  · exact pure _ _
  · exact (note (.failed _ _ _ _)).bind (fun _ => pure _) _

lemma evaluate (bindings : Table String Float) (x : Source) (h : Compiled x.text) :
    Notes OfCompiled (Pipeline.evaluate setting i bindings x) := by
  refine (fetch h).bind fun found => ?_
  cases found with
  | none => exact pure _
  | some e => exact sample bindings x e

lemma store (id : EntityId) (key : String) (value : Float) :
    Notes kind (Pipeline.store setting id key value) := by
  refine of_notices_eq fun s => ?_
  simp only [Pipeline.store, StateT.run_bind, StateT.run_get, pure_bind]
  split
  · rfl
  · rfl

lemma of_composed {r : Run α} (h : Composed setting (fun x => Compiled x.text) r) :
    Notes OfCompiled r := by
  induction h with
  | pure a => exact pure a
  | bind _ _ hr hf => exact hr.bind hf
  | evaluate i bindings hx => exact evaluate bindings _ hx
  | store id key value => exact store id key value
  | noCalculation owner mode => exact note (.noCalculation owner mode)

end

lemma run {spec : Spec} (h : spec.Compiles) (setting : Setting) (owner : String) (i : Invocation) :
    Notes OfCompiled (Pipeline.run setting owner spec i) :=
  of_composed (.run h.lookups)

lemma updateProfile {systems : Systems} (h : ∀ system ∈ systems, system.2.Compiles)
    (setting : Setting) (id : EntityId) :
    Notes OfCompiled (Pipeline.updateProfile setting id systems) := by
  refine of_composed (.updateProfile id fun x hx => ?_)
  obtain ⟨system, hsystem, hx⟩ := List.mem_flatMap.mp hx
  exact (h system hsystem).lookups x hx

end Notes

end DerivedStats.Pipeline
