import DerivedStats.Proofs.Pipeline.Alike
import DerivedStats.Proofs.Pipeline.Targets

/-! What a text is worth that is not in the cache, and what the evaluation of a text leaves behind
that fails without drawing a sample. -/

namespace DerivedStats.Pipeline

open Formula (ArityError Cache CompileError Context Expr Place compile)

def Faulty (setting : Setting) (i : Invocation) (bindings : Table String Float) (text : String)
    (s : Session) : Prop :=
  (∃ err, compile text = .error err) ∨ ∃ e err, compile text = .ok e ∧
    e.evaluate ((Context.mk setting.registry (i.entities s.profiles) bindings).scope setting.unit)
      s.drawn = (.error err, s.drawn)

def worth (setting : Setting) (i : Invocation) (bindings : Table String Float)
    (profiles : Profiles) (text : String) (drawn : Nat) : Option Float × Nat :=
  match compile text with
  | .error _ => (none, drawn)
  | .ok e =>
    let context : Context := ⟨setting.registry, i.entities profiles, bindings⟩
    (e.evaluate (context.scope setting.unit) drawn).map Except.toOption id

section

variable {setting : Setting} {i : Invocation} {bindings : Table String Float} {x : Source}
  {s : Session}

lemma get?_look {p : Place} (hp : p ≠ x.place) (c : Cache) : (x.look c).get? p = c.get? p := by
  simp only [Source.look, Cache.fetch]
  cases c.get? x.place with
  | some e => rfl
  | none =>
    cases compile x.text with
    | error err => rfl
    | ok e => rw [Cache.get?, Table.get?_put, if_neg hp, Cache.get?]

lemma get?_foldl_look {xs : List Source} {p : Place} (h : ∀ x ∈ xs, x.place ≠ p) (c : Cache) :
    (xs.foldl Source.look c).get? p = c.get? p := by
  induction xs generalizing c with
  | nil => rfl
  | cons x rest ih =>
    obtain ⟨hfirst, hrest⟩ := List.forall_mem_cons.mp h
    rw [List.foldl_cons, ih hrest, get?_look hfirst.symm]

lemma Looks.get? {α : Type} {r : Run α} {xs : List Source} (h : Looks xs r) {p : Place}
    (hp : ∀ x ∈ xs, x.place ≠ p) (s : Session) : (r.run s).2.cache.get? p = s.cache.get? p := by
  rw [h s, get?_foldl_look hp]

lemma fetch_fst_of_new (hnew : s.cache.get? x.place = none) :
    (s.cache.fetch x.place x.text).1 = compile x.text := by
  simp only [Cache.fetch, hnew]
  cases compile x.text with
  | error err => rfl
  | ok e => rfl

lemma sample_drawn (setting : Setting) (i : Invocation) (bindings : Table String Float) (x : Source)
    (e : Expr) (s : Session) :
    ((sample setting i bindings x e).run s).2.drawn =
      (e.evaluate
        ((Context.mk setting.registry (i.entities s.profiles) bindings).scope setting.unit)
        s.drawn).2 := by
  simp only [sample, StateT.run_bind, StateT.run_get, StateT.run_set, pure_bind]
  split
  · rfl
  · rfl

variable (setting i bindings) in
lemma evaluate_worth (hnew : s.cache.get? x.place = none) :
    ((evaluate setting i bindings x).run s).1 =
        (worth setting i bindings s.profiles x.text s.drawn).1 ∧
      ((evaluate setting i bindings x).run s).2.drawn =
        (worth setting i bindings s.profiles x.text s.drawn).2 := by
  obtain ⟨hprofiles, hdrawn⟩ := fetch_frame x s
  have hfetched := fetch_fst x s
  rw [fetch_fst_of_new hnew] at hfetched
  rw [evaluate, run_bind, hfetched, worth]
  cases compile x.text with
  | error err => exact ⟨rfl, hdrawn⟩
  | ok e =>
    have hresult := sample_fst setting i bindings x e ((fetch x).run s).2
    have hcount := sample_drawn setting i bindings x e ((fetch x).run s).2
    rw [hprofiles, hdrawn] at hresult hcount
    exact ⟨hresult, hcount⟩

lemma evaluate_sameEnd_pure {result : Option Float} (hnew : s.cache.get? x.place = none)
    (h : worth setting i bindings s.profiles x.text s.drawn = (result, s.drawn)) :
    SameEnd (Alike (· = x.place)) (evaluate setting i bindings x) s (pure result) s := by
  obtain ⟨hresult, hdrawn⟩ := evaluate_worth setting i bindings hnew
  rw [h] at hresult hdrawn
  refine ⟨hresult, hdrawn, evaluate_profiles setting i bindings x s, fun p hp => ?_⟩
  rw [Looks.evaluate setting i bindings x s]
  exact get?_look hp s.cache

lemma evaluate_faulty (hnew : s.cache.get? x.place = none)
    (h : Faulty setting i bindings x.text s) :
    SameEnd (Alike (· = x.place)) (evaluate setting i bindings x) s (pure none) s := by
  apply evaluate_sameEnd_pure hnew
  rcases h with ⟨err, herr⟩ | ⟨e, err, he, hevaluate⟩
  · rw [worth, herr]
  · simp only [worth, he, hevaluate]
    rfl

lemma compile_zero : compile "0" = .ok (.number 0) := by
  have hread : Decimal.read (String.ofList ['0']) = some 0 := by decide +kernel
  have hnumeral : Formula.Grammar.IsNumeral ['0'] :=
    Formula.Grammar.isNumeral_whole (List.forall_mem_singleton.mpr rfl) (List.cons_ne_nil _ _)
  exact (Formula.Grammar.isOperand_number hread).compile_eq
    (Formula.Grammar.spelled_number hnumeral)

lemma evaluate_zero (setting : Setting) (i : Invocation) (bindings : Table String Float)
    (hnew : s.cache.get? x.place = none) (htext : x.text = "0") :
    SameEnd (Alike (· = x.place)) (evaluate setting i bindings x) s (pure (some 0)) s := by
  apply evaluate_sameEnd_pure hnew
  rw [worth, htext, compile_zero]
  rfl

lemma Faulty.no_target {text : String} (h : Faulty setting i bindings text s) :
    writeBackTarget? text = none := by
  refine Option.eq_none_iff_forall_ne_some.mpr fun key hkey => ?_
  obtain ⟨name, -, hcompile⟩ := writeBackTarget?_eq_some hkey
  rcases h with ⟨err, herr⟩ | ⟨e, err, he, hevaluate⟩
  · rw [hcompile] at herr
    cases herr
  · rw [hcompile] at he
    cases he
    cases hevaluate

end

end DerivedStats.Pipeline
