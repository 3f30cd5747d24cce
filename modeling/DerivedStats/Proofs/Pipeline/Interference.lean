import DerivedStats.Proofs.Formula.RandomFree
import DerivedStats.Proofs.Pipeline.Simulation
import DerivedStats.Proofs.Pipeline.Threads

/-! The update of a profile among others that share its cache. Whatever they insert, a look-up gives
what it gave at first, and no one else touches the profile: so the update comes to one end. -/

namespace DerivedStats.Pipeline

open Formula (Cache Context Expr Section compile)

def Serves (sources : List Source) (c d : Cache) : Prop :=
  ∀ x ∈ sources, (d.fetch x.place x.text).1 = (c.fetch x.place x.text).1

structure Steady (sources : List Source) (c : Cache) : Prop where
  oneText : OneText sources
  randomFree : ∀ x ∈ sources, ∀ e, (c.fetch x.place x.text).1 = .ok e → e.randomFree

lemma fetch_fst_congr {c d : Cache} {x : Source} (h : c.get? x.place = d.get? x.place) :
    (c.fetch x.place x.text).1 = (d.fetch x.place x.text).1 := by
  rw [Cache.fetch, Cache.fetch, h]
  cases d.get? x.place with
  | some e => rfl
  | none => cases compile x.text <;> rfl

lemma Serves.keep {sources : List Source} {c d : Cache} (h : Serves sources c d)
    (hone : OneText sources) {x : Source} (hx : x ∈ sources) {e : Expr}
    (he : (c.fetch x.place x.text).1 = .ok e) :
    (keep d x.place e).1 = e ∧ Serves sources c (keep d x.place e).2 := by
  rw [Pipeline.keep]
  split
  · next kept hkept =>
    have hserved := h x hx
    rw [he, Cache.fetch, hkept] at hserved
    obtain rfl := Except.ok.inj hserved
    refine ⟨rfl, fun y hy => ?_⟩
    rw [← h y hy]
    exact fetch_fst_congr rfl
  · refine ⟨rfl, fun y hy => ?_⟩
    by_cases hplace : y.place = x.place
    · -- another look-up of the same formula, which finds it now
      rw [hplace, hone y hy x hx hplace, he, Cache.fetch, Cache.get?, Table.get?_put, if_pos rfl]
    · rw [← h y hy]
      apply fetch_fst_congr
      rw [Cache.get?, Table.get?_put, if_neg hplace, Cache.get?]

section

variable (inv : Cache → Prop) (id : EntityId) {α : Type}

/-- As long as the profile of `id` is `p`, the computation gives `a` and leaves `q` in its place, and
it leaves the invariant and all other profiles as they are. -/
def Acts (act : Run α) (p : Option Profile) (a : α) (q : Option Profile) : Prop :=
  ∀ s, inv s.cache → s.profiles.get? id = p →
    (act.run s).1 = a ∧ (act.run s).2.profiles.get? id = q ∧ inv (act.run s).2.cache ∧
      ∀ other, other ≠ id → (act.run s).2.profiles.get? other = s.profiles.get? other

/-- Whatever happens between its steps to the cache and to other profiles, as long as the invariant
holds, the thread finally gives `a` and leaves the profile `q`. -/
inductive Ends (a : α) (q : Option Profile) : Thread α → Option Profile → Prop
  | done : Ends a q (.done a) q
  | step {β : Type} {act : Run β} {next : β → Thread α} {p : Option Profile}
    (keeps : ∀ s, inv s.cache → s.profiles.get? id = p → inv (act.run s).2.cache ∧
      ∀ other, other ≠ id → (act.run s).2.profiles.get? other = s.profiles.get? other)
    (rest : ∀ s, inv s.cache → s.profiles.get? id = p →
      Ends a q (next (act.run s).1) ((act.run s).2.profiles.get? id)) :
    Ends a q (.step act next) p

def Settles (t : Thread α) : Prop := ∀ p, ∃ a q, Ends inv id a q t p

end

section

variable {inv : Cache → Prop} {id : EntityId} {α β : Type}

namespace Ends

variable {a : α} {p q : Option Profile}

lemma once {act : Run α} (h : Acts inv id act p a q) : Ends inv id a q (.once act) p := by
  refine .step (fun s hinv hp => (h s hinv hp).2.2) fun s hinv hp => ?_
  obtain ⟨rfl, rfl, -⟩ := h s hinv hp
  exact .done

lemma bind {t : Thread α} {f : α → Thread β} {b : β} {r : Option Profile} (h : Ends inv id a q t p)
    (hf : Ends inv id b r (f a) q) : Ends inv id b r (t >>= f) p := by
  induction h with
  | done => exact hf
  | step keeps _ ih => exact .step keeps ih

lemma of_done {b : α} (h : Ends inv id a q (.done b) p) : b = a ∧ p = q := by
  cases h
  exact ⟨rfl, rfl⟩

lemma alone {t : Thread α} (h : Ends inv id a q t p) : Acts inv id t.alone p a q := by
  induction h with
  | done => exact fun s hinv hp => ⟨rfl, hp, hinv, fun _ _ => rfl⟩
  | step keeps _ ih =>
    intro s hinv hp
    obtain ⟨hkept, hothers⟩ := keeps s hinv hp
    obtain ⟨hresult, hprofile, hinv', hothers'⟩ := ih s hinv hp _ hkept rfl
    exact ⟨hresult, hprofile, hinv', fun other hne => (hothers' other hne).trans (hothers other hne)⟩

end Ends

namespace Settles

lemma pure (a : α) : Settles inv id (Pure.pure a) := fun p => ⟨a, p, .done⟩

lemma once {act : Run α} (h : ∀ p, ∃ a q, Acts inv id act p a q) : Settles inv id (.once act) := by
  intro p
  obtain ⟨a, q, hact⟩ := h p
  exact ⟨a, q, .once hact⟩

lemma bind {t : Thread α} {f : α → Thread β} (h : Settles inv id t)
    (hf : ∀ a, Settles inv id (f a)) : Settles inv id (t >>= f) := by
  intro p
  obtain ⟨a, q, ht⟩ := h p
  obtain ⟨b, r, hrest⟩ := hf a q
  exact ⟨b, r, ht.bind hrest⟩

end Settles

namespace Acts

variable {p : Option Profile}

lemma note (n : Notice) : Acts inv id (Pipeline.note n) p () p :=
  fun _ hinv hp => ⟨rfl, hp, hinv, fun _ _ => rfl⟩

lemma sample (setting : Setting) (bindings : Table String Float) (x : Source) {e : Expr}
    (he : e.randomFree) (p : Option Profile) :
    ∃ a, Acts inv id (Pipeline.sample setting (.solo id) bindings x e) p a p := by
  obtain ⟨result, hresult⟩ := Formula.sample_drawless
    ((Context.mk setting.registry ⟨p, none⟩ bindings).scope setting.unit) he
  refine ⟨result.toOption, fun s hinv hp => ?_⟩
  have hentities : (Invocation.solo id).entities s.profiles = ⟨p, none⟩ := by
    rw [Invocation.entities, Invocation.solo, hp]
    rfl
  have hprofiles := sample_profiles setting (.solo id) bindings x e s
  have hcache := (Blind.sample setting (.solo id) bindings x e).looks s
  refine ⟨?_, by rw [hprofiles, hp], by rwa [hcache], fun other _ => by rw [hprofiles]⟩
  rw [sample_fst, hentities]
  exact congrArg (fun r => r.1.toOption) (hresult s.drawn)

lemma store (setting : Setting) (key : String) (value : Float) (p : Option Profile) :
    ∃ applied q, Acts inv id (Pipeline.store setting id key value) p applied q := by
  cases hset : p.bind fun p => p.setStat? setting.registry key value with
  | none =>
    refine ⟨false, p, fun s hinv hp => ?_⟩
    simp only [Pipeline.store, StateT.run_bind, StateT.run_get, pure_bind, hp, hset]
    exact ⟨rfl, hp, hinv, fun _ _ => rfl⟩
  | some q =>
    refine ⟨true, some q, fun s hinv hp => ?_⟩
    simp only [Pipeline.store, StateT.run_bind, StateT.run_get, pure_bind, hp, hset]
    refine ⟨rfl, ?_, hinv, fun other hne => ?_⟩
    · exact (Table.get?_put _ _ _ _).trans (if_pos rfl)
    · exact (Table.get?_put _ _ _ _).trans (if_neg hne)

end Acts

end

section

variable {sources : List Source} {c : Cache} {id : EntityId} {x : Source} {p : Option Profile}

lemma Ends.insert (h : Steady sources c) (hx : x ∈ sources) {e : Expr}
    (he : (c.fetch x.place x.text).1 = .ok e) :
    Ends (Serves sources c) id e p (.once (insert x.place e)) p := by
  refine .once fun s hinv hp => ?_
  obtain ⟨hkept, hserves⟩ := hinv.keep h.oneText hx he
  exact ⟨hkept, hp, hserves, fun _ _ => rfl⟩

lemma Ends.fetch (h : Steady sources c) (hx : x ∈ sources) :
    Ends (Serves sources c) id (c.fetch x.place x.text).1.toOption p (Thread.fetch x) p := by
  refine .step (fun s hinv _ => ⟨hinv, fun _ _ => rfl⟩) fun s hinv hp => ?_
  change Ends _ id _ p (Thread.bind (.done (s.cache.get? x.place)) _) (s.profiles.get? id)
  rw [hp]
  have hserved := hinv x hx
  rw [Cache.fetch] at hserved
  cases hcached : s.cache.get? x.place with
  | some e =>
    rw [hcached] at hserved
    rw [← hserved]
    exact .done
  | none =>
    rw [hcached] at hserved
    simp only [Thread.bind]
    cases hcompile : compile x.text with
    | error err =>
      rw [hcompile] at hserved
      rw [← hserved]
      exact (Ends.once (.note _)).bind .done
    | ok e =>
      rw [hcompile] at hserved
      rw [← hserved]
      exact (Ends.insert h hx hserved.symm).bind .done

namespace Settles

variable (setting : Setting)

lemma evaluate (h : Steady sources c) (hx : x ∈ sources) (bindings : Table String Float) :
    Settles (Serves sources c) id (Thread.evaluate setting (.solo id) bindings x) := by
  intro p
  have hfetch : Ends (Serves sources c) id _ p (Thread.fetch x) p := .fetch h hx
  cases hserved : (c.fetch x.place x.text).1 with
  | error err =>
    rw [hserved] at hfetch
    exact ⟨none, p, hfetch.bind .done⟩
  | ok e =>
    rw [hserved] at hfetch
    obtain ⟨a, hact⟩ := Acts.sample setting bindings x (h.randomFree x hx e hserved) p
    exact ⟨a, p, hfetch.bind (.once hact)⟩

lemma bindAll (h : Steady sources c) {owner : String} {part : Section} {formulas : Formulas}
    (hsub : listed owner part formulas ⊆ sources) (bindings : Table String Float) :
    Settles (Serves sources c) id
      (Thread.bindAll setting (.solo id) owner part formulas bindings) := by
  induction formulas generalizing bindings with
  | nil => exact pure _
  | cons f rest ih =>
    obtain ⟨hfirst, hrest⟩ := List.cons_subset.mp hsub
    exact (evaluate setting h hfirst bindings).bind fun x => ih hrest _

lemma writeBack (definition : Formulas) (name : String) (value : Float) :
    Settles (Serves sources c) id
      (Thread.writeBack setting (.solo id) definition name value) := by
  rw [Thread.writeBack]
  cases (definition.get? name).bind writeBackTarget? with
  | none => exact pure _
  | some key => exact (once (Acts.store setting key value)).bind fun applied => pure _

lemma calculateAll (h : Steady sources c) {owner mode : String} {definition formulas : Formulas}
    (hsub : calculated owner mode formulas ⊆ sources) (p : Progress) :
    Settles (Serves sources c) id
      (Thread.calculateAll setting (.solo id) owner mode definition formulas p) := by
  induction formulas generalizing p with
  | nil => exact pure _
  | cons f rest ih =>
    obtain ⟨hfirst, hrest⟩ := List.cons_subset.mp hsub
    refine (evaluate setting h hfirst p.bindings).bind fun result => ?_
    cases result with
    | none => exact ih hrest p
    | some x => exact (writeBack setting definition f.1 x).bind fun writes => ih hrest _

lemma run (h : Steady sources c) {owner : String} {spec : Spec}
    (hsub : spec.lookups owner (Invocation.solo id).resolvedMode ⊆ sources) :
    Settles (Serves sources c) id (Thread.run setting (.solo id) owner spec) := by
  rw [Spec.lookups] at hsub
  obtain ⟨hbound, hselected⟩ := List.append_subset.mp hsub
  obtain ⟨hdefinition, htools⟩ := List.append_subset.mp hbound
  refine (bindAll setting h hdefinition _).bind fun defined => ?_
  refine (bindAll setting h htools defined).bind fun tooled => ?_
  cases hselect : spec.calculate.select? (Invocation.solo id).resolvedMode with
  | none => exact (once fun p => ⟨(), p, .note _⟩).bind fun _ => pure _
  | some selected =>
    rw [hselect] at hselected
    exact (calculateAll setting h hselected _).bind fun p => pure _

theorem updateProfile {systems : Systems}
    (h : Steady sources c) (hsub : systemLookups systems (Invocation.solo id).resolvedMode ⊆ sources) :
    Settles (Serves sources c) id (Thread.updateProfile setting id systems) := by
  induction systems with
  | nil => exact pure _
  | cons system rest ih =>
    obtain ⟨hfirst, hrest⟩ := List.append_subset.mp hsub
    exact (run setting h hfirst).bind fun outcome => (ih hrest).bind fun outcomes => pure _

end Settles

end

end DerivedStats.Pipeline
