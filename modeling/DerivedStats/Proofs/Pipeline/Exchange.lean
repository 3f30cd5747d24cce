import DerivedStats.Proofs.Formula.RandomFree
import DerivedStats.Proofs.Pipeline.Isolation
import DerivedStats.Proofs.Table.Listing

/-! Two neighbouring definitions or tools that do not read each other may change places. -/

namespace DerivedStats.Pipeline

open Formula (Cache Context Place Section compile)

def Mentions (text name : String) : Prop := ∃ e, compile text = .ok e ∧ name ∈ e.variables

def CallsRandom (text : String) : Prop := ∃ e, compile text = .ok e ∧ e.randomFree = false

instance (text name : String) : Decidable (Mentions text name) :=
  match h : compile text with
  | .error _ => isFalse (by simp [Mentions, h])
  | .ok e => decidable_of_iff (name ∈ e.variables) (by simp [Mentions, h])

instance (text : String) : Decidable (CallsRandom text) :=
  match h : compile text with
  | .error _ => isFalse (by simp [CallsRandom, h])
  | .ok e => decidable_of_iff (e.randomFree = false) (by simp [CallsRandom, h])

structure Independent (f g : String × String) : Prop where
  first : ¬ Mentions f.2 g.1
  second : ¬ Mentions g.2 f.1
  random : ¬ (CallsRandom f.2 ∧ CallsRandom g.2)

inductive Exchanged (f g : String × String) : Spec → Spec → Prop
  | definition (spec : Spec) (front back : Formulas) : Exchanged f g
      { spec with definition := front ++ f :: g :: back }
      { spec with definition := front ++ g :: f :: back }
  | tools (spec : Spec) (front back : Formulas) : Exchanged f g
      { spec with tools := front ++ f :: g :: back }
      { spec with tools := front ++ g :: f :: back }

section

variable {setting : Setting} {i : Invocation} {bindings : Table String Float}
  {profiles : Profiles} {text name : String}

lemma worth_put (h : ¬ Mentions text name) (x : Float) (drawn : Nat) :
    worth setting i (bindings.put name x) profiles text drawn =
      worth setting i bindings profiles text drawn := by
  simp only [worth]
  cases hcompile : compile text with
  | error err => rfl
  | ok e =>
    let context : Context := ⟨setting.registry, i.entities profiles, bindings⟩
    have hvalues : ∀ other ∈ e.variables,
        ((context.bind name x).scope setting.unit).value other =
          (context.scope setting.unit).value other := by
      intro other hother
      have hne : other ≠ name := fun heq => h ⟨e, hcompile, heq ▸ hother⟩
      exact (context.resolve_bind name other x).trans (if_neg hne)
    exact congrArg (Prod.map Except.toOption id) (Formula.evaluate_congr hvalues rfl drawn)

lemma worth_drawless (h : ¬ CallsRandom text) :
    ∃ x, ∀ drawn, worth setting i bindings profiles text drawn = (x, drawn) := by
  simp only [worth]
  cases hcompile : compile text with
  | error err => exact ⟨none, fun _ => rfl⟩
  | ok e =>
    have hfree : e.randomFree = true := by
      by_contra hcall
      exact h ⟨e, hcompile, by simpa using hcall⟩
    obtain ⟨result, hresult⟩ := Formula.sample_drawless
      ((Context.mk setting.registry (i.entities profiles) bindings).scope setting.unit) hfree
    exact ⟨result.toOption, fun drawn => congrArg (Prod.map Except.toOption id) (hresult drawn)⟩

variable (setting i bindings profiles) in
lemma worth_either {other : String} (h : ¬ (CallsRandom text ∧ CallsRandom other)) (drawn : Nat) :
    let x := worth setting i bindings profiles text
    let y := worth setting i bindings profiles other
    (x drawn).1 = (x (y drawn).2).1 ∧ (y (x drawn).2).1 = (y drawn).1 ∧
      (y (x drawn).2).2 = (x (y drawn).2).2 := by
  intro x y
  -- the one that draws nothing is worth the same after any draws, and leaves their count as it is
  rcases not_and_or.mp h with hdrawless | hdrawless
  · obtain ⟨value, hx⟩ : ∃ value, ∀ n, x n = (value, n) := worth_drawless hdrawless
    simp only [hx, and_self]
  · obtain ⟨value, hy⟩ : ∃ value, ∀ n, y n = (value, n) := worth_drawless hdrawless
    simp only [hy, and_self]

end

lemma get?_look_self (x : Source) (c : Cache) :
    (x.look c).get? x.place = (c.get? x.place).or (compile x.text).toOption := by
  simp only [Source.look, Cache.fetch]
  cases hfound : c.get? x.place with
  | some e => exact hfound
  | none =>
    cases compile x.text with
    | error err => exact hfound
    | ok e =>
      rw [Cache.get?, Table.get?_put, if_pos rfl]
      rfl

lemma look_look {x y : Source} (h : x.place ≠ y.place) (c : Cache) (p : Place) :
    (y.look (x.look c)).get? p = (x.look (y.look c)).get? p := by
  by_cases hx : p = x.place
  · rw [hx, get?_look h, get?_look_self, get?_look_self, get?_look h]
  · by_cases hy : p = y.place
    · rw [hy, get?_look h.symm, get?_look_self, get?_look_self, get?_look h.symm]
    · rw [get?_look hx, get?_look hy, get?_look hy, get?_look hx]

section

variable {α : Type} {setting : Setting} {i : Invocation} {owner : String} {part : Section}
  {f g : String × String} {bindings : Table String Float} {s : Session}

lemma bindAll_pair (hf : s.cache.get? ⟨owner, part, f.1⟩ = none)
    (hg : s.cache.get? ⟨owner, part, g.1⟩ = none) (hne : f.1 ≠ g.1)
    (hunread : ¬ Mentions g.2 f.1) :
    let first := worth setting i bindings s.profiles f.2 s.drawn
    let second := worth setting i bindings s.profiles g.2 first.2
    let r := (bindAll setting i owner part [f, g] bindings).run s
    r.1 = (bindings.put f.1 (first.1.getD 0)).put g.1 (second.1.getD 0) ∧ r.2.drawn = second.2 := by
  intro first second r
  let x : Source := ⟨⟨owner, part, f.1⟩, f.1, f.2⟩
  let y : Source := ⟨⟨owner, part, g.1⟩, g.1, g.2⟩
  let t := ((evaluate setting i bindings x).run s).2
  have hplace : y.place ≠ x.place := fun h => hne (Place.mk.inj h).2.2.symm
  have hnew : t.cache.get? y.place = none := by
    rw [Looks.evaluate setting i bindings x s]
    exact (get?_look hplace s.cache).trans hg
  obtain ⟨hx, hdrawn⟩ := evaluate_worth (x := x) setting i bindings hf
  obtain ⟨hy, hdrawn'⟩ := evaluate_worth (x := y) setting i (bindings.put f.1 (first.1.getD 0)) hnew
  rw [worth_put hunread, evaluate_profiles, hdrawn] at hy hdrawn'
  constructor
  · change ((bindAll setting i owner part [f, g] bindings).run s).1 = _
    rw [bindAll, run_bind, hx, bindAll, run_bind, hy]
    rfl
  · change ((bindAll setting i owner part [f, g] bindings).run s).2.drawn = _
    rw [bindAll, run_bind, hx]
    exact hdrawn'

variable (setting i bindings) in
lemma bindAll_swap (hf : s.cache.get? ⟨owner, part, f.1⟩ = none)
    (hg : s.cache.get? ⟨owner, part, g.1⟩ = none) (hne : f.1 ≠ g.1) (h : Independent f g) :
    let r := (bindAll setting i owner part [f, g] bindings).run s
    let r' := (bindAll setting i owner part [g, f] bindings).run s
    SameValues r.1 r'.1 ∧ Alike (fun _ => False) r.2 r'.2 := by
  intro r r'
  obtain ⟨hvalues, hdrawn⟩ : r.1 = _ ∧ r.2.drawn = _ := bindAll_pair hf hg hne h.second
  obtain ⟨hvalues', hdrawn'⟩ : r'.1 = _ ∧ r'.2.drawn = _ := bindAll_pair hg hf hne.symm h.first
  obtain ⟨hfirst, hsecond, hcount⟩ :=
    worth_either setting i bindings s.profiles h.random s.drawn
  refine ⟨?_, ?_, ?_, fun p _ => ?_⟩
  · rw [hvalues, hvalues', hfirst, hsecond]
    exact SameValues.put_put bindings hne _ _
  · rw [hdrawn, hdrawn', hcount]
  · exact (bindAll_profiles ..).trans (bindAll_profiles ..).symm
  · have hplace : (⟨owner, part, f.1⟩ : Place) ≠ ⟨owner, part, g.1⟩ :=
      fun h => hne (Place.mk.inj h).2.2
    have hcache := Looks.bindAll setting i owner part [f, g] bindings s
    have hcache' := Looks.bindAll setting i owner part [g, f] bindings s
    rw [hcache, hcache']
    exact look_look (x := ⟨_, f.1, f.2⟩) (y := ⟨_, g.1, g.2⟩) hplace s.cache p

lemma neighbours_apart {front back : Formulas}
    (h : (Table.keys (front ++ f :: g :: back)).Nodup) :
    f.1 ∉ front.keys ∧ g.1 ∉ front.keys ∧ f.1 ≠ g.1 := by
  simp only [Table.keys, List.map_append, List.map_cons, List.nodup_append, List.nodup_cons,
    List.mem_cons, not_or] at h
  obtain ⟨-, ⟨⟨hne, -⟩, -⟩, hdisjoint⟩ := h
  exact ⟨fun hf => hdisjoint _ hf f.1 (.inl rfl) rfl,
    fun hg => hdisjoint _ hg g.1 (.inr (.inl rfl)) rfl, hne⟩

lemma bindAll_neighbours (k : Table String Float → Run α) (front back : Formulas) :
    bindAll setting i owner part (front ++ f :: g :: back) bindings >>= k =
      bindAll setting i owner part front bindings >>= fun reached =>
        bindAll setting i owner part [f, g] reached >>= fun both =>
          bindAll setting i owner part back both >>= k := by
  rw [bindAll_append, bind_assoc]
  apply bind_congr
  intro reached
  rw [← bind_assoc, ← bindAll_append]
  rfl

lemma Unordered.sameEnd {R : Session → Session → Prop} {k : Table String Float → Run α}
    {x y : Run (Table String Float)} {t : Session} (hunordered : Unordered k)
    (hk : ∀ b, Respects R (k b) (k b)) (hvalues : SameValues (x.run s).1 (y.run t).1)
    (hsessions : R (x.run s).2 (y.run t).2) : SameEnd R (x >>= k) s (y >>= k) t := by
  rw [SameEnd, run_bind, run_bind, hunordered _ _ hvalues]
  exact hk _ _ _ hsessions

lemma bindAll_exchange {k : Table String Float → Run α} (hunordered : Unordered k)
    (hk : ∀ b, Respects (Alike fun _ => False) (k b) (k b)) {front back : Formulas}
    (hnames : (Table.keys (front ++ f :: g :: back)).Nodup)
    (hnew : ∀ name, s.cache.get? ⟨owner, part, name⟩ = none) (h : Independent f g) :
    SameEnd (Alike fun _ => False)
      (bindAll setting i owner part (front ++ f :: g :: back) bindings >>= k) s
      (bindAll setting i owner part (front ++ g :: f :: back) bindings >>= k) s := by
  obtain ⟨hf, hg, hne⟩ := neighbours_apart hnames
  let t := ((bindAll setting i owner part front bindings).run s).2
  have hreached : ∀ name ∉ front.keys, t.cache.get? ⟨owner, part, name⟩ = none := by
    intro name hname
    rw [(Looks.bindAll setting i owner part front bindings).get? (place_ne_of_listed hname), hnew]
  obtain ⟨hvalues, halike⟩ := bindAll_swap setting i
    ((bindAll setting i owner part front bindings).run s).1 (hreached f.1 hf) (hreached g.1 hg)
    hne h
  rw [bindAll_neighbours, bindAll_neighbours]
  apply SameEnd.after
  refine (hunordered.bindAll part back).sameEnd (fun both => ?_) hvalues halike
  exact ((Alike.steps _ setting).bindAll i owner part (fun _ _ => not_false) both).bind hk

end

section

variable {setting : Setting} {owner : String} {spec : Spec} {i : Invocation}
  {s : Session}

lemma respects_tools (defined : Table String Float) :
    Respects (Alike fun _ => False)
      (bindAll setting i owner .tools spec.tools defined >>= calculateSelected setting owner spec i)
      (bindAll setting i owner .tools spec.tools defined >>=
        calculateSelected setting owner spec i) :=
  ((Alike.steps _ setting).bindAll i owner .tools (fun _ _ => not_false) _).bind
    ((Alike.steps _ setting).calculateSelected owner spec i fun _ _ => not_false)

lemma calculateSelected_perm {definition : Formulas} (h : spec.definition.Perm definition)
    (hnames : spec.definition.keys.Nodup) :
    calculateSelected setting owner { spec with definition } i =
      calculateSelected setting owner spec i := by
  funext tooled
  -- the definitions are read here only for the targets of the results, each under its name
  have htargets : ∀ name, (definition.get? name).bind writeBackTarget? =
      (spec.definition.get? name).bind writeBackTarget? := by
    intro name
    rw [Table.get?_perm h hnames]
  rw [calculateSelected, calculateSelected]
  cases spec.calculate.select? i.resolvedMode with
  | none => rfl
  | some selected => simp only [calculateAll_congr htargets]

lemma run_perm {definition : Formulas} (h : spec.definition.Perm definition)
    (hnames : spec.definition.keys.Nodup) :
    run setting owner { spec with definition } i =
      bindAll setting i owner .definition definition (Table.ofPairs i.bindings) >>= fun defined =>
        bindAll setting i owner .tools spec.tools defined >>=
          calculateSelected setting owner spec i := by
  rw [← calculateSelected_perm h hnames]
  rfl

end

lemma Exchanged.sameEnd {f g : String × String} {setting : Setting} {owner : String}
    {spec spec' : Spec} {i : Invocation} {s : Session} (hempty : s.cache.entries = [])
    (hdefinition : spec.definition.keys.Nodup) (htools : spec.tools.keys.Nodup)
    (h : Exchanged f g spec spec') (hindependent : Independent f g) :
    SameEnd (Alike fun _ => False) (run setting owner spec i) s (run setting owner spec' i) s := by
  have hnew := Cache.get?_of_empty hempty
  cases h with
  | definition spec front back =>
    have hperm : (front ++ f :: g :: back).Perm (front ++ g :: f :: back) :=
      (List.Perm.swap g f back).append_left front
    let old : Spec := { spec with definition := front ++ f :: g :: back }
    change SameEnd _ (run setting owner old i) s
      (run setting owner { old with definition := front ++ g :: f :: back } i) s
    rw [run_perm hperm hdefinition, run_eq]
    exact bindAll_exchange ((Unordered.calculateSelected old).bindAll .tools old.tools)
      respects_tools hdefinition (fun _ => hnew _) hindependent
  | tools spec front back =>
    apply SameEnd.after
    refine bindAll_exchange (Unordered.calculateSelected _)
      ((Alike.steps _ setting).calculateSelected owner _ i fun _ _ => not_false) htools
      (fun name => ?_) hindependent
    rw [(Looks.bindAll setting i owner .definition _ _).get? (place_ne_of_part (by decide)),
      hnew]

/-- Two neighbouring definitions or tools of which neither reads the other, and at most one draws
samples, may change places: the outcome, the profiles and the samples drawn are the same. -/
theorem neighbours_commute (setting : Setting) (owner : String) (i : Invocation) (s : Session)
    (hempty : s.cache.entries = []) {spec spec' : Spec} (hdefinition : spec.definition.keys.Nodup)
    (htools : spec.tools.keys.Nodup) {f g : String × String} (hexchanged : Exchanged f g spec spec')
    (hindependent : Independent f g) :
    let r := (run setting owner spec i).run s
    let r' := (run setting owner spec' i).run s
    r.1 = r'.1 ∧ r.2.profiles = r'.2.profiles ∧ r.2.drawn = r'.2.drawn := by
  obtain ⟨houtcome, hsession⟩ := hexchanged.sameEnd hempty hdefinition htools hindependent
  exact ⟨houtcome, hsession.profiles, hsession.drawn⟩

def wager : Spec where
  definition := [("odds", "2"), ("luck", "random(1, 6)"), ("charm", "1 +"),
    ("stake", "luck + charm")]
  tools := []
  calculate := .flat [("final", "stake * odds")]

theorem neighbours_commute_wager :
    let setting : Setting := ⟨.unloaded, fun _ => 0.5⟩
    let s : Session := ⟨.empty, 0, [], []⟩
    let wager' : Spec := { wager with
      definition := [("odds", "2"), ("charm", "1 +"), ("luck", "random(1, 6)"),
        ("stake", "luck + charm")] }
    (s.cache.entries = [] ∧ wager.definition.keys.Nodup ∧ wager.tools.keys.Nodup ∧
      Exchanged ("luck", "random(1, 6)") ("charm", "1 +") wager wager' ∧
      Independent ("luck", "random(1, 6)") ("charm", "1 +")) ∧
    let r := (run setting "Wager" wager (.solo ⟨1⟩)).run s
    let r' := (run setting "Wager" wager' (.solo ⟨1⟩)).run s
    r.1 = r'.1 ∧ r.2.profiles = r'.2.profiles ∧ r.2.drawn = r'.2.drawn := by
  intro setting s wager'
  have hexchanged : Exchanged ("luck", "random(1, 6)") ("charm", "1 +") wager wager' :=
    .definition wager [("odds", "2")] [("stake", "luck + charm")]
  have hindependent : Independent ("luck", "random(1, 6)") ("charm", "1 +") :=
    ⟨by decide +kernel, by decide +kernel, by decide +kernel⟩
  have hdefinition : wager.definition.keys.Nodup := by decide
  exact ⟨⟨rfl, hdefinition, List.nodup_nil, hexchanged, hindependent⟩,
    neighbours_commute setting "Wager" (.solo ⟨1⟩) s rfl hdefinition List.nodup_nil hexchanged
      hindependent⟩

end DerivedStats.Pipeline
