import DerivedStats.Proofs.Pipeline.Clashes
import DerivedStats.Proofs.Pipeline.Simulation

/-! What formulas are served when the places of a configuration are apart, and when they are not. -/

namespace DerivedStats.Pipeline

open Formula (Cache Expr compile)

lemma Faithful.foldl_look {sources : List Source} (before : List Source) (hsub : before ⊆ sources)
    {c : Cache} (h : Faithful sources c) : Faithful sources (before.foldl Source.look c) := by
  induction before generalizing c with
  | nil => exact h
  | cons y rest ih =>
    obtain ⟨hy, hrest⟩ := List.cons_subset.mp hsub
    exact ih hrest (h.fetch_snd hy)

def after (setting : Setting) (calls : List Call) (s : Session) : Session :=
  calls.foldl (fun s call => ((call.perform setting).run s).2) s

lemma cache_after (setting : Setting) (calls : List Call) (hclear : Call.clear ∉ calls)
    (s : Session) :
    (after setting calls s).cache = (calls.flatMap Call.lookups).foldl Source.look s.cache := by
  induction calls generalizing s with
  | nil => rfl
  | cons call rest ih =>
    obtain ⟨hcall, hrest⟩ := not_or.mp (mt List.mem_cons.mpr hclear)
    rw [List.flatMap_cons, List.foldl_append, ← call.looks setting (Ne.symm hcall) s]
    exact ih hrest _

/-- After any calls of the engine and in the middle of the next one, a formula is served what a text
of its own owner, part and name compiles to. -/
def ServedOwn (c : Config) : Prop :=
  ∀ setting drawn profiles notices (calls : List Call), (∀ call ∈ calls, Makes c call) →
    ∀ next before rest x text e, Makes c next → LooksUp c x text →
      next.lookups = before ++ x.source text :: rest →
      ((before.foldl Source.look (after setting calls ⟨.empty, drawn, profiles, notices⟩).cache).fetch
        x.place text).1 = .ok e →
      ∃ own, LooksUp c x own ∧ compile own = .ok e

lemma Makes.ne_clear {c : Config} {call : Call} (h : Makes c call) : call ≠ .clear := by
  rintro rfl
  cases h

lemma Makes.not_mem {c : Config} {calls : List Call} (h : ∀ call ∈ calls, Makes c call) :
    Call.clear ∉ calls := fun hmem => (h _ hmem).ne_clear rfl

lemma fetch_look {c : Cache} {x : Source} {e : Expr} (hnew : c.get? x.place = none)
    (he : compile x.text = .ok e) (text : String) : ((x.look c).fetch x.place text).1 = .ok e := by
  have hlook : (x.look c).get? x.place = some e := by
    simp only [Source.look, Cache.fetch, hnew, he]
    rw [Cache.get?, Table.get?_put, if_pos rfl]
  rw [Cache.fetch, hlook]

lemma PlacesApart.fetch_own {c : Config} (h : PlacesApart c) {before : List Source}
    (hbefore : ∀ y ∈ before, Submits c y) {x : Site} {text : String} (hx : LooksUp c x text)
    {e : Expr} (hserved : ((before.foldl Source.look .empty).fetch x.place text).1 = .ok e) :
    ∃ own, LooksUp c x own ∧ compile own = .ok e := by
  have hfaithful : Faithful before (before.foldl Source.look .empty) :=
    .foldl_look before (List.Subset.refl _) (.empty _ _)
  rcases (fetch_eq_ok_iff _ (x.source text) e).mp hserved with hentry | ⟨-, hcompile⟩
  · obtain ⟨y, hy, hplace, hcompile⟩ := hfaithful _ _ hentry
    have hconfigured : y.configured = true := by
      rw [Source.configured, hplace]
      exact x.configured_source text
    obtain ⟨z, own, hz, rfl⟩ := (submits_configured_iff c y).mp ⟨hbefore y hy, hconfigured⟩
    obtain rfl := h _ _ _ _ hz hx hplace
    exact ⟨own, hz, hcompile⟩
  · exact ⟨text, hx, hcompile⟩

lemma PlacesApart.servedOwn {c : Config} (h : PlacesApart c) : ServedOwn c := by
  intro setting drawn profiles notices calls hcalls next before rest x text e hnext hx hsplit hserved
  rw [cache_after _ _ (Makes.not_mem hcalls), ← List.foldl_append] at hserved
  refine h.fetch_own ?_ hx hserved
  intro y hy
  rcases List.mem_append.mp hy with hpast | hcurrent
  · obtain ⟨call, hcall, hlookup⟩ := List.mem_flatMap.mp hpast
    exact ⟨call, hcalls call hcall, hlookup⟩
  · exact ⟨next, hnext, hsplit ▸ List.mem_append_left _ hcurrent⟩

/-- The places of a configuration are apart exactly if no system that is named like the battle meets
it and no two modes of one owner and their names run into each other; and then no formula is ever
served what another one compiles to. -/
theorem places_apart_iff_unambiguous (c : Config) :
    (PlacesApart c ↔ Unambiguous c) ∧ (Unambiguous c → ServedOwn c) :=
  ⟨placesApart_iff c, fun h => ((placesApart_iff c).mpr h).servedOwn⟩

def separateConfig : Config where
  general := Config.defaultGeneral
  attributes := .category []
  classes := []
  battle := some ⟨[], [], [], .flat [("final", "base_damage")]⟩
  systems := [("Health", ⟨[], [], .flat [("final", "level")]⟩)]

lemma separateConfig_unambiguous : Unambiguous separateConfig := by
  refine unambiguous_of_battle (by decide) ?_ ?_
  · intro part name text part' name' text' _ hy
    cases hy with
    | system hsystem hentry =>
      have hname : battleOwner = "Health" := congrArg Prod.fst (List.mem_singleton.mp hsystem)
      exact absurd hname (by decide)
  · intro mode name text mode' name' text' hx hy hswallows
    refine absurd ?_ hswallows.mode_ne
    cases hx with
    | battle hbattle hentry =>
      cases hy with
      | battle hbattle' hentry' =>
        cases hbattle
        cases hbattle'
        obtain ⟨_, hselect, -⟩ := Spec.mode_of_mem_entries hentry
        obtain ⟨_, hselect', -⟩ := Spec.mode_of_mem_entries hentry'
        cases hselect
        cases hselect'
        rfl

theorem places_apart_separate :
    Unambiguous separateConfig ∧ PlacesApart separateConfig ∧ ServedOwn separateConfig :=
  ⟨separateConfig_unambiguous,
    (places_apart_iff_unambiguous separateConfig).1.mpr separateConfig_unambiguous,
    (places_apart_iff_unambiguous separateConfig).2 separateConfig_unambiguous⟩

def clashingBattle : Battle := ⟨[], [], [], .flat [("final", "base_damage")]⟩

def clashingConfig : Config where
  general := Config.defaultGeneral
  attributes := .category []
  classes := []
  battle := some clashingBattle
  systems := [("Battle", ⟨[], [], .flat [("final", "context_multiplier")]⟩)]

def clashingSetting : Setting := ⟨.unloaded, fun _ => 0⟩

def battleFinal : Site := ⟨.battle, .calculate "", "final"⟩

def systemFinal : Site := ⟨.system "Battle", .calculate "", "final"⟩

lemma looksUp_battleFinal : LooksUp clashingConfig battleFinal "base_damage" :=
  @LooksUp.battle _ _ soloMode _ _ _ rfl (List.mem_singleton_self _)

lemma looksUp_systemFinal : LooksUp clashingConfig systemFinal "context_multiplier" :=
  .system (List.mem_singleton_self _) (List.mem_singleton_self _)

lemma text_of_looksUp_battleFinal {text : String} (h : LooksUp clashingConfig battleFinal text) :
    text = "base_damage" := by
  cases h with
  | battle hbattle hentry =>
    cases hbattle
    exact (Prod.mk.inj (Prod.mk.inj (List.mem_singleton.mp hentry)).2).2

def namesOf (text : String) : Option (List String) := (compile text).toOption.map Expr.variables

lemma namesOf_of_compile {text : String} {e : Expr} (h : compile text = .ok e) :
    namesOf text = some e.variables := by
  rw [namesOf, h]
  rfl

lemma compiles_of_namesOf {text : String} {names : List String} (h : namesOf text = some names) :
    ∃ e, compile text = .ok e := by
  rw [namesOf] at h
  cases hcompile : compile text with
  | ok e => exact ⟨e, rfl⟩
  | error err =>
    rw [hcompile] at h
    cases h

lemma namesOf_damage : namesOf "base_damage" = some ["base_damage"] := by decide +kernel

lemma namesOf_multiplier : namesOf "context_multiplier" = some ["context_multiplier"] := by
  decide +kernel

theorem places_not_apart : ¬ PlacesApart clashingConfig ∧ ¬ ServedOwn clashingConfig := by
  constructor
  · intro h
    cases h _ _ _ _ looksUp_battleFinal looksUp_systemFinal rfl
  · intro h
    obtain ⟨e, he⟩ := compiles_of_namesOf namesOf_multiplier
    have hcache : (after clashingSetting [.update ⟨0⟩ clashingConfig.systems]
        ⟨.empty, 0, [], []⟩).cache = (systemFinal.source "context_multiplier").look .empty :=
      cache_after _ _ (by simp) _
    have hserved : (((systemFinal.source "context_multiplier").look .empty).fetch
        battleFinal.place "base_damage").1 = .ok e :=
      @fetch_look .empty (systemFinal.source "context_multiplier") e rfl he "base_damage"
    obtain ⟨own, hown, hcompile⟩ := h clashingSetting 0 [] [] [.update ⟨0⟩ clashingConfig.systems]
      (by simpa using .update _) (.damage clashingBattle ⟨0⟩ none ⟨[], none, some 5⟩) [] [] battleFinal
      "base_damage" e (.damage rfl _ _ _) looksUp_battleFinal rfl (hcache ▸ hserved)
    obtain rfl := text_of_looksUp_battleFinal hown
    have hnames := (namesOf_of_compile hcompile).symm.trans namesOf_damage
    rw [← namesOf_of_compile he, namesOf_multiplier] at hnames
    exact absurd hnames (by decide)

end DerivedStats.Pipeline
