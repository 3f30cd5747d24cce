import DerivedStats.Proofs.Pipeline.Consistency

/-! The cache of compiled formulas changes nothing but the work done: as long as no place is used for
two texts between two clearings, the calls on one cache are the calls on an empty one. -/

namespace DerivedStats.Pipeline

open Formula (Cache compile)

lemma Simulates.calculate {sources : List Source} (hone : OneText sources) (setting : Setting)
    (text : String) (primary secondary : Option EntityId)
    (hmem : ⟨⟨Engine.adhocOwner, .adhoc, text⟩, text, text⟩ ∈ sources) :
    Simulates sources (Engine.calculateRun text primary secondary setting)
      (do prepared Cache.clear; Engine.calculateRun text primary secondary setting) := by
  rintro ⟨c, drawn, profiles, notices⟩ ⟨c', _, _, _⟩ ⟨rfl, rfl, rfl, hfaithful⟩
  have hkept := hfaithful.fetch_snd hmem
  have hcached := hfaithful.fetch_fst hone hmem
  have hcompiled := fetch_clear c' ⟨Engine.adhocOwner, .adhoc, text⟩ text
  simp only [Engine.calculateRun, prepared, StateT.run_bind, StateT.run_get, StateT.run_set,
    StateT.run_modify, pure_bind, hcached, hcompiled]
  cases compile text with
  | error err => exact ⟨rfl, rfl, rfl, rfl, hkept⟩
  | ok e =>
    simp only [StateT.run_bind, StateT.run_get, StateT.run_set, pure_bind]
    split
    · exact ⟨rfl, rfl, rfl, rfl, hkept⟩
    · exact ⟨rfl, rfl, rfl, rfl, hkept⟩

lemma Simulates.perform {sources : List Source} (hone : OneText sources) (setting : Setting)
    (call : Call) (hclear : call ≠ .clear) (hsub : call.lookups ⊆ sources) :
    Simulates sources (call.perform setting) (call.performAfter Cache.clear setting) := by
  cases call with
  | run owner spec i => exact (run hone setting i owner spec hsub).map _
  | damage b attacker defender a => exact (run hone setting _ battleOwner b.spec hsub).map _
  | update id systems => exact (updateProfile hone setting id systems hsub).map _
  | calculate text primary secondary =>
    have hvalue := calculate hone setting text primary secondary (hsub (List.mem_singleton_self _))
    simp only [Call.perform, Call.performAfter]
    rw [← bind_assoc]
    exact hvalue.map _
  | clear => exact absurd rfl hclear

lemma agrees_clear {sources : List Source} {s t : Session} (h : Agrees sources s t)
    (setting : Setting) :
    Agrees [] ((Call.clear.perform setting).run s).2
      ((Call.clear.performAfter Cache.clear setting).run t).2 :=
  ⟨h.drawn, h.profiles, h.notices, .empty [] _⟩

lemma observe_eq (setting : Setting) (calls since : List Call) (hclear : Call.clear ∉ since)
    (hconsistent : Consistent (since ++ calls)) (s t : Session)
    (hagrees : Agrees (since.flatMap Call.lookups) s t) :
    observe (Call.perform setting) calls s
      = observe (Call.performAfter Cache.clear setting) calls t := by
  -- Those in `since` came after the last clearing; the cache holds their formulas and no others.
  induction calls generalizing since s t with
  | nil => rfl
  | cons call rest ih =>
    by_cases hcall : call = .clear
    · subst hcall
      have hnext := agrees_clear hagrees setting
      have hrest : Consistent rest :=
        hconsistent.stretch ((List.suffix_cons _ _).trans (List.suffix_append _ _)).isInfix
      simp only [observe_cons]
      rw [hnext.profiles, hnext.drawn, hnext.notices, ih [] (by simp) hrest _ _ hnext]
      rfl
    · have hextended : Call.clear ∉ since ++ [call] := by
        simpa [hclear] using Ne.symm hcall
      have hsplit : since ++ call :: rest = since ++ [call] ++ rest := by simp
      rw [hsplit] at hconsistent
      have hone : OneText ((since ++ [call]).flatMap Call.lookups) :=
        .of_configured (hconsistent _ (List.prefix_append _ _).isInfix hextended)
      have hsub : call.lookups ⊆ (since ++ [call]).flatMap Call.lookups := by simp
      have hknown : Agrees ((since ++ [call]).flatMap Call.lookups) s t :=
        { hagrees with faithful := hagrees.faithful.mono (by simp) }
      obtain ⟨hreply, hnext⟩ := Simulates.perform hone setting call hcall hsub s t hknown
      simp only [observe_cons]
      rw [hreply, hnext.profiles, hnext.drawn, hnext.notices, ih _ hextended hconsistent _ _ hnext]

/-- Calls on one cache that starts empty give the same replies, leave the same profiles, draw the
same numbers and leave the same notices as with the cache emptied before every look-up. -/
theorem cache_transparent (setting : Setting) (calls : List Call) (h : Consistent calls)
    (profiles : Profiles) (drawn : Nat) (notices : List Notice) :
    observe (Call.perform setting) calls ⟨.empty, drawn, profiles, notices⟩
      = observe (Call.performAfter Cache.clear setting) calls ⟨.empty, drawn, profiles, notices⟩ :=
  observe_eq setting calls [] (by simp) h _ _ ⟨rfl, rfl, rfl, .empty _ _⟩

def strike (text : String) : Call :=
  .run "Body" ⟨[("power", "%entity-status#strength%")], [], .flat [("power", text)]⟩ (.solo ⟨0⟩)

def rewrittenCalls : List Call :=
  [strike "power * 2", strike "power * 2", .calculate "power * 2" none none] ++ .clear ::
    [strike "power * 3"]

lemma rewrittenCalls_consistent : Consistent rewrittenCalls := by
  refine (consistent_append_clear _ _).mpr ⟨.of_oneText ?_, .of_oneText ?_⟩
  · unfold OneText
    decide
  · unfold OneText
    decide

theorem cache_transparent_rewritten :
    let setting : Setting := ⟨.unloaded, fun _ => 0⟩
    let knight : Profile := ⟨⟨0⟩, "Knight", [("strength", 3)], []⟩
    let s : Session := ⟨.empty, 0, [(⟨0⟩, knight)], []⟩
    let struck := (((strike "power * 2").perform setting).run s).2
    let again := (((strike "power * 2").perform setting).run struck).2
    let observed := observe (Call.perform setting) rewrittenCalls s
    Consistent rewrittenCalls ∧
    struck.cache.compilations = 2 ∧ again.cache.compilations = 2 ∧
    observed = observe (Call.performAfter Cache.clear setting) rewrittenCalls s ∧
    observed.map (fun o => (o.profiles.get? ⟨0⟩).bind (·.stats.get? "strength")) =
      [some 6, some 12, some 12, some 12, some 36] := by
  intro setting knight s struck again observed
  have hsame : observed = observe (Call.performAfter Cache.clear setting) rewrittenCalls s :=
    cache_transparent setting rewrittenCalls rewrittenCalls_consistent _ 0 []
  refine ⟨rewrittenCalls_consistent, by decide +kernel, by decide +kernel, hsame, ?_⟩
  rw [hsame]
  decide +kernel

end DerivedStats.Pipeline
