import DerivedStats.Proofs.Pipeline.Calculating
import DerivedStats.Proofs.Pipeline.Writes
import DerivedStats.Proofs.Table
import Mathlib.Data.List.Induction

/-! The outcome of a run says what the run did: which formulas of the calculation gave a value, what
was written back, and that nothing else of the profiles changed. -/

namespace DerivedStats.Pipeline

open Attribute (canonicalKey)

structure Report (setting : Setting) (owner : String) (spec : Spec) (i : Invocation) (s : Session)
    (p : Profile) (formulas : Formulas) (outputs : Table String Float) (writes : List Write)
    (profiles : Profiles) : Prop where
  order : outputs.keys.Sublist formulas.keys
  values : ∀ k f, formulas[k]? = some f → ∀ x,
    outputs.get? f.1 = some x ↔ GivesAt setting owner spec i s formulas k f x
  targets : (writes.map fun w => (w.attributeName, w.value)) = outputs.filterMap fun output =>
    ((spec.definition.get? output.1).bind writeBackTarget?).map (·, output.2)
  applied : ∀ w ∈ writes, w.applied = setting.registry.permits (canonicalKey w.attributeName)
  changes : Written i.primary p s.profiles profiles writes

variable {setting : Setting} {owner : String} {spec : Spec} {i : Invocation}

section

variable {s : Session} {p : Profile} {front : Formulas} {f : String × String}
  {outputs : Table String Float} {writes : List Write} {profiles : Profiles}

lemma Report.skip (h : Report setting owner spec i s p front outputs writes profiles)
    (hnew : f.1 ∉ front.keys)
    (hnone : ∀ x, ¬ GivesAt setting owner spec i s front front.length f x) :
    Report setting owner spec i s p (front ++ [f]) outputs writes profiles := by
  refine ⟨?_, ?_, h.targets, h.applied, h.changes⟩
  · exact h.order.trans ((List.sublist_append_left front [f]).map Prod.fst)
  · intro k g hg x
    rcases entry_of_concat hg with ⟨hk, hg⟩ | ⟨rfl, rfl⟩
    · rw [givesAt_append (Nat.le_of_lt hk)]
      exact h.values k g hg x
    · rw [givesAt_append (Nat.le_refl _), Table.get?_eq_none_of_not_mem fun hmem => hnew (h.order.subset hmem)]
      simp [hnone x]

lemma Report.give (h : Report setting owner spec i s p front outputs writes profiles)
    (hnew : f.1 ∉ front.keys) {x : Float}
    (hgives : ∀ y, GivesAt setting owner spec i s front front.length f y ↔ x = y)
    {more : List Write} {profiles' : Profiles}
    (htargets : (more.map fun w => (w.attributeName, w.value)) =
      (((spec.definition.get? f.1).bind writeBackTarget?).map (·, x)).toList)
    (happlied : ∀ w ∈ more, w.applied = setting.registry.permits (canonicalKey w.attributeName))
    (hchanges : Written i.primary p s.profiles profiles' (writes ++ more)) :
    Report setting owner spec i s p (front ++ [f]) (outputs.put f.1 x) (writes ++ more) profiles' := by
  have hfresh : f.1 ∉ outputs.keys := fun hmem => hnew (h.order.subset hmem)
  refine ⟨?_, ?_, ?_, ?_, hchanges⟩
  · rw [Table.put_of_not_mem hfresh]
    simpa [Table.keys] using h.order.append (List.Sublist.refl [f.1])
  · intro k g hg y
    rw [Table.get?_put]
    rcases entry_of_concat hg with ⟨hk, hg⟩ | ⟨rfl, rfl⟩
    · have hne : g.1 ≠ f.1 := by
        rintro heq
        exact hnew (heq ▸ List.mem_map_of_mem (List.mem_of_getElem? hg))
      rw [if_neg hne, givesAt_append (Nat.le_of_lt hk)]
      exact h.values k g hg y
    · rw [if_pos rfl, givesAt_append (Nat.le_refl _), hgives, Option.some.injEq]
  · rw [Table.put_of_not_mem hfresh, List.map_append, List.filterMap_append, h.targets, htargets]
    rfl
  · intro w hw
    rcases List.mem_append.mp hw with hold | hmore
    · exact h.applied w hold
    · exact happlied w hmore

end

lemma report_nil {s : Session} {p : Profile} (hprimary : s.profiles.get? i.primary = some p) :
    let r := (calculating setting owner spec i []).run s
    Report setting owner spec i s p [] r.1.outputs r.1.writes r.2.profiles := by
  intro r
  have hprofiles : r.2.profiles = s.profiles := by
    simp only [r, calculating, calculateAll, run_bind]
    exact (bindAll_profiles ..).trans (bindAll_profiles ..)
  refine ⟨.slnil, fun k f hf => (by cases hf), rfl, fun w hw => (by cases hw), ?_⟩
  rw [hprofiles]
  exact .refl hprimary

lemma report_concat {s : Session} {p : Profile} {front : Formulas} {f : String × String}
    (hnew : f.1 ∉ front.keys)
    (h : let r := (calculating setting owner spec i front).run s
      Report setting owner spec i s p front r.1.outputs r.1.writes r.2.profiles) :
    let r := (calculating setting owner spec i (front ++ [f])).run s
    Report setting owner spec i s p (front ++ [f]) r.1.outputs r.1.writes r.2.profiles := by
  have hgives := @givesAt_length_iff setting owner spec i front s f
  have hprofiles := evaluate_profiles setting i
    ((calculating setting owner spec i front).run s).1.bindings (spec.entrySource owner i f)
    ((calculating setting owner spec i front).run s).2
  rw [calculating_append, calculateAll_singleton]
  generalize (evaluate setting i _ (spec.entrySource owner i f)).run _ = r at hgives hprofiles ⊢
  obtain ⟨value, t⟩ := r
  cases value with
  | none =>
    change Report _ _ _ _ _ _ _ _ _ t.profiles
    rw [hprofiles]
    exact h.skip hnew (by simp [hgives])
  | some x =>
    have hwritten := h.changes
    rw [← hprofiles] at hwritten
    obtain ⟨hchanges, htargets, happlied⟩ :=
      hwritten.writeBack setting i spec.definition f.1 x rfl
    exact h.give hnew (by simp [hgives]) htargets happlied hchanges

lemma report_calculating {s : Session} {p : Profile}
    (hprimary : s.profiles.get? i.primary = some p) (formulas : Formulas)
    (hnames : formulas.keys.Nodup) :
    let r := (calculating setting owner spec i formulas).run s
    Report setting owner spec i s p formulas r.1.outputs r.1.writes r.2.profiles := by
  -- From the last entry back: it is evaluated in the state that all entries before it leave.
  induction formulas using List.reverseRecOn with
  | nil => exact report_nil hprimary
  | append_singleton front f ih =>
    rw [Table.keys, List.map_append, List.nodup_append] at hnames
    obtain ⟨hfront, -, hapart⟩ := hnames
    have hnew : f.1 ∉ Table.keys front := fun hmem => hapart _ hmem _ (List.mem_singleton_self _) rfl
    exact report_concat hnew (ih hfront)

lemma run_eq_calculating (setting : Setting) (owner : String) (spec : Spec) (i : Invocation)
    (s : Session) :
    let r := (calculating setting owner spec i (spec.selected i).2).run s
    ((run setting owner spec i).run s).1 =
        ⟨(spec.selected i).1, r.1.outputs, r.1.writes, Outcome.finalOf r.1.outputs⟩ ∧
      ((run setting owner spec i).run s).2.profiles = r.2.profiles := by
  simp only [run, calculating, Spec.selected_eq, run_bind]
  cases spec.calculate.select? i.resolvedMode with
  | none => exact ⟨rfl, rfl⟩
  | some selected => exact ⟨rfl, rfl⟩

/-- What a run reports is what it did: the outputs are the entries of the selected table that gave a
value, the writes are the outputs whose definition has a target, and the profiles changed by the
applied writes and by nothing else. -/
theorem run_reports (setting : Setting) (owner : String) (spec : Spec) (i : Invocation)
    (s : Session) (p : Profile) (hprimary : s.profiles.get? i.primary = some p)
    (hnames : (spec.selected i).2.keys.Nodup) :
    let r := (run setting owner spec i).run s
    Report setting owner spec i s p (spec.selected i).2 r.1.outputs r.1.writes r.2.profiles ∧
      r.1.final =
        match r.1.outputs.get? "final", r.1.outputs.getLast? with
        | some x, _ => x
        | none, some (_, x) => x
        | none, none => 0 := by
  obtain ⟨houtcome, hprofiles⟩ := run_eq_calculating setting owner spec i s
  refine ⟨?_, ?_⟩
  · rw [houtcome, hprofiles]
    exact report_calculating hprimary _ hnames
  · rw [houtcome]
    simp only [Outcome.finalOf, Outcome.finalName]
    cases Table.get? _ "final" with
    | some x => rfl
    | none =>
      cases List.getLast? _ with
      | none => rfl
      | some last => rfl

def healing : Spec :=
  ⟨[("health", "%entity-status#Health%")], [("bonus", "%entity-status#Level% * 2")],
    .byMode [("solo", [("health", "health + bonus"), ("final", "bonus")])]⟩

def wounded : Profile := ⟨⟨1⟩, "Knight", [("health", 10), ("level", 4)], []⟩

theorem run_reports_healing :
    let setting : Setting := ⟨.unloaded, fun _ => 0⟩
    let s : Session := ⟨.empty, 0, [(⟨1⟩, wounded)], []⟩
    let r := (run setting "Health" healing (.solo ⟨1⟩)).run s
    Report setting "Health" healing (.solo ⟨1⟩) s wounded
        [("health", "health + bonus"), ("final", "bonus")] r.1.outputs r.1.writes r.2.profiles ∧
      r.1.outputs = [("health", 18), ("final", 8)] ∧
      r.1.writes = [⟨"Health", 18, true⟩] ∧
      (∃ q, r.2.profiles.get? ⟨1⟩ = some q ∧
        q.stats.get? "health" = some 18 ∧ q.stats.get? "level" = some 4) ∧
      r.1.final = 8 := by
  intro setting s r
  obtain ⟨hreport, hfinal⟩ :=
    run_reports setting "Health" healing (.solo ⟨1⟩) s wounded rfl (by decide)
  have houtputs : r.1.outputs = [("health", 18), ("final", 8)] := by decide +kernel
  have hwrites : r.1.writes = [⟨"Health", 18, true⟩] := by decide +kernel
  obtain ⟨q, hq, -, -, -, hstats⟩ := hreport.changes.primary
  refine ⟨hreport, houtputs, hwrites, ⟨q, hq, ?_, ?_⟩, ?_⟩
  · rw [hstats, hwrites]
    decide +kernel
  · rw [hstats, hwrites]
    decide +kernel
  · rw [houtputs] at hfinal
    exact hfinal

end DerivedStats.Pipeline
