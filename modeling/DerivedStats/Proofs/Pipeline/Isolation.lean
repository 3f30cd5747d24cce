import DerivedStats.Proofs.Pipeline.Faults
import DerivedStats.Proofs.Pipeline.Keys
import DerivedStats.Proofs.Pipeline.Report

/-! A formula that fails is isolated: the run goes on as if a definition or tool were zero, and as
if an entry of the calculation were not there. -/

namespace DerivedStats.Pipeline

open Formula (Cache Place Section)

inductive Failing (setting : Setting) (owner : String) (spec : Spec) (i : Invocation)
    (s : Session) : Section → String → Prop
  | definition {front back : Formulas} {name text : String}
    (hentry : spec.definition = front ++ (name, text) :: back)
    (hfaulty : let r := (bindAll setting i owner .definition front (Table.ofPairs i.bindings)).run s
      Faulty setting i r.1 text r.2) : Failing setting owner spec i s .definition name
  | tools {front back : Formulas} {name text : String}
    (hentry : spec.tools = front ++ (name, text) :: back)
    (hfaulty : let d := (bindAll setting i owner .definition spec.definition
        (Table.ofPairs i.bindings)).run s
      let r := (bindAll setting i owner .tools front d.1).run d.2
      Faulty setting i r.1 text r.2) : Failing setting owner spec i s .tools name
  | calculate {front back : Formulas} {name text : String}
    (hentry : (spec.selected i).2 = front ++ (name, text) :: back)
    (hfaulty : let r := (calculating setting owner spec i front).run s
      Faulty setting i r.1.bindings text r.2) : Failing setting owner spec i s .calculate name

def Calculation.without (c : Calculation) (mode name : String) : Calculation :=
  match c with
  | .flat formulas => .flat (formulas.erase name)
  | .byMode modes =>
    match c.select? mode with
    | some (selected, formulas) => .byMode (modes.put selected (formulas.erase name))
    | none => c

def Spec.isolating (spec : Spec) (i : Invocation) : Section → String → Spec
  | .definition, name => { spec with definition := spec.definition.put name "0" }
  | .tools, name => { spec with tools := spec.tools.put name "0" }
  | .calculate, name => { spec with calculate := spec.calculate.without i.resolvedMode name }
  | .adhoc, _ => spec

section

variable {setting : Setting} {i : Invocation} {owner : String} {name text : String}

lemma bindAll_append (part : Section) (front back : Formulas) (bindings : Table String Float) :
    bindAll setting i owner part (front ++ back) bindings =
      bindAll setting i owner part front bindings >>= bindAll setting i owner part back := by
  induction front generalizing bindings with
  | nil => rfl
  | cons f rest ih =>
    obtain ⟨name, text⟩ := f
    simp only [List.cons_append, bindAll, bind_assoc, ih]

lemma place_ne_of_listed {part : Section} {formulas : Formulas} (hname : name ∉ formulas.keys) :
    ∀ x ∈ listed owner part formulas, x.place ≠ ⟨owner, part, name⟩ := by
  intro x hx hplace
  obtain ⟨f, hf, rfl⟩ := List.mem_map.mp hx
  exact hname ((Place.mk.inj hplace).2.2 ▸ List.mem_map_of_mem hf)

lemma place_ne_of_part {part part' : Section} (hpart : part ≠ part') {formulas : Formulas} :
    ∀ x ∈ listed owner part formulas, x.place ≠ ⟨owner, part', name⟩ := by
  intro x hx hplace
  obtain ⟨f, hf, rfl⟩ := List.mem_map.mp hx
  exact hpart (Place.mk.inj hplace).2.1

lemma place_ne_of_calculated {mode : String} {formulas : Formulas} (hname : name ∉ formulas.keys) :
    ∀ x ∈ calculated owner mode formulas,
      x.place ≠ ⟨owner, .calculate, calculationKey mode name⟩ := by
  intro x hx hplace
  obtain ⟨f, hf, rfl⟩ := List.mem_map.mp hx
  have hkey := (Place.mk.inj hplace).2.2
  rcases (calculationKey_eq_iff ..).mp hkey with ⟨-, heq⟩ | hswallows | hswallows
  · exact hname (heq ▸ List.mem_map_of_mem hf)
  · exact hswallows.mode_ne rfl
  · exact hswallows.mode_ne rfl

lemma place_ne_of_calculated_part {part : Section} (hpart : part ≠ .calculate) {mode : String}
    {formulas : Formulas} :
    ∀ x ∈ calculated owner mode formulas, x.place ≠ ⟨owner, part, name⟩ := by
  intro x hx hplace
  obtain ⟨f, hf, rfl⟩ := List.mem_map.mp hx
  exact hpart (Place.mk.inj hplace).2.1.symm

lemma bindAll_cons_sameEnd {part : Section} {back : Formulas} {bindings : Table String Float}
    {s : Session} {result : Option Float} (hresult : result.getD 0 = 0) (hback : name ∉ back.keys)
    (h : SameEnd (Alike (· = ⟨owner, part, name⟩))
      (evaluate setting i bindings ⟨⟨owner, part, name⟩, name, text⟩) s (pure result) s) :
    SameEnd (Alike (· = ⟨owner, part, name⟩))
      (bindAll setting i owner part ((name, text) :: back) bindings) s
      (bindAll setting i owner part back (bindings.put name 0)) s := by
  have hends := h.bind fun x => (Alike.steps _ setting).bindAll i owner part
    (place_ne_of_listed hback) (bindings.put name (x.getD 0))
  simp only [pure_bind, hresult] at hends
  exact hends

lemma bindAll_isolated {part : Section} {front back : Formulas} {bindings : Table String Float}
    {s : Session} (hfront : name ∉ front.keys) (hback : name ∉ back.keys)
    (hnew : s.cache.get? ⟨owner, part, name⟩ = none)
    (hfaulty : let r := (bindAll setting i owner part front bindings).run s
      Faulty setting i r.1 text r.2) :
    SameEnd (Alike (· = ⟨owner, part, name⟩))
      (bindAll setting i owner part (front ++ (name, text) :: back) bindings) s
      (bindAll setting i owner part (front ++ (name, "0") :: back) bindings) s := by
  have hreached : ((bindAll setting i owner part front bindings).run s).2.cache.get?
      ⟨owner, part, name⟩ = none := by
    rw [(Looks.bindAll setting i owner part front bindings).get? (place_ne_of_listed hfront), hnew]
  have hfailing := bindAll_cons_sameEnd rfl hback
    (evaluate_faulty (x := ⟨⟨owner, part, name⟩, name, text⟩) hreached hfaulty)
  have hzero := bindAll_cons_sameEnd rfl hback
    (evaluate_zero (x := ⟨⟨owner, part, name⟩, name, "0"⟩) setting i
      ((bindAll setting i owner part front bindings).run s).1 hreached rfl)
  rw [bindAll_append, bindAll_append]
  exact (hfailing.trans hzero.symm).after

lemma calculateAll_cons_sameEnd {mode : String} {definition back : Formulas} {p : Progress}
    {s : Session} (hback : name ∉ back.keys)
    (h : SameEnd (Alike (· = ⟨owner, .calculate, calculationKey mode name⟩))
      (evaluate setting i p.bindings ⟨⟨owner, .calculate, calculationKey mode name⟩, name, text⟩) s
      (pure none) s) :
    SameEnd (Alike (· = ⟨owner, .calculate, calculationKey mode name⟩))
      (calculateAll setting i owner mode definition ((name, text) :: back) p) s
      (calculateAll setting i owner mode definition back p) s := by
  obtain ⟨hnone, hsession⟩ := h
  change _ = none at hnone
  rw [calculateAll, SameEnd, run_bind, hnone]
  exact (Alike.steps _ setting).calculateAll i owner mode definition
    (place_ne_of_calculated hback) p _ _ hsession

lemma targets_put_zero {definition front back : Formulas}
    (hentry : definition = front ++ (name, text) :: back) (hfront : name ∉ front.keys)
    (htext : writeBackTarget? text = none) (other : String) :
    ((definition.put name "0").get? other).bind writeBackTarget? =
      (definition.get? other).bind writeBackTarget? := by
  rw [Table.get?_put]
  split
  · next hsame =>
    rw [hsame, hentry, Table.get?_append_cons hfront, Option.bind_some, Option.bind_some,
      writeBackTarget?_zero, htext]
  · rfl

lemma calculateAll_congr {definition definition' : Formulas}
    (h : ∀ name, (definition.get? name).bind writeBackTarget? =
      (definition'.get? name).bind writeBackTarget?) (mode : String) (formulas : Formulas)
    (p : Progress) :
    calculateAll setting i owner mode definition formulas p =
      calculateAll setting i owner mode definition' formulas p := by
  have hwrite : ∀ name x, writeBack setting i definition name x =
      writeBack setting i definition' name x := fun name x => by rw [writeBack, writeBack, h]
  induction formulas generalizing p with
  | nil => rfl
  | cons f rest ih =>
    refine bind_congr fun result => ?_
    cases result with
    | none => exact ih p
    | some x => simp only [hwrite, ih]

end

section

variable {setting : Setting} {owner : String} {spec : Spec} {i : Invocation} {s : Session}
  {front back : Formulas} {name text : String}

lemma calculating_definition (hempty : s.cache.entries = [])
    (hnames : spec.definition.keys.Nodup)
    (hentry : spec.definition = front ++ (name, text) :: back)
    (hfaulty : let r := (bindAll setting i owner .definition front (Table.ofPairs i.bindings)).run s
      Faulty setting i r.1 text r.2) :
    SameEnd (Alike (· = ⟨owner, .definition, name⟩))
      (calculating setting owner spec i (spec.selected i).2) s
      (calculating setting owner (spec.isolating i .definition name) i (spec.selected i).2) s := by
  obtain ⟨hfront, hback⟩ := Table.not_mem_of_nodup (hentry ▸ hnames)
  have hnew : s.cache.get? ⟨owner, .definition, name⟩ = none := Cache.get?_of_empty hempty _
  have hdefined := bindAll_isolated hfront hback hnew hfaulty
  rw [← hentry, ← Table.put_append_cons hfront text "0", ← hentry] at hdefined
  refine hdefined.bind fun defined => ?_
  refine ((Alike.steps _ setting).bindAll i owner .tools (place_ne_of_part (by decide)) _).bind
    fun tooled => ?_
  -- results are written back by the texts of the definitions, so zero must not be a target either
  have htargets := targets_put_zero hentry hfront hfaulty.no_target
  change Respects _ _ (calculateAll setting i owner (spec.selected i).1
    (spec.definition.put name "0") _ _)
  rw [calculateAll_congr htargets]
  exact (Alike.steps _ setting).calculateAll i owner _ _ (place_ne_of_calculated_part (by decide)) _

lemma calculating_tools (hempty : s.cache.entries = []) (hnames : spec.tools.keys.Nodup)
    (hentry : spec.tools = front ++ (name, text) :: back)
    (hfaulty : let d := (bindAll setting i owner .definition spec.definition
        (Table.ofPairs i.bindings)).run s
      let r := (bindAll setting i owner .tools front d.1).run d.2
      Faulty setting i r.1 text r.2) :
    SameEnd (Alike (· = ⟨owner, .tools, name⟩))
      (calculating setting owner spec i (spec.selected i).2) s
      (calculating setting owner (spec.isolating i .tools name) i (spec.selected i).2) s := by
  obtain ⟨hfront, hback⟩ := Table.not_mem_of_nodup (hentry ▸ hnames)
  have hnew : ((bindAll setting i owner .definition spec.definition
      (Table.ofPairs i.bindings)).run s).2.cache.get? ⟨owner, .tools, name⟩ = none := by
    rw [(Looks.bindAll setting i owner .definition _ _).get? (place_ne_of_part (by decide)),
      Cache.get?_of_empty hempty]
  have htooled := bindAll_isolated hfront hback hnew hfaulty
  rw [← hentry, ← Table.put_append_cons hfront text "0", ← hentry] at htooled
  exact SameEnd.after <| htooled.bind fun _ =>
    (Alike.steps _ setting).calculateAll i owner _ _ (place_ne_of_calculated_part (by decide)) _

lemma looks_calculating (formulas : Formulas) :
    Looks (listed owner .definition spec.definition ++ (listed owner .tools spec.tools ++
      calculated owner (spec.selected i).1 formulas)) (calculating setting owner spec i formulas) :=
  (Looks.bindAll setting i owner .definition _ _).bind fun defined =>
    (Looks.bindAll setting i owner .tools _ defined).bind fun _ =>
      Looks.calculateAll setting i owner _ _ _ _

lemma calculating_entry (hempty : s.cache.entries = [])
    (hnames : (Table.keys (front ++ (name, text) :: back)).Nodup)
    (hfaulty : let r := (calculating setting owner spec i front).run s
      Faulty setting i r.1.bindings text r.2) :
    SameEnd (Alike (· = ⟨owner, .calculate, calculationKey (spec.selected i).1 name⟩))
      (calculating setting owner spec i (front ++ (name, text) :: back)) s
      (calculating setting owner spec i (front ++ back)) s := by
  obtain ⟨hfront, hback⟩ := Table.not_mem_of_nodup hnames
  have hreached : ((calculating setting owner spec i front).run s).2.cache.get?
      ⟨owner, .calculate, calculationKey (spec.selected i).1 name⟩ = none := by
    rw [(looks_calculating front).get?, Cache.get?_of_empty hempty]
    simp only [List.forall_mem_append]
    exact ⟨place_ne_of_part (by decide), place_ne_of_part (by decide),
      place_ne_of_calculated hfront⟩
  rw [SameEnd, calculating_append, calculating_append]
  exact calculateAll_cons_sameEnd hback
    (evaluate_faulty (x := spec.entrySource owner i (name, text)) hreached hfaulty)

end

lemma Calculation.select?_without {c : Calculation} {mode selected : String} {formulas : Formulas}
    (h : c.select? mode = some (selected, formulas)) (name : String) :
    (c.without mode name).select? mode = some (selected, formulas.erase name) := by
  cases c with
  | flat table =>
    cases h
    rfl
  | byMode modes =>
    simp only [without, h]
    change (findMode? _ mode).or (findMode? _ defaultMode) = _
    rcases Option.or_eq_some_iff.mp h with hmode | ⟨hnone, hdefault⟩
    · have hfound : findMode? (modes.put selected (formulas.erase name)) mode = _ :=
        Table.find?_put_of_find? (Text.sameLetters · mode) hmode _
      rw [hfound, Option.some_or]
    · have hother : Text.sameLetters selected mode = false := by
        have hmem := List.mem_of_find?_eq_some hdefault
        simpa using List.find?_eq_none.mp hnone _ hmem
      have hmissing : findMode? (modes.put selected (formulas.erase name)) mode = none :=
        Table.find?_put_eq_none (Text.sameLetters · mode) hother hnone _
      have hfound : findMode? (modes.put selected (formulas.erase name)) defaultMode = _ :=
        Table.find?_put_of_find? (Text.sameLetters · defaultMode) hdefault _
      rw [hmissing, hfound, Option.none_or]

lemma Spec.selected_isolating {spec : Spec} {i : Invocation} {front back : Formulas}
    {name text : String} (hentry : (spec.selected i).2 = front ++ (name, text) :: back) :
    ((spec.isolating i .calculate name).selected i).1 = (spec.selected i).1 ∧
      ((spec.isolating i .calculate name).selected i).2 = (spec.selected i).2.erase name := by
  cases hselect : spec.calculate.select? i.resolvedMode with
  | none =>
    rw [Spec.selected_eq, hselect] at hentry
    simp at hentry
  | some selected =>
    simp only [Spec.selected_eq, Spec.isolating, hselect, Calculation.select?_without hselect,
      Option.getD_some, and_self]

lemma calculating_isolating {setting : Setting} {owner : String} {spec : Spec} {i : Invocation}
    {name : String}
    (hmode : ((spec.isolating i .calculate name).selected i).1 = (spec.selected i).1)
    (formulas : Formulas) :
    calculating setting owner (spec.isolating i .calculate name) i formulas =
      calculating setting owner spec i formulas := by
  simp only [calculating, hmode]
  rfl

lemma run_drawn (setting : Setting) (owner : String) (spec : Spec) (i : Invocation) (s : Session) :
    ((run setting owner spec i).run s).2.drawn =
      ((calculating setting owner spec i (spec.selected i).2).run s).2.drawn := by
  simp only [run, calculating, Spec.selected_eq, run_bind]
  cases spec.calculate.select? i.resolvedMode with
  | none => rfl
  | some selected => rfl

lemma run_eq_of_calculating {out : Place → Prop} {setting : Setting} {owner : String}
    {spec spec' : Spec} {i : Invocation} {s : Session}
    (hmode : (spec.selected i).1 = (spec'.selected i).1)
    (h : SameEnd (Alike out) (calculating setting owner spec i (spec.selected i).2) s
      (calculating setting owner spec' i (spec'.selected i).2) s) :
    let r := (run setting owner spec i).run s
    let r' := (run setting owner spec' i).run s
    r.1 = r'.1 ∧ r.2.profiles = r'.2.profiles ∧ r.2.drawn = r'.2.drawn := by
  obtain ⟨houtcome, hprofiles⟩ := run_eq_calculating setting owner spec i s
  obtain ⟨houtcome', hprofiles'⟩ := run_eq_calculating setting owner spec' i s
  obtain ⟨hprogress, hsession⟩ := h
  intro r r'
  refine ⟨?_, ?_, ?_⟩
  · rw [houtcome, houtcome', hprogress, hmode]
  · rw [hprofiles, hprofiles', hsession.profiles]
  · rw [run_drawn, run_drawn, hsession.drawn]

structure Spec.NamesApart (spec : Spec) (i : Invocation) : Prop where
  definition : spec.definition.keys.Nodup
  tools : spec.tools.keys.Nodup
  calculation : (spec.selected i).2.keys.Nodup

/-- A run in which a formula fails is the run in which the formula is zero, or if it is an entry of
the calculation, is not there: the outcome, the profiles and the samples drawn are the same, and a
failing entry leaves the bindings of its own name and all others as they were. -/
theorem failing_formula_isolated (setting : Setting) (owner : String) (spec : Spec) (i : Invocation)
    (s : Session) (hempty : s.cache.entries = []) (hnames : spec.NamesApart i) (part : Section)
    (name : String) (hfailing : Failing setting owner spec i s part name) :
    (let r := (run setting owner spec i).run s
      let r' := (run setting owner (spec.isolating i part name) i).run s
      r.1 = r'.1 ∧ r.2.profiles = r'.2.profiles ∧ r.2.drawn = r'.2.drawn) ∧
    (part = .calculate → ∃ front text back, (spec.selected i).2 = front ++ (name, text) :: back ∧
      ((calculating setting owner spec i (front ++ [(name, text)])).run s).1.bindings =
        ((calculating setting owner spec i front).run s).1.bindings) := by
  cases hfailing with
  | definition hentry hfaulty =>
    have hends := calculating_definition hempty hnames.definition hentry hfaulty
    exact ⟨run_eq_of_calculating rfl hends, fun hpart => by cases hpart⟩
  | tools hentry hfaulty =>
    have hends := calculating_tools hempty hnames.tools hentry hfaulty
    exact ⟨run_eq_of_calculating rfl hends, fun hpart => by cases hpart⟩
  | @calculate front back _ text hentry hfaulty =>
    have hapart := hnames.calculation
    rw [hentry] at hapart
    obtain ⟨hfront, hback⟩ := Table.not_mem_of_nodup hapart
    obtain ⟨hmode, htable⟩ := Spec.selected_isolating hentry
    have hends := calculating_entry hempty hapart hfaulty
    have hlist : front ++ [(name, text)] <+: front ++ (name, text) :: back := ⟨back, by simp⟩
    have hlast := calculating_entry hempty (hapart.sublist (hlist.sublist.map Prod.fst)) hfaulty
    -- so far one spec calculates two tables; the runs have a spec each
    rw [← calculating_isolating hmode (front ++ back), ← Table.erase_append_cons hfront hback text,
      ← hentry, ← htable] at hends
    rw [List.append_nil] at hlast
    exact ⟨run_eq_of_calculating hmode.symm hends, fun _ =>
      ⟨front, text, back, hentry, congrArg Progress.bindings hlast.1⟩⟩

def stumbling : Spec :=
  ⟨[("power", "1 +")], [("power", "4")], .flat [("power", "(("), ("final", "power * 2")]⟩

lemma stumbling_faulty (setting : Setting) (i : Invocation) (bindings : Table String Float)
    (s : Session) : Faulty setting i bindings "((" s := by
  have hnone : (Formula.compile "((").toOption.isNone = true := by decide +kernel
  cases hcompile : Formula.compile "((" with
  | error err => exact .inl ⟨err, hcompile⟩
  | ok e =>
    rw [hcompile] at hnone
    cases hnone

theorem failing_formula_isolated_stumbling :
    let setting : Setting := ⟨.unloaded, fun _ => 0⟩
    let s : Session := ⟨.empty, 0, [], []⟩
    let i : Invocation := .solo ⟨1⟩
    (s.cache.entries = [] ∧ stumbling.NamesApart i ∧
      Failing setting "Power" stumbling i s .calculate "power") ∧
    (let r := (run setting "Power" stumbling i).run s
      let r' := (run setting "Power" (stumbling.isolating i .calculate "power") i).run s
      r.1 = r'.1 ∧ r.2.profiles = r'.2.profiles ∧ r.2.drawn = r'.2.drawn) ∧
    (Section.calculate = .calculate → ∃ front text back,
      (stumbling.selected i).2 = front ++ ("power", text) :: back ∧
        ((calculating setting "Power" stumbling i (front ++ [("power", text)])).run s).1.bindings =
          ((calculating setting "Power" stumbling i front).run s).1.bindings) := by
  intro setting s i
  have hnames : stumbling.NamesApart i := ⟨by decide, by decide, by decide⟩
  have hentry : (stumbling.selected i).2 = [] ++ ("power", "((") :: [("final", "power * 2")] := rfl
  have hfailing : Failing setting "Power" stumbling i s .calculate "power" :=
    .calculate hentry (stumbling_faulty _ _ _ _)
  exact ⟨⟨rfl, hnames, hfailing⟩,
    failing_formula_isolated setting "Power" stumbling i s rfl hnames .calculate "power" hfailing⟩

end DerivedStats.Pipeline
