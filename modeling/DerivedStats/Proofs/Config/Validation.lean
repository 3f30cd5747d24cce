import DerivedStats.Proofs.Config.Flaws
import DerivedStats.Proofs.Pipeline.Notices

/-! A configuration has no problems just when its formulas compile and its classes have parents, and
then its runs only ever fail by the number of arguments of a call. -/

namespace DerivedStats.Config

open Formula (compile)
open Pipeline

def Compiles (c : Config) : Prop :=
  (∀ b, c.battle = some b → b.spec.Compiles) ∧ ∀ system ∈ c.systems, system.2.Compiles

def ParentsKnown (c : Config) : Prop :=
  ∀ cls ∈ c.classes, ∀ parent, cls.2.parent = some parent →
    ∃ other ∈ c.classes, Text.sameLetters other.1 parent

section

variable (c : Config) (setting : Setting) (s : Session)

/-- While damage is computed or a profile updated from `s`, the formulas of a spec run from `t`. -/
inductive Runs : String → Spec → Invocation → Session → Prop
  | damage {b : Battle} (hb : c.battle = some b) (attacker : EntityId) (defender : Option EntityId)
    (a : Attack) : Runs battleOwner b.spec (a.invocation b attacker defender) s
  | update {front back : Systems} {owner : String} {spec : Spec}
    (hs : c.systems = front ++ (owner, spec) :: back) (id : EntityId) :
    Runs owner spec (.solo id) ((updateProfile setting id front).run s).2

end

lemma not_uncompiled_iff {owner : String} {spec : Spec} :
    (∀ place p, ¬Uncompiled owner spec place p) ↔ ∀ t ∈ tablesOf spec, ∀ f ∈ t.2, Compiled f.2 := by
  constructor
  · rintro h ⟨label, formulas⟩ ht ⟨name, text⟩ hf
    obtain ⟨table, htable⟩ := List.mem_iff_getElem?.mp ht
    obtain ⟨line, hline⟩ := List.mem_iff_getElem?.mp hf
    cases hcompile : compile text with
    | ok e => exact ⟨e, hcompile⟩
    | error err => exact absurd (.line htable hline hcompile) (h _ _)
  · rintro h place p ⟨htable, hline, herr⟩
    obtain ⟨e, he⟩ := h _ (List.mem_of_getElem? htable) _ (List.mem_of_getElem? hline)
    rw [herr] at he
    cases he

lemma compiles_iff {spec : Spec} :
    spec.Compiles ↔ ∀ t ∈ tablesOf spec, ∀ f ∈ t.2, Compiled f.2 := by
  rw [tablesOf]
  simp only [List.cons_append, List.nil_append, List.forall_mem_cons]
  constructor
  · rintro ⟨hdefinition, htools, hflat, hmodes⟩
    refine ⟨hdefinition, htools, ?_⟩
    cases hcalculate : spec.calculate with
    | flat formulas => exact List.forall_mem_singleton.mpr (hflat formulas hcalculate)
    | byMode modes => exact List.forall_mem_map.mpr (hmodes modes hcalculate)
  · rintro ⟨hdefinition, htools, hcalculate⟩
    refine ⟨hdefinition, htools, fun formulas h => ?_, fun modes h => ?_⟩
    · rw [h] at hcalculate
      exact List.forall_mem_singleton.mp hcalculate
    · rw [h] at hcalculate
      exact List.forall_mem_map.mp hcalculate

lemma not_flaw_iff (c : Config) : (∀ place p, ¬Flaw c place p) ↔ c.Compiles ∧ c.ParentsKnown := by
  constructor
  · intro h
    refine ⟨⟨fun b hb => ?_, ?_⟩, ?_⟩
    · exact compiles_iff.mpr (not_uncompiled_iff.mp fun place p hp => h _ _ (.battle hb hp))
    · rintro ⟨name, spec⟩ hmem
      obtain ⟨k, hk⟩ := List.mem_iff_getElem?.mp hmem
      exact compiles_iff.mpr (not_uncompiled_iff.mp fun place p hp => h _ _ (.system hk hp))
    · rintro ⟨name, cls⟩ hmem parent hparent
      obtain ⟨k, hk⟩ := List.mem_iff_getElem?.mp hmem
      by_contra! hunknown
      exact h _ _ (.parent hk hparent hunknown)
  · rintro ⟨⟨hbattle, hsystems⟩, hparents⟩ place p hflaw
    cases hflaw with
    | battle hb hp => exact not_uncompiled_iff.mpr (compiles_iff.mp (hbattle _ hb)) _ _ hp
    | system hs hp =>
      have hcompiles := hsystems _ (List.mem_of_getElem? hs)
      exact not_uncompiled_iff.mpr (compiles_iff.mp hcompiles) _ _ hp
    | parent hc hparent hunknown =>
      obtain ⟨other, hother, hsame⟩ := hparents _ (List.mem_of_getElem? hc) _ hparent
      exact hunknown other hother hsame

lemma Runs.compiles {c : Config} {setting : Setting} {s t : Session} {owner : String} {spec : Spec}
    {i : Invocation} (h : c.Runs setting s owner spec i t) (hc : c.Compiles) : spec.Compiles := by
  cases h with
  | damage hb => exact hc.1 _ hb
  | @update front back owner spec hs id =>
    apply hc.2 (owner, spec)
    rw [hs]
    exact List.mem_append_cons_self

/-- The problems of a configuration are the formulas that do not compile and the classes without the
parent they name, one for each and in order. Without problems, no run of the configuration meets a
formula that does not compile: what it reports, what counts as zero and what is missing in its
outputs is due to the number of arguments of some call. -/
theorem problems_sound_and_complete (c : Config) :
    (c.problems = [] ↔ c.Compiles ∧ c.ParentsKnown) ∧ Lists (Flaw c) c.problems ∧
    (c.problems = [] → ∀ setting,
      (∀ b, c.battle = some b → ∀ attacker defender a,
        Notes OfCompiled (computeDamage setting b attacker defender a)) ∧
      (∀ id, Notes OfCompiled (updateProfile setting id c.systems)) ∧
      ∀ s owner spec i t, c.Runs setting s owner spec i t → ArityOnly setting owner spec i t) := by
  have hiff : c.problems = [] ↔ c.Compiles ∧ c.ParentsKnown :=
    (problems_lists c).eq_nil_iff.trans (not_flaw_iff c)
  refine ⟨hiff, problems_lists c, fun hnone setting => ?_⟩
  obtain ⟨hc, -⟩ := hiff.mp hnone
  refine ⟨fun b hb attacker defender a => ?_, fun id => ?_, fun s owner spec i t hruns => ?_⟩
  · exact .run (hc.1 b hb) setting battleOwner _
  · exact .updateProfile hc.2 setting id
  · exact (hruns.compiles hc).arityOnly setting owner i t

def arena : Config where
  general := defaultGeneral
  attributes := .category []
  classes := [("Novice", ⟨none, 1, none⟩), ("Knight", ⟨none, 2, some "novice"⟩)]
  battle := some ⟨[], ⟨[("power", "%entity-status#STR%")], [],
    .byMode [("solo", [("final", "power * 2")]), ("default", [("final", "max(power)")])]⟩⟩
  systems := [("Health", ⟨[], [("bonus", "level * 2")], .flat [("health", "10 + bonus")]⟩)]

theorem problems_sound_and_complete_arena :
    arena.problems = [] ∧ ∀ setting,
      (∀ b, arena.battle = some b → ∀ attacker defender a,
        Notes OfCompiled (computeDamage setting b attacker defender a)) ∧
      (∀ id, Notes OfCompiled (updateProfile setting id arena.systems)) ∧
      ∀ s owner spec i t, arena.Runs setting s owner spec i t →
        ArityOnly setting owner spec i t := by
  have hnone : arena.problems = [] := by decide +kernel
  exact ⟨hnone, (problems_sound_and_complete arena).2.2 hnone⟩

end DerivedStats.Config
