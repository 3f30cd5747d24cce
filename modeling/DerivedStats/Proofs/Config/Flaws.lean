import DerivedStats.Config.Validate
import Mathlib.Data.List.Basic

/-! The problems of a configuration by the places where they lie. -/

namespace DerivedStats.Config

open Formula (compile)
open Pipeline (Formulas Spec)

section

/-- One problem for each place that holds one, in the order of the places. -/
def Lists (holds : List Nat → Problem → Prop) (problems : List Problem) : Prop :=
  ∃ found : List (List Nat × Problem), (∀ place p, (place, p) ∈ found ↔ holds place p) ∧
    found.Pairwise (fun a b => a.1 < b.1) ∧ problems = found.map Prod.snd

namespace Lists

variable {holds holds' : List Nat → Problem → Prop} {ps qs : List Problem}

lemma congr (h : Lists holds ps) (hholds : ∀ place p, holds place p ↔ holds' place p) :
    Lists holds' ps := by
  obtain ⟨found, hfound, horder, hps⟩ := h
  exact ⟨found, fun place p => (hfound place p).trans (hholds place p), horder, hps⟩

lemma none (h : ∀ place p, ¬holds place p) : Lists holds [] :=
  ⟨[], fun place p => by simpa using h place p, .nil, rfl⟩

lemma toList (o : Option Problem) : Lists (fun place p => place = [] ∧ o = some p) o.toList := by
  cases o with
  | none => exact none fun place p h => by cases h.2
  | some q => exact ⟨[([], q)], by simp [eq_comm], List.pairwise_singleton _ _, rfl⟩

lemma append (h : Lists holds ps) (h' : Lists holds' qs)
    (horder : ∀ place p place' p', holds place p → holds' place' p' → place < place') :
    Lists (fun place p => holds place p ∨ holds' place p) (ps ++ qs) := by
  obtain ⟨found, hfound, hsorted, rfl⟩ := h
  obtain ⟨found', hfound', hsorted', rfl⟩ := h'
  refine ⟨found ++ found', ?_, ?_, by rw [List.map_append]⟩
  · intro place p
    rw [List.mem_append, hfound, hfound']
  · refine List.pairwise_append.mpr ⟨hsorted, hsorted', ?_⟩
    rintro ⟨place, p⟩ hp ⟨place', p'⟩ hp'
    exact horder _ _ _ _ ((hfound _ _).mp hp) ((hfound' _ _).mp hp')

lemma under (n : Nat) (h : Lists holds ps) :
    Lists (fun place p => ∃ rest, place = n :: rest ∧ holds rest p) ps := by
  obtain ⟨found, hfound, hsorted, rfl⟩ := h
  refine ⟨found.map fun f => (n :: f.1, f.2), ?_, ?_, by rw [List.map_map]; rfl⟩
  · intro place p
    simp only [List.mem_map, Prod.mk.injEq, Prod.exists, hfound]
    constructor
    · rintro ⟨rest, q, hq, rfl, rfl⟩
      exact ⟨rest, rfl, hq⟩
    · rintro ⟨rest, rfl, hp⟩
      exact ⟨rest, p, hp, rfl, rfl⟩
  · refine List.pairwise_map.mpr (hsorted.imp fun hlt => ?_)
    exact List.cons_lt_cons_iff.mpr (.inr ⟨rfl, hlt⟩)

lemma each {α : Type} {held : α → List Nat → Problem → Prop} {problemsOf : α → List Problem}
    (h : ∀ a, Lists (held a) (problemsOf a)) (xs : List α) (n : Nat) :
    Lists (fun place p => ∃ k a rest, place = (n + k) :: rest ∧ xs[k]? = some a ∧ held a rest p)
      (xs.flatMap problemsOf) := by
  induction xs generalizing n with
  | nil =>
    refine none fun place p hheld => ?_
    obtain ⟨k, a, rest, -, ha, -⟩ := hheld
    cases ha
  | cons a xs ih =>
    refine (append ((h a).under n) (ih (n + 1)) ?_).congr fun place p => ?_
    · rintro _ p _ p' ⟨rest, rfl, -⟩ ⟨k, b, rest', rfl, -⟩
      exact List.cons_lt_cons_iff.mpr (.inl (by omega))
    · constructor
      · rintro (⟨rest, rfl, hheld⟩ | ⟨k, b, rest, rfl, hb, hheld⟩)
        · exact ⟨0, a, rest, rfl, rfl, hheld⟩
        · exact ⟨k + 1, b, rest, by rw [Nat.add_right_comm, Nat.add_assoc], hb, hheld⟩
      · rintro ⟨k, b, rest, rfl, hb, hheld⟩
        cases k with
        | zero =>
          cases hb
          exact .inl ⟨rest, rfl, hheld⟩
        | succ k => exact .inr ⟨k, b, rest, by rw [Nat.add_right_comm, Nat.add_assoc], hb, hheld⟩

lemma eq_nil_iff (h : Lists holds ps) : ps = [] ↔ ∀ place p, ¬holds place p := by
  obtain ⟨found, hfound, -, rfl⟩ := h
  rw [List.map_eq_nil_iff, List.eq_nil_iff_forall_not_mem]
  constructor
  · exact fun hnone place p hp => hnone (place, p) ((hfound place p).mpr hp)
  · exact fun hnone f hf => hnone f.1 f.2 ((hfound f.1 f.2).mp hf)

end Lists

end

def tablesOf (spec : Spec) : List (String × Formulas) :=
  [("Definition", spec.definition), ("Tools", spec.tools)] ++
    match spec.calculate with
    | .flat formulas => [("Calculate", formulas)]
    | .byMode modes => modes.map fun m => (s!"Calculate.{m.1}", m.2)

inductive Uncompiled (owner : String) (spec : Spec) : List Nat → Problem → Prop
  | line {table line : Nat} {label name text : String} {formulas : Formulas}
      {err : Formula.CompileError} : (tablesOf spec)[table]? = some (label, formulas) →
      formulas[line]? = some (name, text) → compile text = .error err →
      Uncompiled owner spec [table, line] (.formula owner label name err)

inductive Flaw (c : Config) : List Nat → Problem → Prop
  | battle {b : Pipeline.Battle} {place : List Nat} {p : Problem} : c.battle = some b →
      Uncompiled "battle" b.spec place p → Flaw c (0 :: place) p
  | system {k : Nat} {name : String} {spec : Spec} {place : List Nat} {p : Problem} :
      c.systems[k]? = some (name, spec) → Uncompiled s!"systems.{name}" spec place p →
      Flaw c (1 :: k :: place) p
  | parent {k : Nat} {name parent : String} {cls : ClassConfig} :
      c.classes[k]? = some (name, cls) → cls.parent = some parent →
      (∀ other ∈ c.classes, ¬Text.sameLetters other.1 parent) →
      Flaw c [2, k] (.unknownParent name parent)

lemma lines_eq (spec : Spec) :
    spec.lines = (tablesOf spec).flatMap fun t => Spec.linesOf t.1 t.2 := by
  rw [Spec.lines, tablesOf]
  cases spec.calculate with
  | flat formulas => simp
  | byMode modes => simp [List.flatMap_map]

lemma specProblems_lists (owner : String) (spec : Spec) :
    Lists (Uncompiled owner spec) (specProblems owner spec) := by
  have hline : ∀ (label : String) (f : String × String), Lists
      (fun place p => place = [] ∧ lineProblem? owner ⟨label, f.1, f.2⟩ = some p)
      (lineProblem? owner ⟨label, f.1, f.2⟩).toList := fun label f => .toList _
  have htable := fun (t : String × Formulas) => Lists.each (hline t.1) t.2 0
  have hall := Lists.each htable (tablesOf spec) 0
  rw [specProblems, lines_eq, List.filterMap_flatMap]
  simp only [Spec.linesOf, List.filterMap_eq_flatMap_toList, List.flatMap_map]
  refine hall.congr fun place p => ?_
  constructor
  · rintro ⟨table, ⟨label, formulas⟩, _, rfl, htable, line, ⟨name, text⟩, _, rfl, hline, rfl, hp⟩
    rw [Nat.zero_add, Nat.zero_add]
    rw [lineProblem?] at hp
    split at hp
    · cases hp
    · next err herr =>
      obtain rfl := Option.some.inj hp
      exact .line htable hline herr
  · rintro ⟨htable, hline, herr⟩
    refine ⟨_, _, _, by rw [Nat.zero_add], htable, _, _, _, by rw [Nat.zero_add], hline, rfl, ?_⟩
    rw [lineProblem?]
    simp only [herr]

lemma classProblem?_eq_some {classes : Table String ClassConfig} {name : String} {cls : ClassConfig}
    {p : Problem} : classProblem? classes name cls = some p ↔
      ∃ parent, cls.parent = some parent ∧ (∀ other ∈ classes, ¬Text.sameLetters other.1 parent) ∧
        p = .unknownParent name parent := by
  rw [classProblem?, Option.bind_eq_some_iff]
  refine exists_congr fun parent => and_congr_right fun _ => ?_
  split
  · next hany =>
    obtain ⟨other, hother, hsame⟩ := List.any_eq_true.mp hany
    constructor
    · intro h
      cases h
    · exact fun h => absurd hsame (h.1 other hother)
  · next hnone =>
    rw [Option.some.injEq, eq_comm]
    refine (and_iff_right fun other hother hsame => hnone ?_).symm
    exact List.any_eq_true.mpr ⟨other, hother, hsame⟩

theorem problems_lists (c : Config) : Lists (Flaw c) c.problems := by
  have hbattle : Lists (fun place p => ∃ b, c.battle = some b ∧ Uncompiled "battle" b.spec place p)
      (c.battle.elim [] fun b => specProblems "battle" b.spec) := by
    cases c.battle with
    | none => exact .none fun place p h => by cases h.choose_spec.1
    | some b => exact (specProblems_lists "battle" b.spec).congr fun place p => by simp
  have hsystems := Lists.each (fun system : String × Spec =>
    specProblems_lists s!"systems.{system.1}" system.2) c.systems 0
  have hclasses := Lists.each (fun cls : String × ClassConfig =>
    Lists.toList (classProblem? c.classes cls.1 cls.2)) c.classes 0
  rw [problems, List.filterMap_eq_flatMap_toList]
  refine (((hbattle.under 0).append (hsystems.under 1) ?_).append (hclasses.under 2) ?_).congr
    fun place p => ?_
  · rintro _ _ _ _ ⟨_, rfl, -⟩ ⟨_, rfl, -⟩
    exact List.cons_lt_cons_iff.mpr (.inl (by decide))
  · rintro _ _ _ _ (⟨_, rfl, -⟩ | ⟨_, rfl, -⟩) ⟨_, rfl, -⟩
    · exact List.cons_lt_cons_iff.mpr (.inl (by decide))
    · exact List.cons_lt_cons_iff.mpr (.inl (by decide))
  · simp only [classProblem?_eq_some]
    constructor
    · rintro ((⟨_, rfl, b, hb, h⟩ | ⟨_, rfl, k, _, _, rfl, hs, h⟩) |
        ⟨_, rfl, k, cls, _, rfl, hc, rfl, parent, hp, hunknown, rfl⟩)
      · exact .battle hb h
      · rw [Nat.zero_add]
        exact .system hs h
      · rw [Nat.zero_add]
        exact .parent hc hp hunknown
    · rintro (⟨hb, h⟩ | ⟨hs, h⟩ | ⟨hc, hp, hunknown⟩)
      · exact .inl (.inl ⟨_, rfl, _, hb, h⟩)
      · exact .inl (.inr ⟨_, rfl, _, _, _, by rw [Nat.zero_add], hs, h⟩)
      · exact .inr ⟨_, rfl, _, _, _, by rw [Nat.zero_add], hc, rfl, _, hp, hunknown, rfl⟩

end DerivedStats.Config
