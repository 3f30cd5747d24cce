import DerivedStats.Formula.Context
import DerivedStats.Proofs.Attribute.Keys
import DerivedStats.Proofs.Formula.References

/-! The spellings of a stat: a dynamic reference with or without a role, under either beginning, and
the shorthand of the role. All of them read the stat under one canonical key. -/

namespace DerivedStats.Formula

open Attribute (canonicalKey)
open Text (isBlank trimmed)

structure IsAttribute (a : String) : Prop where
  nonblank : ∃ ch ∈ a.toList, isBlank ch = false
  unmarked : '#' ∉ a.toList

inductive Selects (suffix : String) : Role → Prop
  | secondary : Text.lower (Text.trim suffix) ∈ ["$defender$", "defender", "secondary", "target"] →
      Selects suffix .secondary
  | primary : Text.lower (Text.trim suffix) ∉ ["$defender$", "defender", "secondary", "target"] →
      Selects suffix .primary

lemma Selects.ofText_eq {suffix : String} {role : Role} (h : Selects suffix role) :
    Role.ofText suffix = role := by
  rw [Role.ofText, secondaryNames]
  cases h with
  | secondary hin => exact if_pos (List.contains_iff_mem.mpr hin)
  | primary hout => exact if_neg (mt List.contains_iff_mem.mp hout)

inductive Spells : String → Role → String → Prop
  | dynamic {start a suffix : String} {role : Role} :
      start ∈ ["entity-status#", "player-status#"] → IsAttribute a → Selects suffix role →
      Spells (canonicalKey a) role (start ++ a ++ "#" ++ suffix)
  | alone {start a : String} : start ∈ ["entity-status#", "player-status#"] → IsAttribute a →
      Spells (canonicalKey a) .primary (start ++ a)
  | attacker {a : String} : IsAttribute a → Spells (canonicalKey a) .primary ("attacker_" ++ a)
  | defender {a : String} : IsAttribute a → Spells (canonicalKey a) .secondary ("defender_" ++ a)

namespace Reference

lemma dynamic?_start {name : String} {start body : List Char} (hstart : start ∈ dynamicStarts)
    (hname : name.toList = start ++ body) : dynamic? name = ofBody? body := by
  have hbody : afterStart? dynamicStarts name.toList = some body :=
    afterStart?_eq_some_iff.mpr ⟨start, hstart, hname⟩
  rw [← String.ofList_toList (s := name), dynamic?_ofList, hbody, Option.bind_some]

lemma dynamic?_other {name : String} {c : Char} {cs : List Char} (hname : name.toList = c :: cs)
    (he : c ≠ 'e') (hp : c ≠ 'p') : dynamic? name = none := by
  have hnone : afterStart? dynamicStarts (c :: cs) = none := by
    simp [afterStart?, dynamicStarts, List.isPrefixOf, Ne.symm he, Ne.symm hp]
  rw [← String.ofList_toList (s := name), dynamic?_ofList, hname, hnone, Option.bind_none]

section

variable {a : String} (h : IsAttribute a)

include h

lemma trimmed_isAttribute : (trimmed a.toList).isEmpty = false := by
  obtain ⟨ch, hch, hnot⟩ := h.nonblank
  rw [List.isEmpty_eq_false_iff]
  intro hempty
  simp [Text.isBlank_of_trimmed_eq_nil hempty ch hch] at hnot

lemma ofBody?_role (suffix : List Char) : ofBody? (a.toList ++ '#' :: suffix) =
    some ⟨String.ofList (trimmed a.toList), Role.ofText (String.ofList suffix)⟩ := by
  have hin : ∀ c ∈ a.toList, (c != '#') = true := fun c hc => by
    simpa using ne_of_mem_of_not_mem hc h.unmarked
  simp [ofBody?, List.takeWhile_append_of_pos hin, List.dropWhile_append_of_pos hin,
    trimmed_isAttribute h]

lemma ofBody?_alone : ofBody? a.toList = some ⟨String.ofList (trimmed a.toList), .primary⟩ := by
  have hin : ∀ c ∈ a.toList, (c != '#') = true := fun c hc => by
    simpa using ne_of_mem_of_not_mem hc h.unmarked
  simp [ofBody?, List.takeWhile_eq_self_iff.mpr hin, List.dropWhile_eq_nil_iff.mpr hin,
    trimmed_isAttribute h]

lemma shorthandOf?_own (start : String) (role : Role) :
    shorthandOf? start role (start ++ a).toList = some ⟨a, role⟩ := by
  obtain ⟨ch, hch, -⟩ := h.nonblank
  have hown : afterStart? [start.toList] (start.toList ++ a.toList) = some a.toList := by
    simp [afterStart?]
  rw [shorthandOf?, String.toList_append, hown]
  simp [List.ne_nil_of_mem hch]

lemma ofName?_attacker : ofName? ("attacker_" ++ a) = some ⟨a, .primary⟩ := by
  have hdynamic : dynamic? ("attacker_" ++ a) = none :=
    dynamic?_other String.toList_append (by decide) (by decide)
  rw [ofName?, hdynamic, Option.none_or, shorthand?, shorthandOf?_own h, Option.some_or]

lemma ofName?_defender : ofName? ("defender_" ++ a) = some ⟨a, .secondary⟩ := by
  have hdynamic : dynamic? ("defender_" ++ a) = none :=
    dynamic?_other String.toList_append (by decide) (by decide)
  have hattacker : shorthandOf? "attacker_" .primary ("defender_" ++ a).toList = none := by
    simp [shorthandOf?, afterStart?, List.isPrefixOf]
  rw [ofName?, hdynamic, Option.none_or, shorthand?, hattacker, Option.none_or,
    shorthandOf?_own h]

end

end Reference

lemma Spells.reference {key name : String} {role : Role} (h : Spells key role name) :
    ∃ k, Reference.ofName? name = some ⟨k, role⟩ ∧ canonicalKey k = key := by
  have hstarts : ∀ start ∈ ["entity-status#", "player-status#"],
      start.toList ∈ Reference.dynamicStarts := fun start h => List.mem_map_of_mem h
  cases h with
  | @dynamic start a suffix role hstart ha hrole =>
    have hname : (start ++ a ++ "#" ++ suffix).toList =
        start.toList ++ (a.toList ++ '#' :: suffix.toList) := by simp
    refine ⟨_, ?_, Attribute.canonicalKey_trimmed a⟩
    rw [Reference.ofName?, Reference.dynamic?_start (hstarts start hstart) hname,
      Reference.ofBody?_role ha, Option.some_or, String.ofList_toList, hrole.ofText_eq]
  | @alone start a hstart ha =>
    refine ⟨_, ?_, Attribute.canonicalKey_trimmed a⟩
    rw [Reference.ofName?, Reference.dynamic?_start (hstarts start hstart) String.toList_append,
      Reference.ofBody?_alone ha, Option.some_or]
  | @attacker a ha => exact ⟨a, Reference.ofName?_attacker ha, rfl⟩
  | @defender a ha => exact ⟨a, Reference.ofName?_defender ha, rfl⟩

def Context.statUnder (c : Context) (key : String) (role : Role) : Float :=
  match c.entities.get? role with
  | some p => if c.registry.permits key then (p.stats.get? key).getD 0 else 0
  | none => 0

lemma Spells.resolve {c : Context} {key name : String} {role : Role} (h : Spells key role name)
    (hunbound : c.bindings.get? name = none) : c.resolve name = c.statUnder key role := by
  obtain ⟨k, href, rfl⟩ := h.reference
  rw [Context.resolve, hunbound, href, Context.statUnder]
  cases hentity : c.entities.get? role with
  | none => simp [hentity]
  | some p => simp [hentity, Profile.stat_eq]

/-- A name that spells a stat and is not bound reads this stat, as every other such name of the stat
does. Binding one of these names changes no other name. -/
theorem spellings_read_one_stat (c : Context) {key name : String} {role : Role}
    (hspells : Spells key role name) (hunbound : c.bindings.get? name = none) :
    c.resolve name = c.statUnder key role ∧
    (∀ other, Spells key role other → c.bindings.get? other = none →
      c.resolve other = c.resolve name) ∧
    ∀ x, (c.bind name x).resolve name = x ∧
      ∀ other, other ≠ name → (c.bind name x).resolve other = c.resolve other := by
  have hname := hspells.resolve hunbound
  refine ⟨hname, fun other hother hfree => ?_, fun x => ⟨?_, fun other hne => ?_⟩⟩
  · rw [hother.resolve hfree, hname]
  · rw [Context.resolve_bind, if_pos rfl]
  · rw [Context.resolve_bind, if_neg hne]

def duel : Context where
  registry := .unloaded
  entities := ⟨some ⟨⟨1⟩, "Knight", [("max_health", 30)], []⟩,
    some ⟨⟨2⟩, "Dragon", [("max_health", 90)], []⟩⟩
  bindings := [("max_health", 1)]

theorem spellings_read_one_stat_duel :
    let name := "entity-status#" ++ " Max-Health " ++ "#" ++ " Target"
    let other := "defender_" ++ "max health"
    (Spells "max_health" .secondary name ∧ duel.bindings.get? name = none ∧
      Spells "max_health" .secondary other ∧ duel.bindings.get? other = none) ∧
    duel.resolve name = 90 ∧ duel.resolve other = 90 ∧
    ∀ x, (duel.bind name x).resolve name = x ∧
      ∀ other, other ≠ name → (duel.bind name x).resolve other = duel.resolve other := by
  intro name other
  have hyphened : canonicalKey " Max-Health " = "max_health" := by decide +kernel
  have hblank : canonicalKey "max health" = "max_health" := by decide +kernel
  have hrole : Selects " Target" .secondary := .secondary (by decide +kernel)
  have hname : Spells "max_health" .secondary name :=
    hyphened ▸ .dynamic (by decide) ⟨⟨'M', by decide, rfl⟩, by decide⟩ hrole
  have hother : Spells "max_health" .secondary other :=
    hblank ▸ .defender ⟨⟨'m', by decide, rfl⟩, by decide⟩
  have hfree : duel.bindings.get? name = none := by decide +kernel
  have hfree' : duel.bindings.get? other = none := by decide +kernel
  obtain ⟨hvalue, hsame, hbinding⟩ := spellings_read_one_stat duel hname hfree
  have hdragon : duel.statUnder "max_health" .secondary = 90 := by decide +kernel
  have hninety : duel.resolve name = 90 := hvalue.trans hdragon
  exact ⟨⟨hname, hfree, hother, hfree'⟩, hninety, (hsame other hother hfree').trans hninety,
    hbinding⟩

end DerivedStats.Formula
