import DerivedStats.Proofs.Pipeline.Evaluation

/-! What a list of write-backs does to the profiles. -/

namespace DerivedStats.Pipeline

open Attribute (canonicalKey)

def lastApplied (writes : List Write) (key : String) : Option Float :=
  (writes.reverse.find? fun w => w.applied && canonicalKey w.attributeName == key).map Write.value

lemma lastApplied_concat (writes : List Write) (w : Write) (key : String) :
    lastApplied (writes ++ [w]) key =
      if w.applied = true ∧ canonicalKey w.attributeName = key then some w.value
      else lastApplied writes key := by
  simp only [lastApplied]
  rw [List.reverse_append, List.reverse_singleton, List.singleton_append, List.find?_cons]
  by_cases h : w.applied = true ∧ canonicalKey w.attributeName = key
  · have htest : (w.applied && canonicalKey w.attributeName == key) = true := by simpa using h
    rw [if_pos h, htest]
    rfl
  · have htest : (w.applied && canonicalKey w.attributeName == key) = false :=
      Bool.eq_false_iff.mpr fun htrue => h (by simpa using htrue)
    rw [if_neg h, htest]

def withStat (p : Profile) (key : String) (value : Float) : Profile :=
  { p with stats := p.stats.put (canonicalKey key) value }

structure Took (p q : Profile) (writes : List Write) : Prop where
  id : q.id = p.id
  name : q.name = p.name
  metadata : q.metadata = p.metadata
  stats : ∀ key, q.stats.get? key = (lastApplied writes key).or (p.stats.get? key)

structure Written (id : EntityId) (p : Profile) (before after : Profiles) (writes : List Write) :
    Prop where
  primary : ∃ q, after.get? id = some q ∧ Took p q writes
  others : ∀ other, other ≠ id → after.get? other = before.get? other

lemma Took.refl (p : Profile) : Took p p [] := ⟨rfl, rfl, rfl, fun _ => rfl⟩

lemma Written.refl {id : EntityId} {p : Profile} {before : Profiles}
    (h : before.get? id = some p) : Written id p before before [] :=
  ⟨⟨p, h, .refl p⟩, fun _ _ => rfl⟩

lemma Written.refused {id : EntityId} {p : Profile} {before after : Profiles} {writes : List Write}
    (h : Written id p before after writes) {w : Write} (hw : w.applied = false) :
    Written id p before after (writes ++ [w]) := by
  obtain ⟨q, hq, hid, hname, hmetadata, hstats⟩ := h.primary
  refine ⟨⟨q, hq, hid, hname, hmetadata, fun key => ?_⟩, h.others⟩
  rw [lastApplied_concat, if_neg (by simp [hw]), hstats]

lemma Written.accepted {id : EntityId} {p q : Profile} {before after : Profiles}
    {writes : List Write} (h : Written id p before after writes) (hq : after.get? id = some q)
    {w : Write} (hw : w.applied = true) :
    Written id p before (after.put id (withStat q w.attributeName w.value)) (writes ++ [w]) := by
  obtain ⟨q', hq', hid, hname, hmetadata, hstats⟩ := h.primary
  obtain rfl : q = q' := Option.some.inj (hq.symm.trans hq')
  constructor
  · refine ⟨withStat q w.attributeName w.value, ?_, hid, hname, hmetadata, fun key => ?_⟩
    · rw [Table.get?_put, if_pos rfl]
    rw [withStat, Table.get?_put, lastApplied_concat]
    by_cases hkey : key = canonicalKey w.attributeName
    · rw [if_pos hkey, if_pos ⟨hw, hkey.symm⟩]
      rfl
    · rw [if_neg hkey, if_neg fun hboth => hkey hboth.2.symm, hstats]
  · intro other hother
    rw [Table.get?_put, if_neg hother, h.others other hother]

lemma store_run (setting : Setting) (id : EntityId) (key : String) (value : Float) {s : Session}
    {p : Profile} (hp : s.profiles.get? id = some p) :
    (store setting id key value).run s =
      if setting.registry.permits (canonicalKey key) then
        (true, { s with profiles := s.profiles.put id (withStat p key value) })
      else (false, s) := by
  simp only [store, StateT.run_bind, StateT.run_get, pure_bind, hp, Option.bind_some,
    Profile.setStat?]
  by_cases hpermits : setting.registry.permits (canonicalKey key) = true
  · simp only [if_pos hpermits]
    rfl
  · simp only [if_neg hpermits]
    rfl

lemma writeBack_run (setting : Setting) (i : Invocation) (definition : Formulas) (name : String)
    (value : Float) {s : Session} {p : Profile} (hp : s.profiles.get? i.primary = some p) :
    (writeBack setting i definition name value).run s =
      match (definition.get? name).bind writeBackTarget? with
      | none => ([], s)
      | some key =>
        if setting.registry.permits (canonicalKey key) then
          ([⟨key, value, true⟩], { s with profiles := s.profiles.put i.primary (withStat p key value) })
        else ([⟨key, value, false⟩], s) := by
  rw [writeBack]
  cases (definition.get? name).bind writeBackTarget? with
  | none => rfl
  | some key =>
    simp only [run_bind, store_run setting i.primary key value hp]
    by_cases hpermits : setting.registry.permits (canonicalKey key) = true
    · simp only [if_pos hpermits]
      rfl
    · simp only [if_neg hpermits]
      rfl

lemma Written.writeBack {p : Profile} {before : Profiles} {writes : List Write} (setting : Setting)
    (i : Invocation) (definition : Formulas) (name : String) (value : Float) {s : Session}
    (h : Written i.primary p before s.profiles writes) {r : List Write × Session}
    (hr : (Pipeline.writeBack setting i definition name value).run s = r) :
    Written i.primary p before r.2.profiles (writes ++ r.1) ∧
      (r.1.map fun w => (w.attributeName, w.value)) =
        (((definition.get? name).bind writeBackTarget?).map (·, value)).toList ∧
      ∀ w ∈ r.1, w.applied = setting.registry.permits (canonicalKey w.attributeName) := by
  obtain ⟨q, hq, -⟩ := h.primary
  rw [writeBack_run setting i definition name value hq] at hr
  cases htarget : (definition.get? name).bind writeBackTarget? with
  | none =>
    simp only [htarget] at hr
    subst hr
    refine ⟨?_, rfl, fun w hw => by cases hw⟩
    simpa using h
  | some key =>
    by_cases hpermits : setting.registry.permits (canonicalKey key) = true
    · simp only [htarget, if_pos hpermits] at hr
      subst hr
      refine ⟨h.accepted hq (w := ⟨key, value, true⟩) rfl, rfl, fun w hw => ?_⟩
      rw [List.mem_singleton.mp hw]
      exact hpermits.symm
    · simp only [htarget, if_neg hpermits] at hr
      subst hr
      refine ⟨h.refused (w := ⟨key, value, false⟩) rfl, rfl, fun w hw => ?_⟩
      rw [List.mem_singleton.mp hw]
      exact (Bool.eq_false_iff.mpr hpermits).symm

end DerivedStats.Pipeline
