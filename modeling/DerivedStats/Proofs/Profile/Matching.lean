import DerivedStats.Profile.Basic
import DerivedStats.Proofs.Table.Listing
import Mathlib.Data.Option.Basic

/-! Profiles that nothing tells apart but the order in which their stats and metadata stand. -/

namespace DerivedStats

open Attribute (Registry)

namespace Profile

structure Matches (p q : Profile) : Prop where
  id : p.id = q.id
  name : p.name = q.name
  stats : ∀ key, p.stats.get? key = q.stats.get? key
  metadata : ∀ key, p.metadata.get? key = q.metadata.get? key

namespace Matches

variable {p q : Profile}

lemma refl (p : Profile) : p.Matches p := ⟨rfl, rfl, fun _ => rfl, fun _ => rfl⟩

lemma stat (h : p.Matches q) (r : Registry) (key : String) : p.stat r key = q.stat r key := by
  rw [Profile.stat, Profile.stat, stat?, stat?, h.stats]

lemma setStat? (h : p.Matches q) (r : Registry) (key : String) (value : Float) :
    Option.Rel Matches (p.setStat? r key value) (q.setStat? r key value) := by
  rw [Profile.setStat?, Profile.setStat?]
  split
  · refine .some ⟨h.id, h.name, fun other => ?_, h.metadata⟩
    rw [Table.get?_put, Table.get?_put, h.stats]
  · exact .none

lemma missingDefaults (h : p.Matches q) (r : Registry) :
    p.missingDefaults r = q.missingDefaults r := by
  refine List.filterMap_congr fun key _ => ?_
  rw [Table.has, Table.has, h.stats]

lemma applyDefaults (h : p.Matches q) (r : Registry) :
    (p.applyDefaults r).Matches (q.applyDefaults r) := by
  refine ⟨h.id, h.name, fun key => ?_, h.metadata⟩
  rw [Profile.applyDefaults, Profile.applyDefaults, Table.get?_foldl_put, Table.get?_foldl_put,
    h.missingDefaults, h.stats]

end Matches

def AllMatch (ps qs : Table EntityId Profile) : Prop :=
  ∀ id, Option.Rel Matches (ps.get? id) (qs.get? id)

namespace AllMatch

variable {ps qs : Table EntityId Profile}

lemma refl (ps : Table EntityId Profile) : AllMatch ps ps := by
  intro id
  cases ps.get? id with
  | none => exact .none
  | some p => exact .some (.refl p)

lemma put (h : AllMatch ps qs) (id : EntityId) {p q : Profile} (hpq : p.Matches q) :
    AllMatch (ps.put id p) (qs.put id q) := by
  intro other
  rw [Table.get?_put, Table.get?_put]
  split
  · exact .some hpq
  · exact h other

lemma applyDefaults (h : AllMatch ps qs) (r : Registry) :
    AllMatch (ps.map fun (id, p) => (id, p.applyDefaults r))
      (qs.map fun (id, q) => (id, q.applyDefaults r)) := by
  intro id
  have hid := h id
  rw [Table.get?_map_values, Table.get?_map_values]
  generalize ps.get? id = found, qs.get? id = found' at hid
  cases hid with
  | none => exact .none
  | some hpq => exact .some (hpq.applyDefaults r)

end AllMatch

end Profile

end DerivedStats
