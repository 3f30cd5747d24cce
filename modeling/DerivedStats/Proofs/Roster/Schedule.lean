import DerivedStats.Roster.Basic
import Mathlib.Tactic.Lemma

/-! One caller's calls of a roster, with the moments at which queued saves land. -/

namespace DerivedStats

open Attribute (Registry)

namespace Profile

inductive Edit
  | stat (registry : Registry) (key : String) (value : Float)
  | metadata (key : String) (value : Json.Value)
  | name (name : String)

def edited (p : Profile) : Edit → Profile
  | .stat registry key value => (p.setStat? registry key value).getD p
  | .metadata key value => p.setMetadata key value
  | .name name => p.setName name

lemma edited_id (p : Profile) (edit : Edit) : (p.edited edit).id = p.id := by
  cases edit with
  | stat registry key value =>
    rw [edited, setStat?]
    split
    · rfl
    · rfl
  | metadata key value => rfl
  | name name => rfl

end Profile

namespace Roster

open Profile (Edit Snapshot)

inductive Event
  | loadOrCreate (registry : Registry) (id : EntityId) (name : String)
  | edit (id : EntityId) (edit : Edit)
  | saveLater (id : EntityId)
  | saveNow (id : EntityId)
  | unload (id : EntityId)
  | flush
  | pendingSaves
  | shutdown
  | lands (id : EntityId)
  | ends (id : EntityId)

def edit (r : Roster) (id : EntityId) (edit : Edit) : Roster :=
  match r.get? id with
  | some p => { r with profiles := r.profiles.put id (p.edited edit) }
  | none => r

def landOldest (r : Roster) (id : EntityId) : Roster :=
  match r.pending.get? id with
  | some (s :: rest) => ⟨r.profiles, r.pending.put id rest, landOne r.storage s⟩
  | _ => r

def endPending (r : Roster) (id : EntityId) : Roster :=
  match r.pending.get? id with
  | some [] => { r with pending := r.pending.erase id }
  | _ => r

lemma landOldest_cases (r : Roster) (id : EntityId) :
    r.landOldest id = r ∨ ∃ s rest, r.pending.get? id = some (s :: rest) ∧
      r.landOldest id = ⟨r.profiles, r.pending.put id rest, landOne r.storage s⟩ := by
  rw [landOldest]
  split
  · next s rest hget => exact .inr ⟨s, rest, hget, rfl⟩
  · exact .inl rfl

lemma endPending_cases (r : Roster) (id : EntityId) :
    r.endPending id = r ∨ r.pending.get? id = some [] ∧
      r.endPending id = { r with pending := r.pending.erase id } := by
  rw [endPending]
  split
  · next hget => exact .inr ⟨hget, rfl⟩
  · exact .inl rfl

def step (r : Roster) : Event → Roster
  | .loadOrCreate registry id name => (r.loadOrCreate registry id name).2
  | .edit id edit => r.edit id edit
  | .saveLater id => (r.saveLater id).2
  | .saveNow id => (r.saveNow id).toOption.getD r
  | .unload id => (r.unload id).2
  | .flush => r.flush
  | .pendingSaves => r
  | .shutdown => r.shutdown.state
  | .lands id => r.landOldest id
  | .ends id => r.endPending id

def after (r : Roster) (events : List Event) : Roster := events.foldl step r

def taken (r : Roster) : Event → List Snapshot
  | .saveLater id | .saveNow id | .unload id => ((r.get? id).map Profile.snapshot).toList
  | .shutdown => r.loaded.map Profile.snapshot
  | _ => []

def takenAll (r : Roster) : List Event → List Snapshot
  | [] => []
  | e :: events => r.taken e ++ takenAll (r.step e) events

def departure? (r : Roster) (id : EntityId) : Event → Option Snapshot
  | .unload other => if id = other then (r.get? id).map Profile.snapshot else none
  | .shutdown => (r.get? id).map Profile.snapshot
  | _ => none

def lastDeparture? (r : Roster) (id : EntityId) : List Event → Option Snapshot
  | [] => none
  | e :: events => (lastDeparture? (r.step e) id events).or (r.departure? id e)

lemma after_concat (r : Roster) (events : List Event) (e : Event) :
    r.after (events ++ [e]) = (r.after events).step e := List.foldl_append

lemma takenAll_append (r : Roster) (events more : List Event) :
    r.takenAll (events ++ more) = r.takenAll events ++ (r.after events).takenAll more := by
  induction events generalizing r with
  | nil => rfl
  | cons first events ih =>
    rw [List.cons_append, takenAll, takenAll, ih, List.append_assoc]
    rfl

lemma lastDeparture?_concat (r : Roster) (id : EntityId) (events : List Event) (e : Event) :
    r.lastDeparture? id (events ++ [e]) =
      ((r.after events).departure? id e).or (r.lastDeparture? id events) := by
  induction events generalizing r with
  | nil => exact (Option.none_or).trans Option.or_none.symm
  | cons first events ih =>
    rw [List.cons_append, lastDeparture?, lastDeparture?, ih, Option.or_assoc]
    rfl

end Roster

end DerivedStats
