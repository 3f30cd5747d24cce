import DerivedStats.Lifecycle
import DerivedStats.Roster.Storage

/-! The profiles that are loaded, and their way into storage.

A queued save holds the profile as it was when it was queued. The saves of one profile land in the
order in which they were queued; nothing else is promised about when they do, except that whoever
needs a save to have landed waits for it. -/

namespace DerivedStats

open Attribute (Registry)
open Lifecycle (Step)
open Profile (Snapshot)

structure Roster where
  profiles : Table EntityId Profile
  pending : Table EntityId (List Snapshot)
  storage : Roster.Storage

namespace Roster

def empty (storage : Storage) : Roster := ⟨[], [], storage⟩

def get? (r : Roster) (id : EntityId) : Option Profile := r.profiles.get? id

def ids (r : Roster) : List EntityId := r.profiles.keys

def loaded (r : Roster) : List Profile := r.profiles.map Prod.snd

def landOne (storage : Storage) (s : Snapshot) : Storage :=
  match storage.save s with
  | .ok storage => storage
  | .error _ => storage

def land (storage : Storage) (saves : List Snapshot) : Storage := saves.foldl landOne storage

def queue (r : Roster) (p : Profile) : Roster :=
  { r with pending := r.pending.put p.id ((r.pending.get? p.id).getD [] ++ [p.snapshot]) }

def await (r : Roster) (id : EntityId) : Roster where
  profiles := r.profiles
  pending := r.pending.erase id
  storage := land r.storage ((r.pending.get? id).getD [])

def flush (r : Roster) : Roster where
  profiles := r.profiles
  pending := []
  storage := land r.storage (r.pending.flatMap Prod.snd)

def pendingSaves (r : Roster) : Nat := r.pending.length

def restored (id : EntityId) (name : String) (s : Option Snapshot) : Profile :=
  s.elim (.new id name) Profile.restore

def loadOrCreate (registry : Registry) (r : Roster) (id : EntityId) (name : String) :
    Except Failure Profile × Roster :=
  match r.get? id with
  | some p =>
    let p := p.setName name
    (.ok p, { r with profiles := r.profiles.put id p })
  | none =>
    let r := r.await id
    match r.storage.load id with
    | .error f => (.error f, r)
    | .ok stored =>
      let p := ((restored id name stored).setName name).applyDefaults registry
      (.ok p, { r with profiles := r.profiles.put id p })

def saveLater (r : Roster) (id : EntityId) : Bool × Roster :=
  match r.get? id with
  | some p => (true, r.queue p)
  | none => (false, r)

def saveNow (r : Roster) (id : EntityId) : Except Failure Roster :=
  match r.get? id with
  | none => .error (.profileNotFound id)
  | some p => do return { r with storage := ← r.storage.save p.snapshot }

def unload (r : Roster) (id : EntityId) : Option Profile × Roster :=
  match r.get? id with
  | none => (none, r)
  | some p => (some p, { r.queue p with profiles := r.profiles.erase id })

def saveAll (storage : Storage) : List Profile → Storage × List Notice
  | [] => (storage, [])
  | p :: ps =>
    match storage.save p.snapshot with
    | .ok storage => saveAll storage ps
    | .error f =>
      let (storage, notices) := saveAll storage ps
      (storage, .saveFailed p.id f :: notices)

def shutdownFailure? (storage : Storage) (failures : Nat) : Option Failure :=
  storage.close?.or <|
    if failures = 0 then none
    else some (.storage s!"{failures} profiles failed to save on shutdown")

def shutdown (r : Roster) : Step Roster :=
  let (storage, notices) := saveAll r.flush.storage r.loaded
  ⟨empty storage, notices, shutdownFailure? storage notices.length⟩

def init (r : Roster) : Step Roster :=
  match r.storage.prepare with
  | .ok storage => ⟨{ r with storage }, [], none⟩
  | .error f => ⟨r, [], some f⟩

def reload (registry : Registry) (r : Roster) : Roster :=
  { r with profiles := r.profiles.map fun (id, p) => (id, p.applyDefaults registry) }

end Roster

end DerivedStats
