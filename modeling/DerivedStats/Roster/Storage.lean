import DerivedStats.Failure
import DerivedStats.Profile.Snapshot

/-! Where profiles are kept when they are not loaded. -/

namespace DerivedStats.Roster

open Profile (Snapshot)

inductive Backend
  | memory (entries : Table EntityId Snapshot) (saves : Nat)
  | files (directory : Option (Table EntityId String))

namespace Backend

def prepare : Backend → Backend
  | .files none => .files (some [])
  | b => b

def load (id : EntityId) : Backend → Except Failure (Option Snapshot)
  | .memory entries _ => .ok (entries.get? id)
  | .files directory =>
    match directory.bind (·.get? id) with
    | none => .ok none
    | some text =>
      match Snapshot.ofText? text with
      | some s => .ok (some s)
      | none => .error .format

def save (s : Snapshot) : Backend → Except Failure Backend
  | .memory entries saves => .ok (.memory (entries.put s.id s) (saves + 1))
  | .files none => .error .file
  | .files (some texts) => .ok (.files (some (texts.put s.id s.text)))

end Backend

inductive Call
  | prepare | load | save | close
deriving DecidableEq, Repr

def Call.name : Call → String
  | .prepare => "initialize"
  | .load => "load"
  | .save => "save"
  | .close => "close"

structure Refusals where
  calls : List Call
  loads : List EntityId
  saves : List EntityId
deriving DecidableEq, Repr

structure Storage where
  refusals : Refusals
  backend : Backend

namespace Storage

def refused (call : Call) : Failure := .storage s!"{call.name} refused"

def prepare (s : Storage) : Except Failure Storage :=
  if s.refusals.calls.contains .prepare then .error (refused .prepare)
  else .ok { s with backend := s.backend.prepare }

def load (s : Storage) (id : EntityId) : Except Failure (Option Snapshot) :=
  if s.refusals.calls.contains .load || s.refusals.loads.contains id then .error (refused .load)
  else s.backend.load id

def save (s : Storage) (snapshot : Snapshot) : Except Failure Storage :=
  if s.refusals.calls.contains .save || s.refusals.saves.contains snapshot.id then
    .error (refused .save)
  else do return { s with backend := ← s.backend.save snapshot }

def close? (s : Storage) : Option Failure :=
  if s.refusals.calls.contains .close then some (refused .close) else none

end Storage

end DerivedStats.Roster
