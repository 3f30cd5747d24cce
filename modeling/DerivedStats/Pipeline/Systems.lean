import DerivedStats.Pipeline.Run

/-! Subsystems that are computed anew for one profile after the other. -/

namespace DerivedStats.Pipeline

abbrev Systems := Table String Spec

def updateProfile (setting : Setting) (id : EntityId) :
    Systems → Run (List (String × Outcome))
  | [] => return []
  | (name, spec) :: rest => do
    let outcome ← run setting name spec (.solo id)
    let outcomes ← updateProfile setting id rest
    return (name, outcome) :: outcomes

def appliedWrites (outcomes : List (String × Outcome)) : Nat :=
  outcomes.foldl (fun n o => n + o.2.appliedWrites) 0

def updateAll (setting : Setting) (systems : Systems) : List EntityId → Run Nat
  | [] => return 0
  | id :: rest => do
    let outcomes ← updateProfile setting id systems
    let others ← updateAll setting systems rest
    return appliedWrites outcomes + others

end DerivedStats.Pipeline
