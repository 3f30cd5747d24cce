import DerivedStats.EntityId

/-! Why an operation of the engine did not succeed. -/

namespace DerivedStats

inductive Failure
  | profileNotFound (id : EntityId)
  | configuration (message : String)
  | storage (message : String)
  | lifecycle (component message : String)
  | file
  | format
deriving DecidableEq, Repr

def Failure.message : Failure → String
  | .profileNotFound id => s!"Profile not found: {id.text}"
  | .configuration message => s!"Configuration error: {message}"
  | .storage message => s!"Storage error: {message}"
  | .lifecycle component message => s!"Lifecycle error in {component}: {message}"
  | .file => "IO error"
  | .format => "Serialization error"

end DerivedStats
