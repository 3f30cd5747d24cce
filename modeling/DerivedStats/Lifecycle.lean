import DerivedStats.Notice

/-! Components that are started, reconfigured and stopped together.

A pass calls every component once, whatever fails: in order to start and to reconfigure, in the
opposite order to stop. -/

namespace DerivedStats.Lifecycle

inductive Phase
  | init | reload | shutdown
deriving DecidableEq, Repr

def Phase.name : Phase → String
  | .init => "init"
  | .reload => "reload"
  | .shutdown => "shutdown"

structure Step (σ : Type) where
  state : σ
  notices : List Notice
  failure : Option Failure

structure Component (σ : Type) where
  name : String
  init : σ → Step σ
  reload : Option (σ → Step σ)
  shutdown : σ → Step σ

structure PhaseFailure where
  component : String
  phase : Phase
  failure : Failure
deriving DecidableEq, Repr

structure Pass (σ : Type) where
  state : σ
  notices : List Notice
  failures : List PhaseFailure

variable {σ : Type}

def Component.call (c : Component σ) : Phase → σ → Step σ
  | .init => c.init
  | .reload => c.reload.getD c.init
  | .shutdown => c.shutdown

def pass (phase : Phase) : List (Component σ) → σ → Pass σ
  | [], s => ⟨s, [], []⟩
  | c :: cs, s =>
    let step := c.call phase s
    let rest := pass phase cs step.state
    match step.failure with
    | none => { rest with notices := step.notices ++ rest.notices }
    | some f => {
        state := rest.state
        notices := step.notices ++ .componentFailed c.name phase.name f :: rest.notices
        failures := ⟨c.name, phase, f⟩ :: rest.failures }

def initAll (cs : List (Component σ)) (s : σ) : Pass σ := pass .init cs s

def reloadAll (cs : List (Component σ)) (s : σ) : Pass σ := pass .reload cs s

def shutdownAll (cs : List (Component σ)) (s : σ) : Pass σ := pass .shutdown cs.reverse s

def PhaseFailure.asFailure (f : PhaseFailure) : Failure :=
  .lifecycle f.component s!"{f.phase.name} failed: {f.failure.message}"

def Pass.failure? (p : Pass σ) : Option Failure := p.failures.head?.map PhaseFailure.asFailure

end DerivedStats.Lifecycle
