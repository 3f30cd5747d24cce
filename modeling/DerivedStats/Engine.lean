import DerivedStats.Attribute.Rebuild
import DerivedStats.Config.Validate
import DerivedStats.Random.Units
import DerivedStats.Roster.Basic

/-! The engine: a configuration in force, with everything that follows from it. -/

namespace DerivedStats

open Attribute (Registry)
open Formula (Cache Context Entities Place)
open Lifecycle (Component Pass Step)
open Pipeline (Attack Outcome Run Session Setting)

structure Engine where
  config : Config
  registry : Registry
  cache : Cache
  classes : ClassTree
  roster : Roster
  drawn : Nat

namespace Engine

def new (config : Config) (storage : Roster.Storage) : Engine where
  config := config
  registry := .unloaded
  cache := .empty
  classes := .empty
  roster := .empty storage
  drawn := 0

def done (e : Engine) : Step Engine := ⟨e, [], none⟩

def registryComponent (c : Config) : Component Engine where
  name := "attribute-registry"
  init e :=
    let (registry, notices) := Registry.rebuild c.attributes
    ⟨{ e with registry }, notices, none⟩
  reload := none
  shutdown e := done { e with registry := .unloaded }

def cacheComponent : Component Engine where
  name := "formula-cache"
  init := done
  reload := some fun e => done { e with cache := e.cache.clear }
  shutdown e := done { e with cache := e.cache.clear }

def onRoster (f : Roster → Step Roster) (e : Engine) : Step Engine :=
  let step := f e.roster
  ⟨{ e with roster := step.state }, step.notices, step.failure⟩

def rosterComponent : Component Engine where
  name := "profile-manager"
  init := onRoster Roster.init
  reload := some fun e => done { e with roster := e.roster.reload e.registry }
  shutdown := onRoster Roster.shutdown

def components (c : Config) : List (Component Engine) :=
  [registryComponent c, cacheComponent, rosterComponent]

def problemNotices (c : Config) : List Notice :=
  c.problems.map fun p => .configProblem p.message

def conclude (c : Config) (p : Pass Engine) : Step Engine :=
  let (classes, strays) := ClassTree.build c.classes
  ⟨{ p.state with classes }, problemNotices c ++ p.notices ++ strays, p.failure?⟩

def enable (e : Engine) : Step Engine :=
  conclude e.config (Lifecycle.initAll (components e.config) e)

def reload (c : Config) (e : Engine) : Step Engine :=
  conclude c (Lifecycle.reloadAll (components c) { e with config := c })

def shutdown (e : Engine) : Step Engine :=
  let p := Lifecycle.shutdownAll (components e.config) e
  ⟨p.state, p.notices, p.failure?⟩

def session (e : Engine) : Session := ⟨e.cache, e.drawn, e.roster.profiles, []⟩

def run {α : Type} (e : Engine) (unit : Nat → Float) (r : Setting → Run α) :
    α × Engine × List Notice :=
  let (x, s) := (r ⟨e.registry, unit⟩).run e.session
  (x, { e with cache := s.cache, drawn := s.drawn, roster.profiles := s.profiles }, s.notices)

def adhocOwner : String := "adhoc"

def calculateRun (text : String) (primary secondary : Option EntityId) (setting : Setting) :
    Run Float := do
  let s ← get
  let (fetched, cache) := s.cache.fetch ⟨adhocOwner, .adhoc, text⟩ text
  set { s with cache }
  match fetched with
  | .error err => do
    Pipeline.note (.textUncompiled text err)
    return 0
  | .ok e => do
    let s ← get
    let entities : Entities := ⟨primary.bind s.profiles.get?, secondary.bind s.profiles.get?⟩
    let context : Context := ⟨setting.registry, entities, []⟩
    let (result, drawn) := e.evaluate (context.scope setting.unit) s.drawn
    set { s with drawn }
    match result with
    | .ok x => return x
    | .error err => do
      Pipeline.note (.textFailed text err)
      return 0

def calculate (e : Engine) (unit : Nat → Float) (text : String)
    (primary secondary : Option EntityId) : Float × Engine × List Notice :=
  e.run unit (calculateRun text primary secondary)

def damageRun (battle : Option Pipeline.Battle) (attacker : EntityId) (defender : Option EntityId)
    (a : Attack) (setting : Setting) : Run Outcome :=
  match battle with
  | some b => Pipeline.computeDamage setting b attacker defender a
  | none => do
    Pipeline.note .noBattle
    return .empty

def computeDamage (e : Engine) (unit : Nat → Float) (attacker : EntityId)
    (defender : Option EntityId) (a : Attack) : Outcome × Engine × List Notice :=
  e.run unit (damageRun e.config.battle attacker defender a)

def updateProfile (e : Engine) (unit : Nat → Float) (id : EntityId) :
    List (String × Outcome) × Engine × List Notice :=
  e.run unit fun setting => Pipeline.updateProfile setting id e.config.systems

def updateAll (e : Engine) (unit : Nat → Float) : Nat × Engine × List Notice :=
  e.run unit fun setting => Pipeline.updateAll setting e.config.systems e.roster.ids

end Engine

end DerivedStats
