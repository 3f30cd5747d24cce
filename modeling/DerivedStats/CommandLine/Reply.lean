import DerivedStats.CommandLine.Request
import DerivedStats.Config.Decode
import DerivedStats.Json.Writer
import DerivedStats.Random.Units

/-! What the command line answers. -/

namespace DerivedStats.CommandLine

open Formula (ArityError CompileError Context)
open Pipeline (Attack Battle DamageTag Invocation Outcome Run Session Setting)

inductive Status
  | done | failed | misused
deriving DecidableEq, Repr

def Status.code : Status → UInt32
  | .done => 0
  | .failed => 1
  | .misused => 2

inductive Trouble
  | uncompiled (error : CompileError)
  | unevaluated (error : ArityError)
  | noConfig (path : String)
  | badConfig (path : String)
  | noBattle
  | unknownSystem (name : String)

def Trouble.message : Trouble → String
  | .uncompiled error => error.message
  | .unevaluated error => error.message
  | .noConfig path => s!"cannot read {path}"
  | .badConfig path => s!"cannot understand {path}"
  | .noBattle => (Failure.configuration "no [battle] section").message
  | .unknownSystem name => (Failure.configuration s!"unknown system '{name}'").message

structure Reply where
  status : Status
  output : String
  remarks : List String
deriving DecidableEq, Repr

def primaryId : EntityId := ⟨1⟩

def secondaryId : EntityId := ⟨2⟩

def profileOf (id : EntityId) (name : String) (stats : List (String × Float)) : Profile :=
  stats.foldl (fun p s => (p.setStat? .unloaded s.1 s.2).getD p) (.new id name)

def valueText (json : Bool) (formula : String) (x : Float) : String :=
  if json then
    (Json.Value.object [("formula", .string formula), ("value", .real x)]).compact ++ "\n"
  else Decimal.plainText x ++ "\n"

def evaluate (units : Random.Units) (formula : String) (bindings stats : List (String × Float)) :
    Except Trouble Float :=
  match Formula.compile formula with
  | .error e => .error (.uncompiled e)
  | .ok e =>
    let primary := profileOf primaryId "cli" stats
    let context : Context := ⟨.unloaded, ⟨some primary, none⟩, Table.ofPairs bindings⟩
    match (e.evaluate (context.scope units) 0).1 with
    | .error e => .error (.unevaluated e)
    | .ok x => .ok x

def outcomeJson (o : Outcome) : Json.Value :=
  .object [
    ("mode", .string o.mode),
    ("outputs", .object (o.outputs.map fun p => (p.1, .real p.2))),
    ("writes", .array (o.writes.map fun w => .object [
      ("attribute", .string w.attributeName),
      ("value", .real w.value),
      ("applied", .boolean w.applied)])),
    ("final_value", .real o.final)]

def outputLine (p : String × Float) : String := s!"{padded 20 p.1} {Decimal.plainText p.2}\n"

def writeLine (w : Pipeline.Write) : String :=
  let rejection := if w.applied then "" else " (rejected)"
  s!"-> {w.attributeName} = {Decimal.plainText w.value}{rejection}\n"

def outcomeText (json : Bool) (o : Outcome) : String :=
  if json then (outcomeJson o).pretty ++ "\n"
  else
    String.join (o.outputs.map outputLine) ++ String.join (o.writes.map writeLine) ++
      s!"final: {Decimal.plainText o.final}\n"

def configOf (path : String) (content : Option String) : Except Trouble Config :=
  match content with
  | none => .error (.noConfig path)
  | some text =>
    match Config.ofText? text with
    | some (.ok c) => .ok c
    | _ => .error (.badConfig path)

def runOf (c : Config) (system : String) (secondary : Option EntityId) (tags : List String)
    (mode : Option String) (setting : Setting) : Except Trouble (Run Outcome) :=
  if Text.sameLetters system "battle" then
    match c.battle with
    | none => .error .noBattle
    | some b =>
      let attack : Attack := ⟨tags.filterMap DamageTag.ofText?, mode, none⟩
      .ok (Pipeline.computeDamage setting b primaryId secondary attack)
  else
    match c.systems.find? fun p => Text.sameLetters p.1 system with
    | none => .error (.unknownSystem system)
    | some (name, spec) => .ok (Pipeline.run setting name spec ⟨primaryId, secondary, mode, []⟩)

def profilesOf (stats targetStats : List (String × Float)) : Pipeline.Profiles :=
  (primaryId, profileOf primaryId "primary" stats) ::
    if targetStats.isEmpty then []
    else [(secondaryId, profileOf secondaryId "secondary" targetStats)]

def outcomeOf (units : Random.Units) (content : Option String) (path system : String)
    (stats targetStats : List (String × Float)) (tags : List String) (mode : Option String) :
    Except Trouble (Outcome × List Notice) := do
  let c ← configOf path content
  let profiles := profilesOf stats targetStats
  let secondary := if profiles.has secondaryId then some secondaryId else none
  let run ← runOf c system secondary tags mode ⟨.unloaded, units⟩
  let session : Session := ⟨.empty, 0, profiles, []⟩
  let (o, after) := StateT.run run session
  return (o, after.notices)

def Request.path? (r : Request) : Option String :=
  match r.command with
  | .evaluate .. => none
  | .run path .. => some path

def Reply.ofTrouble (t : Trouble) : Reply := ⟨.failed, "", ["Error: " ++ t.message]⟩

def Request.reply (r : Request) (content : Option String) (unseeded : Random.Units) : Reply :=
  let units := r.seed.elim unseeded Random.seeded
  match r.command with
  | .evaluate formula bindings stats =>
    match evaluate units formula bindings stats with
    | .error t => .ofTrouble t
    | .ok x => ⟨.done, valueText r.json formula x, []⟩
  | .run path system stats targetStats tags mode =>
    match outcomeOf units content path system stats targetStats tags mode with
    | .error t => .ofTrouble t
    | .ok (o, notices) => ⟨.done, outcomeText r.json o, notices.map Notice.line⟩

def Stop.reply : Stop → Reply
  | .help text => ⟨.done, text, []⟩
  | .misuse => ⟨.misused, "", [topPage.text]⟩

end DerivedStats.CommandLine
