import DerivedStats.CommandLine.Help
import DerivedStats.Decimal.Numeral
import DerivedStats.Text.Blank

/-! What the command line can ask for. -/

namespace DerivedStats.CommandLine

structure Settings where
  seed : Option UInt64
  json : Bool
  config : Option String
  bindings : List (String × Float)
  stats : List (String × Float)
  targetStats : List (String × Float)
  tags : List String
  mode : Option String

def Settings.unset : Settings := ⟨none, false, none, [], [], [], [], none⟩

def seed? (text : String) : Option UInt64 :=
  let ds := match text.toList with
    | '+' :: ds => ds
    | ds => ds
  if ds.isEmpty || ds.any (!·.isDigit) then none
  else
    let n := ds.foldl (fun n d => 10 * n + (d.toNat - '0'.toNat)) 0
    if n < UInt64.size then some (UInt64.ofNat n) else none

def pair? (text : String) : Option (String × Float) := do
  let value ← afterEquals? text.toList
  let x ← Decimal.read (Text.trim value)
  return (String.ofList (Text.trimmed (text.toList.takeWhile (· ≠ '='))), x)

def first {α : Type} (given : Option α) (value : Option α) : Option (Option α) :=
  if given.isSome then none else value.map some

def seedFlag : Flag Settings :=
  .valued "seed" none "SEED" "Random seed for deterministic `random()` results"
    fun v s => do return { s with seed := ← first s.seed (seed? v) }

def jsonFlag : Flag Settings :=
  .switch "json" "Print results as JSON"
    fun s => if s.json then none else some { s with json := true }

def configFlag : Flag Settings :=
  .valued "config" (some 'c') "CONFIG" "Path to the engine TOML config"
    fun v s => do return { s with config := ← first s.config (some v) }

def variableFlag : Flag Settings :=
  .valued "var" none "VARS" "Variable binding, `name=value` (repeatable)"
    fun v s => do return { s with bindings := s.bindings ++ [← pair? v] }

def statFlag : Flag Settings :=
  .valued "stat" none "STATS" "Primary entity stat, `attr=value` (repeatable)"
    fun v s => do return { s with stats := s.stats ++ [← pair? v] }

def targetStatFlag : Flag Settings :=
  .valued "target-stat" none "TARGET_STATS" "Secondary entity stat, `attr=value` (repeatable)"
    fun v s => do return { s with targetStats := s.targetStats ++ [← pair? v] }

def tagFlag : Flag Settings :=
  .valued "tag" none "TAGS" "Damage tag, `Category.value` (repeatable, battle only)"
    fun v s => some { s with tags := s.tags ++ [v] }

def modeFlag : Flag Settings :=
  .valued "mode" none "MODE" "Calculate mode override"
    fun v s => do return { s with mode := ← first s.mode (some v) }

def evalEntry : Entry := ⟨"eval", "Evaluate one formula"⟩

def runEntry : Entry :=
  ⟨"run", "Run a status system or the battle pipeline from a config file"⟩

def helpCommandEntry : Entry :=
  ⟨"help", "Print this message or the help of the given subcommand(s)"⟩

def topFlags : List (Flag Settings) := [seedFlag, jsonFlag]

def evalFlags : List (Flag Settings) := [seedFlag, variableFlag, jsonFlag, statFlag]

def runFlags : List (Flag Settings) :=
  [configFlag, seedFlag, jsonFlag, statFlag, targetStatFlag, tagFlag, modeFlag]

def topPage : Page where
  about := "Evaluate stat formulas and pipelines from the command line"
  usage := "nexus_eval [OPTIONS] <COMMAND>"
  groups := [("Commands", [evalEntry, runEntry, helpCommandEntry]), optionGroup topFlags]

def evalPage : Page where
  about := evalEntry.about
  usage := "nexus_eval eval [OPTIONS] <FORMULA>"
  groups := [("Arguments", [⟨"<FORMULA>", ""⟩]), optionGroup evalFlags]

def runPage : Page where
  about := runEntry.about
  usage := "nexus_eval run [OPTIONS] --config <CONFIG> <SYSTEM>"
  groups := [("Arguments", [⟨"<SYSTEM>", "System name, or `battle`"⟩]), optionGroup runFlags]

def helpPage : Page where
  about := helpCommandEntry.about
  usage := "nexus_eval help [COMMAND]..."
  groups := [("Arguments", [⟨"[COMMAND]...", "Print help for the subcommand(s)"⟩])]

def topLevel : Level Settings where
  flags := topFlags
  commands := ["eval", "run", "help"]
  words := 0
  help := topPage.text

def evalLevel : Level Settings where
  flags := evalFlags
  commands := []
  words := 1
  help := evalPage.text

def runLevel : Level Settings where
  flags := runFlags
  commands := []
  words := 1
  help := runPage.text

inductive Command
  | evaluate (formula : String) (bindings stats : List (String × Float))
  | run (config system : String) (stats targetStats : List (String × Float))
      (tags : List String) (mode : Option String)

structure Request where
  seed : Option UInt64
  json : Bool
  command : Command

def helpStop : List String → Stop
  | [] => .help topPage.text
  | ["eval"] => .help evalPage.text
  | ["run"] => .help runPage.text
  | ["help"] => .help helpPage.text
  | _ => .misuse

def evaluateCommand (s : Settings) : List String → Except Stop Command
  | [formula] => .ok (.evaluate formula s.bindings s.stats)
  | _ => .error .misuse

def runCommand (s : Settings) : List String → Except Stop Command
  | [system] =>
    match s.config with
    | some config => .ok (.run config system s.stats s.targetStats s.tags s.mode)
    | none => .error .misuse
  | _ => .error .misuse

def scanCommand (l : Level Settings) (build : Settings → List String → Except Stop Command)
    (args : List String) : Except Stop (Settings × Command) := do
  let scanned ← l.scan args (.start .unset)
  let s ← scanned.settle
  return (s, ← build s scanned.words)

def commandOf (name : String) (args : List String) : Except Stop (Settings × Command) :=
  match name with
  | "eval" => scanCommand evalLevel evaluateCommand args
  | "run" => scanCommand runLevel runCommand args
  | _ => .error (helpStop args)

def Request.ofArgs (args : List String) : Except Stop Request := do
  let scanned ← topLevel.scan args (.start .unset)
  match scanned.command with
  | none => throw .misuse
  | some (name, rest) => do
    let (inner, command) ← commandOf name rest
    let outer ← scanned.settle
    return ⟨inner.seed.or outer.seed, inner.json || outer.json, command⟩

end DerivedStats.CommandLine
