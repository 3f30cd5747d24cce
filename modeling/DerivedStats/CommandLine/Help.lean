import DerivedStats.CommandLine.Arguments

/-! Texts of help. -/

namespace DerivedStats.CommandLine

structure Entry where
  term : String
  about : String
deriving DecidableEq, Repr

structure Page where
  about : String
  usage : String
  groups : List (String × List Entry)
deriving DecidableEq, Repr

def padded (width : Nat) (s : String) : String :=
  s ++ String.ofList (List.replicate (width - s.length) ' ')

def groupText (title : String) (entries : List Entry) : String :=
  let width := (entries.map (·.term.length)).foldl max 0 + 2
  s!"\n{title}:\n" ++
    String.join (entries.map fun e => "  " ++ padded width e.term ++ e.about ++ "\n")

def Page.text (p : Page) : String :=
  s!"{p.about}\n\nUsage: {p.usage}\n" ++
    String.join (p.groups.map fun (title, entries) => groupText title entries)

variable {σ : Type}

def Flag.entry : Flag σ → Entry
  | .switch name about _ => ⟨"    --" ++ name, about⟩
  | .valued name letter label about _ =>
    let start := letter.elim "    " fun c => String.ofList ['-', c, ',', ' ']
    ⟨s!"{start}--{name} <{label}>", about⟩

def helpEntry : Entry := ⟨"-h, --help", "Print help"⟩

def optionGroup (flags : List (Flag σ)) : String × List Entry :=
  ("Options", flags.map Flag.entry ++ [helpEntry])

end DerivedStats.CommandLine
