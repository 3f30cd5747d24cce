/-! Reading arguments: flags with and without a value, words, and a command that ends its level. -/

namespace DerivedStats.CommandLine

inductive Flag (σ : Type)
  | switch (name about : String) (set : σ → Option σ)
  | valued (name : String) (letter : Option Char) (label about : String)
      (set : String → σ → Option σ)

inductive Stop
  | misuse
  | help (text : String)
deriving DecidableEq, Repr

structure Level (σ : Type) where
  flags : List (Flag σ)
  commands : List String
  words : Nat
  help : String

structure Scanned (σ : Type) where
  settings : Option σ
  words : List String
  command : Option (String × List String)

inductive Reading (σ : Type)
  | word
  | help
  | change (set : σ → Option σ)
  | awaiting (set : String → σ → Option σ)
  | unknown

variable {σ : Type}

def Flag.name : Flag σ → String
  | .switch name .. => name
  | .valued name .. => name

def Flag.hasLetter (c : Char) : Flag σ → Bool
  | .switch .. => false
  | .valued _ letter .. => letter == some c

def Flag.reading (attached : Option String) : Flag σ → Reading σ
  | .switch _ _ set => if attached.isNone then .change set else .unknown
  | .valued _ _ _ _ set => attached.elim (.awaiting set) fun v => .change (set v)

def afterEquals? (cs : List Char) : Option String :=
  match cs.dropWhile (· ≠ '=') with
  | [] => none
  | _ :: value => some (String.ofList value)

def behindLetter? : List Char → Option String
  | [] => none
  | '=' :: value => some (String.ofList value)
  | value => some (String.ofList value)

def Level.longReading (l : Level σ) (cs : List Char) : Reading σ :=
  let name := String.ofList (cs.takeWhile (· ≠ '='))
  let attached := afterEquals? cs
  if name = "help" then (if attached.isNone then .help else .unknown)
  else ((l.flags.find? (·.name = name)).map (Flag.reading attached)).getD .unknown

def Level.shortReading (l : Level σ) (letter : Char) (cs : List Char) : Reading σ :=
  if letter = 'h' then .help
  else ((l.flags.find? (·.hasLetter letter)).map (Flag.reading (behindLetter? cs))).getD .unknown

def Level.reading (l : Level σ) (arg : String) : Reading σ :=
  match arg.toList with
  | '-' :: '-' :: cs => l.longReading cs
  | '-' :: letter :: cs => l.shortReading letter cs
  | _ => .word

def isHyphened (arg : String) : Bool :=
  match arg.toList with
  | '-' :: _ :: _ => true
  | _ => false

namespace Scanned

def start (settings : σ) : Scanned σ := ⟨some settings, [], none⟩

def settle (s : Scanned σ) : Except Stop σ :=
  match s.settings with
  | none => .error .misuse
  | some x => .ok x

def change (s : Scanned σ) (set : σ → Option σ) : Except Stop (Scanned σ) := do
  return { s with settings := set (← s.settle) }

def changeNow (s : Scanned σ) (set : σ → Option σ) : Except Stop (Scanned σ) := do
  let s ← s.change set
  return { s with settings := some (← s.settle) }

def addWord (limit : Nat) (s : Scanned σ) (word : String) : Except Stop (Scanned σ) := do
  let settings ← s.settle
  if s.words.length < limit then return ⟨some settings, s.words ++ [word], s.command⟩
  else throw .misuse

end Scanned

def Level.scan (l : Level σ) : List String → Scanned σ → Except Stop (Scanned σ)
  | [], s => .ok s
  | arg :: args, s =>
    if l.commands.contains arg then .ok { s with command := some (arg, args) }
    else if arg = "--" then args.foldlM (Scanned.addWord l.words) s
    else
      match l.reading arg with
      | .unknown => .error .misuse
      | .help => s.settle.bind fun _ => .error (.help l.help)
      | .word => do l.scan args (← s.addWord l.words arg)
      | .change set => do l.scan args (← s.changeNow set)
      | .awaiting set =>
        match args with
        | [] => .error .misuse
        | value :: rest =>
          if isHyphened value then .error .misuse else do l.scan rest (← s.change (set value))

end DerivedStats.CommandLine
