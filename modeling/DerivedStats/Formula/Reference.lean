import DerivedStats.Text.Blank
import DerivedStats.Text.Case

/-! Names that stand for a stat of an entity. -/

namespace DerivedStats.Formula

inductive Role
  | primary | secondary
deriving DecidableEq, Repr

def secondaryNames : List String := ["$defender$", "defender", "secondary", "target"]

def Role.ofText (s : String) : Role :=
  if secondaryNames.contains (Text.lower (Text.trim s)) then .secondary else .primary

structure Reference where
  key : String
  role : Role
deriving DecidableEq, Repr

namespace Reference

def dynamicStarts : List (List Char) := ["entity-status#".toList, "player-status#".toList]

def afterStart? (starts : List (List Char)) (cs : List Char) : Option (List Char) :=
  (starts.find? (·.isPrefixOf cs)).map fun s => cs.drop s.length

def dynamic? (name : String) : Option Reference := do
  let body ← afterStart? dynamicStarts name.toList
  let key := Text.trimmed (body.takeWhile (· != '#'))
  if key.isEmpty then none
  else
    let role := match body.dropWhile (· != '#') with
      | [] => .primary
      | _ :: suffix => Role.ofText (String.ofList suffix)
    some ⟨String.ofList key, role⟩

def shorthandOf? (start : String) (role : Role) (cs : List Char) : Option Reference := do
  let key ← afterStart? [start.toList] cs
  if key.isEmpty then none else some ⟨String.ofList key, role⟩

def shorthand? (name : String) : Option Reference :=
  (shorthandOf? "attacker_" .primary name.toList).or
    (shorthandOf? "defender_" .secondary name.toList)

def ofName? (name : String) : Option Reference := (dynamic? name).or (shorthand? name)

end Reference

end DerivedStats.Formula
