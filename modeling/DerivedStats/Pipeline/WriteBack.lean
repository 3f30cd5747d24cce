import DerivedStats.Formula.Reference

/-! Which attribute a result is written back to. -/

namespace DerivedStats.Pipeline

open Formula (Reference)

def betweenPercents? : List Char → Option (List Char)
  | '%' :: cs => if cs.getLast? = some '%' then some cs.dropLast else none
  | _ => none

def writeBackTarget? (definition : String) : Option String := do
  let name ← betweenPercents? (Text.trimmed definition.toList)
  if name.contains '%' then none
  else
    let r ← Reference.dynamic? (String.ofList name)
    if r.role = .primary then some r.key else none

end DerivedStats.Pipeline
