import DerivedStats.Toml.Document
import DerivedStats.Toml.Scalar

/-! Reading TOML text. -/

namespace DerivedStats.Toml

def depthLimit : Nat := 80

def isBare (c : Char) : Bool := c.isAlphanum || c == '-' || c == '_'

def simpleKey? (cs : Rest) : Option (String × Rest) :=
  match cs with
  | '"' :: _ | '\'' :: _ => (lineText? cs).map fun (t, rest) => (String.ofList t, rest)
  | _ =>
    let name := cs.takeWhile isBare
    if name.isEmpty then none else some (String.ofList name, cs.dropWhile isBare)

def key? : Nat → Rest → Option (List String × String × Rest)
  | 0, _ => none
  | left + 1, cs => do
    let (name, rest) ← simpleKey? (skipSpaces cs)
    match skipSpaces rest with
    | '.' :: rest => do
      let (path, last, rest) ← key? left rest
      return (name :: path, last, rest)
    | rest => return ([], name, rest)

def dottedKey? (cs : Rest) : Option (List String × String × Rest) := key? (depthLimit - 1) cs

mutual

def value? : Nat → Nat → Rest → Option (Value × Rest)
  | 0, _, _ => none
  | fuel + 1, depth, cs =>
    match cs with
    | '[' :: cs =>
      if depth + 1 < depthLimit then
        (items? fuel (depth + 1) cs).map fun (items, rest) => (.array items, rest)
      else none
    | '\x7b' :: cs =>
      if depth + 1 < depthLimit then
        match skipSpaces cs with
        | '\x7d' :: rest => some (.table [], rest)
        | cs => do
          let (b, rest) ← members? fuel (depth + 1) Document.named cs
          return (.table (Document.entriesOf b.entries), rest)
      else none
    | cs => scalar? cs

def items? : Nat → Nat → Rest → Option (List Value × Rest)
  | 0, _, _ => none
  | fuel + 1, depth, cs =>
    match skipGap cs with
    | ']' :: rest => some ([], rest)
    | cs => do
      let (v, rest) ← value? fuel depth cs
      match skipGap rest with
      | ',' :: rest => do
        let (vs, rest) ← items? fuel depth rest
        return (v :: vs, rest)
      | ']' :: rest => return ([v], rest)
      | _ => none

def members? : Nat → Nat → Branch → Rest → Option (Branch × Rest)
  | 0, _, _, _ => none
  | fuel + 1, depth, b, cs => do
    let (path, name, rest) ← dottedKey? cs
    let rest ← skip? '=' rest
    let (v, rest) ← value? fuel depth (skipSpaces rest)
    let b ← b.enter? path name v
    match skipSpaces rest with
    | ',' :: rest => members? fuel depth b rest
    | '\x7d' :: rest => return (b, rest)
    | _ => none

end

def anyValue? (cs : Rest) : Option (Value × Rest) := value? (2 * cs.length + 2) 0 cs

def closeHeader? (brackets : Nat) (cs : Rest) : Option Rest :=
  if (cs.take brackets).all (· == ']') && brackets ≤ cs.length then endLine? (cs.drop brackets)
  else none

def header? (d : Document) (cs : Rest) : Option (Document × Rest) := do
  match cs with
  | '[' :: cs => do
    let (path, name, rest) ← dottedKey? cs
    return (← d.openListed? path name, ← closeHeader? 2 rest)
  | cs => do
    let (path, name, rest) ← dottedKey? cs
    return (← d.openSingle? path name, ← closeHeader? 1 rest)

def entry? (d : Document) (cs : Rest) : Option (Document × Rest) := do
  let (path, name, rest) ← dottedKey? cs
  let rest ← skip? '=' rest
  let (v, rest) ← anyValue? (skipSpaces rest)
  return (← d.enter? path name v, ← endLine? rest)

def lines? : Nat → Document → Rest → Option Document
  | 0, d, cs => if cs.isEmpty then some d else none
  | fuel + 1, d, cs =>
    match skipSpaces cs with
    | [] => some d
    | '[' :: cs => do
      let (d, rest) ← header? d cs
      lines? fuel d rest
    | cs =>
      match skipComment cs with
      | [] => some d
      | more =>
        match newLine? more with
        | some rest => lines? fuel d rest
        | none => do
          let (d, rest) ← entry? d cs
          lines? fuel d rest

def read (text : String) : Option Value := do
  let cs := text.toList
  let cs := if cs.head? = some '\ufeff' then cs.drop 1 else cs
  (← lines? (cs.length + 1) .start cs).finish?

end DerivedStats.Toml
