/-! Characters, comments and quoted text of TOML documents. -/

namespace DerivedStats.Toml

abbrev Rest := List Char

def isSpace (c : Char) : Bool := c == ' ' || c == '\t'

def skipSpaces (cs : Rest) : Rest := cs.dropWhile isSpace

def newLine? : Rest → Option Rest
  | '\n' :: cs => some cs
  | '\r' :: '\n' :: cs => some cs
  | _ => none

def inText (c : Char) : Bool := c == '\t' || (0x20 ≤ c.toNat && c != '\x7f')

def skipComment : Rest → Rest
  | '#' :: cs => cs.dropWhile inText
  | cs => cs

def skipLines : Nat → Rest → Rest
  | 0, cs => cs
  | fuel + 1, cs =>
    match skipSpaces cs with
    | '#' :: more => skipLines fuel (skipComment ('#' :: more))
    | cs =>
      match newLine? cs with
      | some cs => skipLines fuel cs
      | none => cs

def skipGap (cs : Rest) : Rest := skipLines (cs.length + 1) cs

def endLine? (cs : Rest) : Option Rest :=
  match skipComment (skipSpaces cs) with
  | [] => some []
  | cs => newLine? cs

def hexValue? (c : Char) : Option Nat :=
  if '0' ≤ c ∧ c ≤ '9' then some (c.toNat - '0'.toNat)
  else if 'a' ≤ c ∧ c ≤ 'f' then some (c.toNat - 'a'.toNat + 10)
  else if 'A' ≤ c ∧ c ≤ 'F' then some (c.toNat - 'A'.toNat + 10)
  else none

def codePoint? (n : Nat) (cs : Rest) : Option (Char × Rest) := do
  let digits ← (cs.take n).mapM hexValue?
  let code := digits.foldl (fun m d => 16 * m + d) 0
  if digits.length = n ∧ (code < 0xd800 ∨ 0xe000 ≤ code ∧ code < 0x110000) then
    some (Char.ofNat code, cs.drop n)
  else none

def escape? : Rest → Option (Char × Rest)
  | 'b' :: cs => some ('\x08', cs)
  | 't' :: cs => some ('\t', cs)
  | 'n' :: cs => some ('\n', cs)
  | 'f' :: cs => some ('\x0c', cs)
  | 'r' :: cs => some ('\r', cs)
  | '"' :: cs => some ('"', cs)
  | '\\' :: cs => some ('\\', cs)
  | 'u' :: cs => codePoint? 4 cs
  | 'U' :: cs => codePoint? 8 cs
  | _ => none

def basicText? : Nat → Rest → Option (List Char × Rest)
  | 0, _ => none
  | _, [] => none
  | fuel + 1, c :: cs =>
    if c = '"' then some ([], cs)
    else if c = '\\' then do
      let (ch, cs) ← escape? cs
      let (text, cs) ← basicText? fuel cs
      return (ch :: text, cs)
    else if inText c then do
      let (text, cs) ← basicText? fuel cs
      return (c :: text, cs)
    else none

def literalText? (cs : Rest) : Option (List Char × Rest) :=
  match cs.dropWhile fun c => inText c && c != '\'' with
  | '\'' :: rest => some (cs.takeWhile fun c => inText c && c != '\'', rest)
  | _ => none

def closing? (quote : Char) (cs : Rest) : Option (List Char × Rest) :=
  let n := (cs.takeWhile (· == quote)).length
  if n < 3 then none
  else
    let extra := min (n - 3) 2
    some (List.replicate extra quote, cs.drop (extra + 3))

def skipBlankLines : Nat → Rest → Rest
  | 0, cs => cs
  | fuel + 1, cs =>
    let cs := skipSpaces cs
    match newLine? cs with
    | some cs => skipBlankLines fuel cs
    | none => cs

def linesText? (quote : Char) (escapes : Bool) : Nat → Rest → Option (List Char × Rest)
  | 0, _ => none
  | _, [] => none
  | fuel + 1, c :: cs =>
    match closing? quote (c :: cs) with
    | some r => some r
    | none =>
      if escapes ∧ c = '\\' then
        match newLine? (skipSpaces cs) with
        | some cs => linesText? quote escapes fuel (skipBlankLines (cs.length + 1) cs)
        | none => do
          let (ch, cs) ← escape? cs
          let (text, cs) ← linesText? quote escapes fuel cs
          return (ch :: text, cs)
      else
        match newLine? (c :: cs) with
        | some cs => do
          let (text, cs) ← linesText? quote escapes fuel cs
          return ('\n' :: text, cs)
        | none =>
          if inText c then do
            let (text, cs) ← linesText? quote escapes fuel cs
            return (c :: text, cs)
          else none

def openLines? (quote : Char) (escapes : Bool) (cs : Rest) : Option (List Char × Rest) :=
  let cs := (newLine? cs).getD cs
  linesText? quote escapes (cs.length + 1) cs

def lineText? : Rest → Option (List Char × Rest)
  | '"' :: cs => basicText? (cs.length + 1) cs
  | '\'' :: cs => literalText? cs
  | _ => none

def quotedText? : Rest → Option (List Char × Rest)
  | '"' :: '"' :: '"' :: cs => openLines? '"' true cs
  | '\'' :: '\'' :: '\'' :: cs => openLines? '\'' false cs
  | cs => lineText? cs

end DerivedStats.Toml
