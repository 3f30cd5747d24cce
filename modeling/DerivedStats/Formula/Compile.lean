import DerivedStats.Decimal.Numeral
import DerivedStats.Formula.Cursor
import DerivedStats.Formula.Syntax
import DerivedStats.Text.Letter

/-! Compilation of formula text.

From the loosest to the tightest: `OR` and `||`; `==` and `!=`; `>`, `<`, `>=` and `<=`; `+` and
`-`; `*` and `/`; signs; numbers, names, calls and parentheses. Every two-sided operator associates
to the left. Nesting is bounded by `nestingLimit`: a sign, an operand, a parenthesis and a call
each take one level, and the levels left are what the compiler recurses on. -/

namespace DerivedStats.Formula

def nestingLimit : Nat := 256

def startsName (c : Char) : Bool := Text.isAlphabetic c || c == '_'

def continuesName (c : Char) : Bool := Text.isAlphanumeric c || c == '_'

abbrev Scan := List Char → Option (Operator × Nat)

def scanOr : Scan
  | '|' :: '|' :: _ => some (.or, 2)
  | 'O' :: 'R' :: cs => if cs.head?.any continuesName then none else some (.or, 2)
  | _ => none

def scanEquality : Scan
  | '=' :: '=' :: _ => some (.eq, 2)
  | '!' :: '=' :: _ => some (.ne, 2)
  | _ => none

def scanRelation : Scan
  | '>' :: '=' :: _ => some (.ge, 2)
  | '<' :: '=' :: _ => some (.le, 2)
  | '>' :: _ => some (.gt, 1)
  | '<' :: _ => some (.lt, 1)
  | _ => none

def scanSum : Scan
  | '+' :: _ => some (.add, 1)
  | '-' :: _ => some (.sub, 1)
  | _ => none

def scanProduct : Scan
  | '*' :: _ => some (.mul, 1)
  | '/' :: _ => some (.div, 1)
  | _ => none

abbrev Parser (α : Type) := Cursor → Except CompileError (α × Cursor)

def extend (scan : Scan) (operand : Parser Expr) : Nat → Expr → Parser Expr
  | 0, x, c => .ok (x, c)
  | fuel + 1, x, c =>
    match scan c.skipBlanks.rest with
    | none => .ok (x, c)
    | some (op, n) => do
      let d ← (c.skipBlanks.drop n).grow
      let (y, d) ← operand d
      extend scan operand fuel (.binary op x y) d

def level (scan : Scan) (operand : Parser Expr) : Parser Expr := fun c => do
  let (x, d) ← operand c
  extend scan operand (operatorLimit + 1) x d

def levels (operand : Parser Expr) : Parser Expr :=
  level scanOr <| level scanEquality <| level scanRelation <| level scanSum <|
    level scanProduct operand

def argumentsOf (item : Parser Expr) : Nat → Parser (List Expr)
  | 0, c => do
    let (x, d) ← item c
    let d ← d.close
    .ok ([x], d)
  | fuel + 1, c => do
    let (x, d) ← item c
    match d.skipBlanks.rest with
    | ',' :: _ => do
      let (xs, d) ← argumentsOf item fuel (d.skipBlanks.drop 1)
      .ok (x :: xs, d)
    | _ => do
      let d ← d.close
      .ok ([x], d)

def arguments (item : Parser Expr) : Parser (List Expr) := fun c =>
  match c.skipBlanks.rest with
  | ')' :: _ => .ok ([], c.skipBlanks.drop 1)
  -- every item takes a character at least
  | _ => argumentsOf item c.skipBlanks.rest.length c.skipBlanks

def numeral : Parser Expr := fun c =>
  let (whole, d) := c.span Decimal.isDigit
  let (fraction, after) :=
    match d.rest with
    | '.' :: _ => (d.drop 1).span Decimal.isDigit
    | _ => ([], d)
  if whole.isEmpty && fraction.isEmpty then c.fail (.invalidNumber ".")
  else .ok (.number (Decimal.nearestOf whole fraction 0), after)

def delimited : Parser Expr := fun c =>
  let (name, d) := (c.drop 1).span (· != '%')
  if d.rest.isEmpty then c.fail .unterminatedVariable
  else if (Text.trimmed name).isEmpty then c.fail .emptyVariable
  else .ok (.var (String.ofList (Text.trimmed name)), d.drop 1)

def nested {α : Type} (inner : Option (Parser α)) : Parser α := fun c =>
  match inner with
  | none => c.fail .tooDeep
  | some p => p c

def nameOrCall (inner : Option (Parser Expr)) : Parser Expr := fun c =>
  let (name, d) := c.span continuesName
  match d.skipBlanks.rest with
  | '(' :: _ =>
    match Builtin.ofName? (String.ofList name) with
    | none => c.fail (.unknownFunction (String.ofList name))
    | some f => do
      let (args, d) ← nested (inner.map arguments) (d.skipBlanks.drop 1)
      .ok (.call f args, d)
  | _ => .ok (.var (String.ofList name), d)

def group (inner : Option (Parser Expr)) : Parser Expr := fun c => do
  let (x, d) ← nested inner (c.drop 1)
  let d ← d.close
  .ok (x, d)

def primary (inner : Option (Parser Expr)) : Parser Expr := fun c =>
  match c.rest with
  | [] => c.fail .unexpectedEnd
  | ch :: _ =>
    if ch = '(' then group inner c
    else if Decimal.isDigit ch || ch = '.' then numeral c
    else if ch = '%' then delimited c
    else if startsName ch then nameOrCall inner c
    else c.fail (.unexpectedChar ch)

def signed : Nat → Parser Expr
  | 0 => fun c => c.fail .tooDeep
  | left + 1 => fun c =>
    match c.skipBlanks.rest with
    | '+' :: _ => signed left (c.skipBlanks.drop 1)
    | '-' :: _ => do
      let d ← (c.skipBlanks.drop 1).grow
      let (x, d) ← signed left d
      .ok (.binary .sub (.number 0) x, d)
    | _ =>
      primary (match left with
        | 0 => none
        | inner + 1 => some (levels (signed inner))) c.skipBlanks

def expression : Parser Expr := levels (signed nestingLimit)

def compile (text : String) : Except CompileError Expr := do
  let (e, c) ← expression (Cursor.start text.toList)
  if c.skipBlanks.rest.isEmpty then .ok e else c.skipBlanks.failHere

end DerivedStats.Formula
