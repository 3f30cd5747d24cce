import DerivedStats.Decimal.Integral
import DerivedStats.Decimal.Numeral
import DerivedStats.Text.Blank
import DerivedStats.Toml.Decode
import DerivedStats.Toml.Reader

/-! The attributes a configuration declares, as a tree of categories. -/

namespace DerivedStats.Attribute

structure Declaration where
  displayName : Option String
  default : Float
  statusValue : Option Int

inductive Schema
  | leaf (declaration : Declaration)
  | category (children : List (String × Schema))
deriving Inhabited

namespace Schema

def markers : List String := ["default", "status-value", "display-name"]

def isDeclaration (entries : List (String × Toml.Value)) : Bool :=
  markers.any fun m => (entries.lookup m).isSome

def numberOf : Toml.Value → Float
  | .integer n => Float.ofInt n
  | .float x => x
  | .string s => (Decimal.read (Text.trim s)).getD 0
  | _ => 0

def declarationOf (entries : List (String × Toml.Value)) : Declaration where
  displayName := match entries.lookup "display-name" with
    | some (.string s) => some s
    | _ => none
  default := (entries.lookup "default").elim 0 numberOf
  statusValue := match entries.lookup "status-value" with
    | some (.integer n) => some n
    | some (.float x) => some (Decimal.truncate x)
    | _ => none

mutual

def ofEntry? : Toml.Value → Option Schema
  | .table entries =>
    if isDeclaration entries then some (.leaf (declarationOf entries))
    else some (.category (ofEntries entries))
  | _ => none

def ofEntries : List (String × Toml.Value) → List (String × Schema)
  | [] => []
  | (key, value) :: rest =>
    match ofEntry? value with
    | some node => (key, node) :: ofEntries rest
    | none => ofEntries rest

end

def ofToml : Toml.Value → Schema
  | .table entries => .category (ofEntries entries)
  | _ => .category []

def ofText? (text : String) : Option Schema := do
  let v ← Toml.read text
  return ofToml (← (Toml.settled .ignored v).toOption)

def isEmpty : Schema → Bool
  | .leaf _ => false
  | .category children => children.isEmpty

structure Entry where
  key : String
  path : String
  declaration : Declaration

mutual

def entriesAt (key path : String) : Schema → List Entry
  | .leaf d => [⟨key, path, d⟩]
  | .category children => entriesBelow (path ++ ".") children

def entriesBelow (parent : String) : List (String × Schema) → List Entry
  | [] => []
  | (key, node) :: rest => node.entriesAt key (parent ++ key) ++ entriesBelow parent rest

end

def entries : Schema → List Entry
  | .leaf _ => []
  | .category children => entriesBelow "" children

mutual

def count : Schema → Nat
  | .leaf _ => 1
  | .category children => countAll children

def countAll : List (String × Schema) → Nat
  | [] => 0
  | (_, node) :: rest => node.count + countAll rest

end

end Schema

end DerivedStats.Attribute
