import DerivedStats.Table
import DerivedStats.Toml.Value

/-! Documents under construction: the tables that headers and dotted keys open. -/

namespace DerivedStats.Toml

/-- A table is implicit as long as only keys below it have been named, and dotted if a dotted key
opened it. -/
inductive Node
  | value (v : Value)
  | table (implicit dotted : Bool) (entries : List (String × Node))
  | tables (items : List (List (String × Node)))
deriving Inhabited

structure Branch where
  implicit : Bool
  dotted : Bool
  entries : Table String Node

namespace Branch

def node (b : Branch) : Node := .table b.implicit b.dotted b.entries

def put (b : Branch) (key : String) (n : Node) : Branch := { b with entries := b.entries.put key n }

def adjust {α : Type} (dotted : Bool) (f : Branch → Option (Branch × α)) :
    List String → Branch → Option (Branch × α)
  | [], b => f b
  | key :: path, b =>
    match b.entries.get? key with
    | none => do
      let (c, x) ← adjust dotted f path ⟨true, dotted, []⟩
      return (b.put key c.node, x)
    | some (.value _) => none
    | some (.table implicit viaDot entries) =>
      if dotted && !implicit then none
      else do
        let (c, x) ← adjust dotted f path ⟨implicit, viaDot, entries⟩
        return (b.put key c.node, x)
    | some (.tables items) => do
      let (c, x) ← adjust dotted f path ⟨false, false, ← items.getLast?⟩
      return (b.put key (.tables (items.dropLast ++ [c.entries])), x)

def enter? (path : List String) (key : String) (v : Value) (b : Branch) : Option Branch :=
  (b.adjust true (fun t =>
    if t.dotted == path.isEmpty || t.entries.has key then none
    else some (t.put key (.value v), ())) path).map Prod.fst

def takeOut? (path : List String) (key : String) (b : Branch) :
    Option (Branch × Table String Node) :=
  b.adjust false (fun t =>
    match t.entries.get? key with
    | none => some (t, [])
    | some (.table true false entries) => some ({ t with entries := t.entries.erase key }, entries)
    | some _ => none) path

def putIn? (path : List String) (key : String) (entries : Table String Node) (b : Branch) :
    Option Branch :=
  (b.adjust false (fun t => some (t.put key (.table false false entries), ())) path).map Prod.fst

def appendTo? (path : List String) (key : String) (entries : Table String Node) (b : Branch) :
    Option Branch :=
  (b.adjust false (fun t =>
    match t.entries.get? key with
    | none => some (t.put key (.tables [entries]), ())
    | some (.tables items) => some (t.put key (.tables (items ++ [entries])), ())
    | some _ => none) path).map Prod.fst

end Branch

inductive Header
  | top
  | single (path : List String) (key : String)
  | listed (path : List String) (key : String)

structure Document where
  root : Branch
  header : Header
  current : Branch

namespace Document

def named : Branch := ⟨false, false, []⟩

def start : Document := ⟨named, .top, named⟩

def settle? (d : Document) : Option Branch :=
  match d.header with
  | .top => some d.current
  | .single path key => d.root.putIn? path key d.current.entries
  | .listed path key => d.root.appendTo? path key d.current.entries

def openSingle? (d : Document) (path : List String) (key : String) : Option Document := do
  let (root, entries) ← (← d.settle?).takeOut? path key
  return ⟨root, .single path key, { named with entries }⟩

def openListed? (d : Document) (path : List String) (key : String) : Option Document := do
  return ⟨← d.settle?, .listed path key, named⟩

def enter? (d : Document) (path : List String) (key : String) (v : Value) : Option Document := do
  return { d with current := ← d.current.enter? path key v }

mutual

def valueOf : Node → Value
  | .value v => v
  | .table _ _ entries => .table (entriesOf entries)
  | .tables items => .array (itemsOf items)

def entriesOf : List (String × Node) → List (String × Value)
  | [] => []
  | (key, n) :: rest => (key, valueOf n) :: entriesOf rest

def itemsOf : List (List (String × Node)) → List Value
  | [] => []
  | entries :: rest => .table (entriesOf entries) :: itemsOf rest

end

def finish? (d : Document) : Option Value := do
  return .table (entriesOf (← d.settle?).entries)

end Document

end DerivedStats.Toml
