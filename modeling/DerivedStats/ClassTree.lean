import DerivedStats.Notice
import DerivedStats.Table
import DerivedStats.Text.Case

/-! Classes and how they advance: every class knows its parent and its children by index. -/

namespace DerivedStats

structure ClassConfig where
  displayName : Option String
  tier : Nat
  parent : Option String

structure ClassNode where
  name : String
  displayName : String
  tier : Nat
  parent : Option Nat
  children : List Nat
deriving DecidableEq, Repr

structure ClassTree where
  nodes : Array ClassNode
  roots : List Nat
deriving DecidableEq, Repr

namespace ClassTree

def empty : ClassTree := ⟨#[], []⟩

def find? (t : ClassTree) (name : String) : Option Nat :=
  t.nodes.findIdx? fun n => Text.sameLetters n.name name

def children (t : ClassTree) (i : Nat) : List Nat := t.nodes[i]?.elim [] ClassNode.children

def parent? (t : ClassTree) (i : Nat) : Option Nat := t.nodes[i]?.bind ClassNode.parent

def canAdvance (t : ClassTree) (current target : String) : Bool :=
  match t.find? current, t.find? target with
  | some i, some j => (t.children i).contains j
  | _, _ => false

def unlinked (classes : Table String ClassConfig) : ClassTree where
  nodes := (classes.map fun (name, c) => ⟨name, c.displayName.getD name, c.tier, none, []⟩).toArray
  roots := []

def link (t : ClassTree) (child parent : Nat) : ClassTree :=
  let nodes := t.nodes.modify child fun n => { n with parent := some parent }
  { t with nodes := nodes.modify parent fun n => { n with children := n.children ++ [child] } }

def place (t : ClassTree) (i : Nat) (name : String) (c : ClassConfig) : ClassTree × List Notice :=
  match (c.parent.bind t.find?).filter (· ≠ i) with
  | some parent => (t.link i parent, [])
  | none =>
    if c.tier ≤ 1 then ({ t with roots := t.roots ++ [i] }, [])
    else (t, [.strandedClass name c.tier c.parent])

def placeAll (t : ClassTree) (i : Nat) : Table String ClassConfig → ClassTree × List Notice
  | [] => (t, [])
  | (name, c) :: rest =>
    let (t, notices) := t.place i name c
    let (t, more) := t.placeAll (i + 1) rest
    (t, notices ++ more)

def build (classes : Table String ClassConfig) : ClassTree × List Notice :=
  (unlinked classes).placeAll 0 classes

end ClassTree

end DerivedStats
