import DerivedStats.ClassTree
import Mathlib.Tactic.Lemma

/-! The parents in a tree of classes are the classes named as parents. -/

namespace DerivedStats

def ClassNode.label (n : ClassNode) : String × String × Nat := (n.name, n.displayName, n.tier)

namespace ClassTree

def named? (classes : Table String ClassConfig) (i : Nat) : Option Nat :=
  ((classes[i]?.bind fun p => p.2.parent).bind fun parent =>
    classes.findIdx? fun p => Text.sameLetters p.1 parent).filter (· ≠ i)

lemma find?_eq (t : ClassTree) (name : String) :
    t.find? name =
      (t.nodes.toList.map ClassNode.label).findIdx? fun l => Text.sameLetters l.1 name := by
  rw [find?, List.findIdx?_map, ← List.findIdx?_toArray]
  rfl

lemma labels_link (t : ClassTree) (child parent : Nat) :
    (t.link child parent).nodes.toList.map ClassNode.label =
      t.nodes.toList.map ClassNode.label := by
  simp only [link, Array.toList_modify]
  refine List.ext_getElem? fun i => ?_
  simp only [List.getElem?_map, List.getElem?_modify]
  cases t.nodes.toList[i]? with
  | none => rfl
  | some n => split <;> split <;> rfl

lemma parent?_link (t : ClassTree) {child : Nat} (hchild : child < t.nodes.size) (parent i : Nat) :
    (t.link child parent).parent? i = if i = child then some parent else t.parent? i := by
  simp only [parent?, link, Array.getElem?_modify]
  by_cases h : i = child
  · subst h
    rw [if_pos rfl, if_pos rfl, Array.getElem?_eq_getElem hchild]
    split <;> rfl
  · rw [if_neg h, if_neg (Ne.symm h)]
    split
    · cases t.nodes[i]? <;> rfl
    · rfl

section

variable (t : ClassTree) (i : Nat) (name : String) (c : ClassConfig)

lemma labels_place :
    (t.place i name c).1.nodes.toList.map ClassNode.label =
      t.nodes.toList.map ClassNode.label := by
  rw [place]
  split
  · exact t.labels_link _ _
  · split <;> rfl

lemma find?_place : (t.place i name c).1.find? = t.find? := by
  funext other
  rw [find?_eq, find?_eq, labels_place]

lemma size_place : (t.place i name c).1.nodes.size = t.nodes.size := by
  have h := congrArg List.length (t.labels_place i name c)
  rwa [List.length_map, List.length_map] at h

variable {t i}

lemma parent?_place (hi : i < t.nodes.size) (hnew : t.parent? i = none) (j : Nat) :
    (t.place i name c).1.parent? j =
      if j = i then (c.parent.bind t.find?).filter (· ≠ i) else t.parent? j := by
  rw [place]
  split
  · next parent hparent => rw [t.parent?_link hi, hparent]
  · next hparent =>
    have hkept : (if c.tier ≤ 1 then ({ t with roots := t.roots ++ [i] }, [])
        else (t, [Notice.strandedClass name c.tier c.parent])).1.parent? j = t.parent? j := by
      split <;> rfl
    rw [hkept, hparent]
    split
    · next h => rw [h, hnew]
    · rfl

end

lemma parent?_placeAll (t : ClassTree) (i : Nat) (classes : Table String ClassConfig)
    (hsize : i + classes.length ≤ t.nodes.size) (hnew : ∀ j, i ≤ j → t.parent? j = none) (j : Nat) :
    (t.placeAll i classes).1.parent? j =
      if i ≤ j then ((classes[j - i]?.bind fun p => p.2.parent).bind t.find?).filter (· ≠ j)
      else t.parent? j := by
  induction classes generalizing t i with
  | nil =>
    split
    · next h => exact hnew j h
    · rfl
  | cons p rest ih =>
    rw [List.length_cons] at hsize
    have hi : i < t.nodes.size := by omega
    have hparent := parent?_place p.1 p.2 hi (hnew i (Nat.le_refl i))
    change ((t.place i p.1 p.2).1.placeAll (i + 1) rest).1.parent? j = _
    rw [ih]
    · rw [find?_place, hparent]
      rcases Nat.lt_trichotomy j i with h | rfl | h
      · rw [if_neg (by omega), if_neg (by omega), if_neg (by omega)]
      · rw [if_neg (by omega), if_pos rfl, if_pos (Nat.le_refl j), Nat.sub_self]
        rfl
      · have hlater : j - i = (j - (i + 1)) + 1 := by omega
        rw [if_pos (by omega), if_pos (by omega), hlater, List.getElem?_cons_succ]
    · rw [size_place]
      omega
    · intro k hk
      rw [hparent, if_neg (by omega), hnew k (by omega)]

lemma find?_unlinked (classes : Table String ClassConfig) (name : String) :
    (unlinked classes).find? name = classes.findIdx? fun p => Text.sameLetters p.1 name := by
  rw [find?_eq]
  simp only [unlinked, List.map_map, List.findIdx?_map]
  rfl

lemma parent?_unlinked (classes : Table String ClassConfig) (i : Nat) :
    (unlinked classes).parent? i = none := by
  simp only [parent?, unlinked, List.getElem?_toArray, List.getElem?_map]
  cases classes[i]? <;> rfl

lemma parent?_build (classes : Table String ClassConfig) (i : Nat) :
    (build classes).1.parent? i = named? classes i := by
  rw [build, parent?_placeAll]
  · rw [if_pos (Nat.zero_le i), Nat.sub_zero, named?]
    congr 2
    funext name
    exact find?_unlinked classes name
  · simp [unlinked]
  · exact fun j _ => parent?_unlinked classes j

lemma labels_placeAll (t : ClassTree) (i : Nat) (classes : Table String ClassConfig) :
    (t.placeAll i classes).1.nodes.toList.map ClassNode.label =
      t.nodes.toList.map ClassNode.label := by
  induction classes generalizing t i with
  | nil => rfl
  | cons p rest ih => exact (ih _ _).trans (t.labels_place i p.1 p.2)

lemma labels_build (classes : Table String ClassConfig) :
    (build classes).1.nodes.toList.map ClassNode.label =
      classes.map fun p => (p.1, p.2.displayName.getD p.1, p.2.tier) := by
  rw [build, labels_placeAll]
  simp [unlinked, ClassNode.label]

lemma size_build (classes : Table String ClassConfig) :
    (build classes).1.nodes.size = classes.length := by
  simpa using congrArg List.length (labels_build classes)

lemma find?_build (classes : Table String ClassConfig) (name : String) :
    (build classes).1.find? name = classes.findIdx? fun p => Text.sameLetters p.1 name := by
  rw [find?_eq, build, labels_placeAll, ← find?_eq, find?_unlinked]

end ClassTree

end DerivedStats
