import DerivedStats.Config.Validate
import DerivedStats.Proofs.ClassTree.Links
import Mathlib.Combinatorics.Pigeonhole
import Mathlib.Logic.Relation

/-! Walks from parent to parent: they all end, unless some classes name each other as parents in a
ring. -/

namespace DerivedStats.ClassTree

open Relation (TransGen)

def ancestor? (t : ClassTree) : Nat → Nat → Option Nat
  | 0, i => some i
  | n + 1, i => (t.parent? i).bind (t.ancestor? n)

variable {t : ClassTree}

lemma ancestor?_add (m n i : Nat) :
    t.ancestor? (m + n) i = (t.ancestor? m i).bind (t.ancestor? n) := by
  induction m generalizing i with
  | zero => rw [Nat.zero_add]; rfl
  | succ m ih =>
    rw [Nat.succ_add, ancestor?, ancestor?, Option.bind_assoc]
    congr 1
    funext j
    exact ih j

lemma transGen_of_ancestor? {n i j : Nat} (h : t.ancestor? (n + 1) i = some j) :
    TransGen (fun i j => t.parent? i = some j) i j := by
  induction n generalizing i with
  | zero =>
    obtain ⟨k, hk, hj⟩ := Option.bind_eq_some_iff.mp h
    obtain rfl : k = j := Option.some.inj hj
    exact .single hk
  | succ n ih =>
    obtain ⟨k, hk, hrest⟩ := Option.bind_eq_some_iff.mp h
    exact .head hk (ih hrest)

lemma ancestor?_of_ring {i : Nat} (h : TransGen (fun i j => t.parent? i = some j) i i) (n : Nat) :
    ∃ j, t.ancestor? n i = some j ∧ TransGen (fun i j => t.parent? i = some j) j j := by
  induction n generalizing i with
  | zero => exact ⟨i, rfl, h⟩
  | succ n ih =>
    obtain ⟨k, hk, hback⟩ := TransGen.head'_iff.mp h
    obtain ⟨j, hj, hring⟩ := ih (.tail' hback hk)
    exact ⟨j, Option.bind_eq_some_iff.mpr ⟨k, hk, hj⟩, hring⟩

lemma ancestor?_ends (hrange : ∀ i j, t.parent? i = some j → i < t.nodes.size)
    (hring : ∀ i, ¬ TransGen (fun i j => t.parent? i = some j) i i) (i : Nat) :
    ∃ n ≤ t.nodes.size, ∃ j, t.ancestor? n i = some j ∧ t.parent? j = none := by
  by_contra hnever
  push Not at hnever
  have hgoes : ∀ n ≤ t.nodes.size, ∃ j, t.ancestor? n i = some j := by
    intro n hn
    induction n with
    | zero => exact ⟨i, rfl⟩
    | succ n ih =>
      obtain ⟨j, hj⟩ := ih (by omega)
      obtain ⟨k, hk⟩ := Option.ne_none_iff_exists'.mp (hnever n (by omega) j hj)
      exact ⟨k, by rw [ancestor?_add, hj, Option.bind_some, ancestor?, hk]; rfl⟩
  choose! walk hwalk using hgoes
  have hinside : Set.MapsTo walk (Finset.range (t.nodes.size + 1)) (Finset.range t.nodes.size) := by
    intro n hn
    have hle : n ≤ t.nodes.size := by
      simp only [Finset.coe_range, Set.mem_Iio] at hn
      omega
    obtain ⟨k, hk⟩ := Option.ne_none_iff_exists'.mp (hnever n hle _ (hwalk n hle))
    simpa using hrange _ _ hk
  -- more steps than classes: two of them meet in one class
  obtain ⟨m, hm, n, hn, hne, hsame⟩ :=
    Finset.exists_ne_map_eq_of_card_lt_of_maps_to (by simp) hinside
  rw [Finset.mem_range] at hm hn
  have hloop : ∀ a b, a < b → b ≤ t.nodes.size → walk a = walk b → False := by
    intro a b hlt hle heq
    obtain ⟨d, rfl⟩ : ∃ d, b = a + (d + 1) := ⟨b - a - 1, by omega⟩
    have hb := hwalk _ hle
    rw [ancestor?_add, hwalk a (by omega), Option.bind_some, ← heq] at hb
    exact hring _ (transGen_of_ancestor? hb)
  obtain h | h := Nat.lt_or_gt_of_ne hne
  · exact hloop m n h (by omega) hsame
  · exact hloop n m h (by omega) hsame.symm

lemma lt_length_of_named? {classes : Table String ClassConfig} {i j : Nat}
    (h : named? classes i = some j) : i < classes.length := by
  by_contra hi
  rw [named?, List.getElem?_eq_none (by omega)] at h
  cases h

/-- The tree of a table of classes has no ring of parent links, and from every class the links lead
in at most as many steps as there are classes to one without a parent, exactly if no classes name
each other as parents in a ring. A class that names itself makes no ring. -/
theorem walks_end_iff_no_ring (classes : Table String ClassConfig) :
    let t := (build classes).1
    ((∀ i, ¬ TransGen (fun i j => t.parent? i = some j) i i) ∧
      ∀ i < t.nodes.size,
        ∃ n ≤ t.nodes.size, ∃ j, t.ancestor? n i = some j ∧ t.parent? j = none) ↔
    ∀ i, ¬ TransGen (fun i j => named? classes i = some j) i i := by
  intro t
  have hlinks : ∀ i, t.parent? i = named? classes i := parent?_build classes
  have hrange : ∀ i j, t.parent? i = some j → i < t.nodes.size := by
    intro i j h
    rw [size_build]
    exact lt_length_of_named? (hlinks i ▸ h)
  have hsame : (∀ i, ¬ TransGen (fun i j => t.parent? i = some j) i i) ↔
      ∀ i, ¬ TransGen (fun i j => named? classes i = some j) i i := by
    simp only [hlinks]
  constructor
  · exact fun h => hsame.mp h.1
  · intro h
    have hring := hsame.mpr h
    exact ⟨hring, fun i _ => ancestor?_ends hrange hring i⟩

theorem walk_in_ring_never_ends :
    let classes : Table String ClassConfig :=
      [("Knight", ⟨none, 2, some "Squire"⟩), ("Squire", ⟨none, 1, some "Knight"⟩)]
    let t := (build classes).1
    Config.problems { Config.empty with classes } = [] ∧
      TransGen (fun i j => t.parent? i = some j) 0 0 ∧
      ∀ n j, t.ancestor? n 0 = some j → t.parent? j ≠ none := by
  intro classes t
  have hknight : t.parent? 0 = some 1 := by decide +kernel
  have hsquire : t.parent? 1 = some 0 := by decide +kernel
  have hring : TransGen (fun i j => t.parent? i = some j) 0 0 := .tail (.single hknight) hsquire
  refine ⟨by decide +kernel, hring, fun n j hj => ?_⟩
  obtain ⟨k, hk, hback⟩ := ancestor?_of_ring hring n
  obtain rfl : j = k := Option.some.inj (hj.symm.trans hk)
  obtain ⟨next, hnext, -⟩ := TransGen.head'_iff.mp hback
  rw [hnext]
  exact Option.some_ne_none next

end DerivedStats.ClassTree
