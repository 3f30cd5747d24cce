import DerivedStats.Proofs.Formula.CompileSound
import DerivedStats.Proofs.Formula.Follows

/-! The parsers by the categories of the grammar, and what each takes from the text. -/

namespace DerivedStats.Formula

open Cursor (Leads)
open Grammar (Category Rank Sound inside scanOf)

lemma Cursor.Leads.length_le {front : List Char} {s t : Cursor} (h : Leads front s t) :
    t.rest.length ≤ s.rest.length := by
  rw [h.rest, List.length_append]
  exact Nat.le_add_left _ _

def parserOf (n : ℕ) : Category → Parser Expr
  | .joined .or => levels (signed n)
  | .joined .equality =>
    level scanEquality <| level scanRelation <| level scanSum <| level scanProduct (signed n)
  | .joined .relation => level scanRelation <| level scanSum <| level scanProduct (signed n)
  | .joined .sum => level scanSum <| level scanProduct (signed n)
  | .joined .product => level scanProduct (signed n)
  | .signed => signed n
  | .primary => fun c => primary (inside n) c.skipBlanks

lemma parserOf_primary (n : ℕ) (s : Cursor) :
    parserOf n .primary s = primary (inside n) s.skipBlanks := rfl

lemma parserOf_joined (n : ℕ) (r : Rank) :
    parserOf n (.joined r) = level (scanOf r) (parserOf n r.operand) := by
  cases r <;> rfl

lemma joined_of_operand {P : Category → Prop} (hsigned : P .signed)
    (hjoined : ∀ r : Rank, P r.operand → P (.joined r)) (r : Rank) : P (.joined r) := by
  have hproduct := hjoined .product hsigned
  have hsum := hjoined .sum hproduct
  have hrelation := hjoined .relation hsum
  have hequality := hjoined .equality hrelation
  cases r with
  | or => exact hjoined .or hequality
  | equality => exact hequality
  | relation => exact hrelation
  | sum => exact hsum
  | product => exact hproduct

lemma parserOf_sound (n : ℕ) (c : Category) : Sound n c (parserOf n c) := by
  obtain ⟨hsigned, hinner⟩ := Grammar.signed_sound n
  cases c with
  | joined r =>
    refine joined_of_operand (P := fun c => Sound n c (parserOf n c)) hsigned (fun r hr => ?_) r
    rw [parserOf_joined]
    exact Grammar.level_sound hr
  | signed => exact hsigned
  | primary =>
    intro s x t h
    obtain ⟨ts, hts, hpass⟩ := Grammar.primary_sound hinner _ _ _ h
    exact ⟨ts, hts, hpass.blanks⟩

lemma parserOf_advances {n : ℕ} {c : Category} {s t : Cursor} {x : Expr}
    (h : parserOf n c s = .ok (x, t)) : ∃ ch front, Leads (ch :: front) s t := by
  obtain ⟨ts, hts, hpass⟩ := parserOf_sound n c s x t h
  obtain ⟨front, hleads, hspells⟩ := hpass.read
  cases front with
  | cons ch front => exact ⟨ch, front, hleads⟩
  | nil =>
    have hspelled : Grammar.Spelled ts [] := by
      simpa using hspells [] [] (fun _ => by simp [Grammar.Boundary]) (.done (by simp))
    obtain ⟨t, ts, rfl, -⟩ := hts.opens
    obtain ⟨rest, hread, -⟩ := hspelled.skipped_cons
    obtain ⟨ch, cs, hcons, -⟩ := hread.begins
    contradiction

lemma parserOf_shortens {n : ℕ} {c : Category} {s t : Cursor} {x : Expr}
    (h : parserOf n c s = .ok (x, t)) : t.rest.length < s.rest.length := by
  obtain ⟨ch, front, hleads⟩ := parserOf_advances h
  rw [hleads.rest, List.length_append, List.length_cons]
  omega

lemma parserOf_operators {n : ℕ} {c : Category} {s t : Cursor} {x : Expr}
    (h : parserOf n c s = .ok (x, t)) : t.operators = s.operators + x.operatorCount := by
  obtain ⟨ts, -, hpass⟩ := parserOf_sound n c s x t h
  exact hpass.counted

lemma parserOf_position {n : ℕ} {c : Category} {s t : Cursor} {x : Expr}
    (h : parserOf n c s = .ok (x, t)) : s.position < t.position := by
  obtain ⟨ch, front, hleads⟩ := parserOf_advances h
  have hsize := ch.utf8Size_pos
  rw [hleads.position, byteSize]
  omega

lemma Cursor.grow_eq_ok {c d : Cursor} (h : c.grow = .ok d) :
    c.operators < operatorLimit ∧ d.operators = c.operators + 1 := by
  rw [Cursor.grow] at h
  split at h
  · contradiction
  · next hle =>
    obtain rfl := Except.ok.inj h
    exact ⟨Nat.not_lt.mp hle, rfl⟩

end DerivedStats.Formula
