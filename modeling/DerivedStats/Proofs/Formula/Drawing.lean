import DerivedStats.Proofs.Formula.Dependence

/-! A formula does not see how many samples were drawn before, only those that are still to come. -/

namespace DerivedStats.Formula

def SameDraws (u v : Nat → Float) (m n : Nat) : Prop := ∀ k, u (m + k) = v (n + k)

lemma SameDraws.add {u v : Nat → Float} {m n : Nat} (h : SameDraws u v m n) (d : Nat) :
    SameDraws u v (m + d) (n + d) := by
  intro k
  rw [Nat.add_assoc, Nat.add_assoc]
  exact h (d + k)

def DrawsAlike {α : Type} (u v : Nat → Float) (x y : Sampling α) : Prop :=
  ∀ m n, SameDraws u v m n →
    (x.run.run m).1 = (y.run.run n).1 ∧ SameDraws u v (x.run.run m).2 (y.run.run n).2

lemma EndAlike.drawsAlike {α : Type} {u v : Nat → Float} {d : Nat} {x y : Sampling α}
    (h : EndAlike u v d x y) : DrawsAlike u v x y := by
  intro m n hsame
  obtain ⟨result, k, -, hx, hy⟩ := h m n fun k _ => hsame k
  rw [hx, hy]
  exact ⟨rfl, hsame.add k⟩

lemma sample_drawsAlike (value : String → Float) (u v : Nat → Float) (e : Expr) :
    DrawsAlike u v (e.sample ⟨value, u⟩) (e.sample ⟨value, v⟩) :=
  (sample_endAlike (s := ⟨value, u⟩) (t := ⟨value, v⟩) e fun _ _ => rfl).drawsAlike

end DerivedStats.Formula
