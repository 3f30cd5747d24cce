import DerivedStats.Proofs.Formula.Marker

/-! Steps of a marker that come to what a parser comes to on the cursor that runs along, and how
they are put together. -/

namespace DerivedStats.Formula

open Cursor (Leads)
open Marker

/-- The steps come to the parser's result, and where that is not a fault, the marker ends behind the
parser's cursor, on the level it began on. -/
inductive Tracks {α : Type} (p : Run α) (m : Marker) : Except CompileError (α × Cursor) → Prop
  | ok {x : α} {c d : Cursor} : Ends p m (.ok x) (m.moveTo c) → (m.moveTo c).Behind d →
      Tracks p m (.ok (x, d))
  | error {e : CompileError} {m' : Marker} : Ends p m (.error e) m' → m.depth ≤ m'.depth →
      Tracks p m (.error e)

namespace Tracks

variable {α β : Type} {p : Run α} {f : α → Run β} {m : Marker} {c : Cursor}

lemma pure (x : α) (h : m.Behind c) : Tracks (Pure.pure x) m (.ok (x, c)) := by
  obtain ⟨d, hd, -, -⟩ := id h
  refine .ok (c := d) ?_ ?_ <;> rw [hd.moveTo_self]
  · exact .pure x m
  · exact h

lemma fault (f : Fault) (position : ℕ) :
    Tracks (Marker.fault f position : Run α) m (.error ⟨f, position⟩) :=
  .error (.throw _ m) (Nat.le_refl _)

lemma of_ends {p : Run α} {p' : Run α} {q : Except CompileError (α × Cursor)}
    (h : ∀ result m', Ends p' (m.moveTo c) result m' → Ends p m result m')
    (h' : Tracks p' (m.moveTo c) q) : Tracks p m q := by
  cases h' with
  | ok hends hbehind => exact .ok (h _ _ hends) hbehind
  | error hends hle => exact .error (h _ _ hends) hle

lemma after {x : α} {q : Except CompileError (β × Cursor)} (h : Ends p m (.ok x) (m.moveTo c))
    (h' : Tracks (f x) (m.moveTo c) q) : Tracks (p >>= f) m q :=
  .of_ends (fun _ _ => .bind h) h'

lemma stay {x : α} {q : Except CompileError (β × Cursor)} (h : Ends p m (.ok x) m)
    (h' : Tracks (f x) m q) : Tracks (p >>= f) m q :=
  -- A move to where it stands leaves the marker as it is.
  .of_ends (c := ⟨[], m.position, m.operators⟩) (fun _ _ => .bind h) h'

lemma bind {q : Except CompileError (α × Cursor)}
    {g : α × Cursor → Except CompileError (β × Cursor)} (h : Tracks p m q)
    (h' : ∀ x c d, q = .ok (x, d) → (m.moveTo c).Behind d → Tracks (f x) (m.moveTo c) (g (x, d))) :
    Tracks (p >>= f) m (q >>= g) := by
  cases h with
  | ok hends hbehind => exact .after hends (h' _ _ _ rfl hbehind)
  | error hends hle => exact .error (.fault hends) hle

lemma ite {P : Prop} [Decidable P] {p' : Run α} {q q' : Except CompileError (α × Cursor)}
    (h : P → Tracks p m q) (h' : ¬P → Tracks p' m q') :
    Tracks (if P then p else p') m (if P then q else q') := by
  split
  · next hP => exact h hP
  · next hP => exact h' hP

lemma grow {f : Unit → Run β} {g : Cursor → Except CompileError (β × Cursor)} (h : m.At c)
    (h' : ∀ d, c.grow = .ok d → (m.moveTo d).At d → Tracks (f ()) (m.moveTo d) (g d)) :
    Tracks (Marker.grow >>= f) m (c.grow >>= g) := by
  cases hd : c.grow with
  | error e => exact .error (.fault (grow_fails h hd)) (Nat.le_refl _)
  | ok d =>
    have hat : (m.moveTo d).At d := h.moveTo (.grow hd)
    exact .after (grow_ends h hd) (h' d hd hat)

lemma close {f : Unit → Run β} {g : Cursor → Except CompileError (β × Cursor)} (h : m.Behind c)
    (h' : ∀ d, (m.moveTo d).At d → Tracks (f ()) (m.moveTo d) (g d)) :
    Tracks (expect ')' >>= f) m (c.close >>= g) := by
  have hpeek := peek_ends h.skipped
  rw [Cursor.close]
  split
  · next cs hcs =>
    refine .after (.bind (skipBlanks_ends h) (.bind hpeek ?_)) (h' _ (h.dropped 1))
    rw [hcs, if_pos (by rfl)]
    exact bump_ends h.skipped hcs
  · next hother =>
    obtain ⟨e, he, hends⟩ := faultHere_ends h.skipped
    rw [he]
    have hfails : Ends (expect ')') m (.error e) (m.moveTo c.skipBlanks) := by
      refine .bind (skipBlanks_ends h) (.bind hpeek ?_)
      rwa [if_neg fun hhead => ?_]
      obtain ⟨cs, hcs⟩ := List.head?_eq_some_iff.mp hhead
      exact hother cs hcs
    exact .error (.fault hfails) (Nat.le_refl _)

lemma nested {g : α × Cursor → Except CompileError (β × Cursor)}
    {inner : Option (Parser α)} (h : m.At c) (hnone : inner = none → nestingLimit ≤ m.depth)
    (hsome : ∀ q ∈ inner, m.depth < nestingLimit ∧ Tracks p { m with depth := m.depth + 1 } (q c))
    (h' : ∀ x d e, (m.moveTo e).Behind d → Tracks (f x) (m.moveTo e) (g (x, d))) :
    Tracks (do enter; let x ← p; leave; f x) m (nested inner c >>= g) := by
  cases hinner : inner with
  | none =>
    have hfails := enter_fails (hnone hinner)
    rw [h.position] at hfails
    exact .error (.fault hfails) (Nat.le_succ _)
  | some q =>
    obtain ⟨hlt, htracks⟩ := hsome q hinner
    change Tracks _ m (q c >>= g)
    generalize hq : q c = result at htracks ⊢
    cases htracks with
    | error hends hle =>
      exact .error (.bind (enter_ends hlt) (.fault hends)) (Nat.le_of_succ_le hle)
    | @ok x e d hends hbehind =>
      refine .of_ends (fun _ _ hrun => ?_) (h' x d e (hbehind.withDepth m.depth))
      exact .bind (enter_ends hlt) (.bind hends (.bind (leave_ends rfl) hrun))

end Tracks

end DerivedStats.Formula
