import DerivedStats.Proofs.Formula.CompileSound
import DerivedStats.Proofs.Formula.CompleteCalls

/-! The compiler accepts the texts that the grammar derives within the limits, and no others. -/

namespace DerivedStats.Formula.Grammar

open Text (isBlank)

lemma Begins.not_sign {t : Token} {c : Char} (ht : Opens t) (hop : ∀ op, t ≠ .operator op)
    (hc : Begins t c) : c ≠ '+' ∧ c ≠ '-' := by
  constructor
  all_goals
    rintro rfl
    cases t with
    | number _ => rcases hc with hc | hc <;> contradiction
    | delimited _ => simp [Begins] at hc
    | name _ => contradiction
    | operator op => exact hop op rfl
    | opening => simp [Begins] at hc
    | closing => contradiction
    | comma => contradiction

lemma Derives.primary_head {n : ℕ} {t : Token} {ts : List Token} {x : Expr}
    (h : Derives n .primary (t :: ts) x) : ∀ op, t ≠ .operator op := by
  rintro op rfl
  cases h

lemma Derives.primary_begins {n : ℕ} {ts us : List Token} {x : Expr} {cs : List Char}
    (h : Derives n .primary ts x) (hs : Spelled (ts ++ us) cs) :
    ∀ c ∈ (cs.dropWhile isBlank).head?, c ≠ '+' ∧ c ≠ '-' := by
  obtain ⟨t, ts', rfl, ht⟩ := h.opens
  obtain ⟨rest, hread, -⟩ := hs.skipped_cons
  obtain ⟨c, cs', hcs, hc⟩ := hread.begins
  rw [hcs]
  intro d hd
  obtain rfl : c = d := by simpa using hd
  exact hc.not_sign ht h.primary_head

lemma skipped_symbol {op : Operator} {us : List Token} {s : Cursor} (hop : op ≠ .or)
    (hs : Spelled (.operator op :: us) s.rest) :
    ∃ rest, s.skipBlanks.rest = op.symbol.toList ++ rest ∧ Spelled us rest := by
  obtain ⟨rest, hread, hrest⟩ := hs.next
  generalize s.skipBlanks.rest = l at hread
  cases hread with
  | symbol _ => exact ⟨rest, rfl, hrest⟩
  | bars => contradiction

lemma signed_plus {n : ℕ} {us : List Token} {s : Cursor}
    (hs : Spelled (.operator .add :: us) s.rest) :
    ∃ d : Cursor, Spelled us d.rest ∧ d.operators = s.operators ∧ signed (n + 1) s = signed n d := by
  obtain ⟨rest, hplus, hrest⟩ := skipped_symbol (by decide) hs
  change s.skipBlanks.rest = '+' :: rest at hplus
  refine ⟨s.skipBlanks.drop 1, ?_, rfl, ?_⟩
  · rw [Cursor.drop_rest, hplus]
    exact hrest
  · rw [signed_succ]
    simp only [hplus]

lemma signed_minus {n : ℕ} {us : List Token} {s : Cursor}
    (hs : Spelled (.operator .sub :: us) s.rest) :
    ∃ d : Cursor, Spelled us d.rest ∧ d.operators = s.operators ∧
      signed (n + 1) s = (do
        let d ← d.grow
        let (x, e) ← signed n d
        .ok (.binary .sub (.number 0) x, e)) := by
  obtain ⟨rest, hminus, hrest⟩ := skipped_symbol (by decide) hs
  change s.skipBlanks.rest = '-' :: rest at hminus
  refine ⟨s.skipBlanks.drop 1, ?_, rfl, ?_⟩
  · rw [Cursor.drop_rest, hminus]
    exact hrest
  · rw [signed_succ]
    simp only [hminus]

lemma signed_unsigned {m n : ℕ} {ts us : List Token} {x : Expr} {s : Cursor}
    (hx : Derives m .primary ts x) (hs : Spelled (ts ++ us) s.rest) :
    signed (n + 1) s = primary (inside n) s.skipBlanks := by
  have hhead := hx.primary_begins hs
  rw [← Cursor.skipBlanks_rest] at hhead
  rw [signed_succ]
  split
  · rename_i cs hcs
    exact absurd rfl (hhead '+' (by rw [hcs]; rfl)).1
  · rename_i cs hcs
    exact absurd rfl (hhead '-' (by rw [hcs]; rfl)).2
  · rfl

lemma signed_succ_complete {n : ℕ} (ho : Complete n .signed (signed n))
    (hp : CompletePrimary n (inside n)) : Complete (n + 1) .signed (signed (n + 1)) := by
  intro ts x us s h hu hs hlimit
  rw [Yields]
  cases h with
  | plus hx =>
    obtain ⟨d, hd, hcount, hplus⟩ := signed_plus (n := n) hs
    rw [hplus, ← hcount]
    exact ho _ _ _ d hx hu hd (by rwa [hcount])
  | @minus _ ts y hx =>
    obtain ⟨d, hd, hcount, hminus⟩ := signed_minus (n := n) hs
    simp only [Expr.operatorCount, Nat.zero_add] at hlimit ⊢
    have hgrow := grow_complete (s := d) (by omega)
    obtain ⟨t, ht, hst, hct⟩ := ho _ _ _ { d with operators := d.operators + 1 } hx hu hd
      (by dsimp only; omega)
    refine ⟨t, ?_, hst, by dsimp only at hct; omega⟩
    rw [hminus]
    exact bind_eq_ok.mpr ⟨_, hgrow, bind_eq_ok.mpr ⟨(y, t), ht, rfl⟩⟩
  | unsigned hx =>
    rw [signed_unsigned hx hs]
    exact hp _ _ _ s hx hu hs hlimit

lemma signed_complete (n : ℕ) : Complete n .signed (signed n) ∧ CompleteInner n (inside n) := by
  induction n with
  | zero => exact ⟨fun _ _ _ _ h => (by cases h), fun _ h => (by contradiction)⟩
  | succ n ih =>
    refine ⟨signed_succ_complete ih.1 (primary_complete ih.2), fun m h => ?_⟩
    obtain rfl := Nat.succ.inj h
    exact ⟨_, rfl, levels_complete ih.1⟩

lemma expression_complete : Complete nestingLimit (.joined .or) expression :=
  levels_complete (signed_complete nestingLimit).1

lemma compile_complete {text : String} {e : Expr} {ts : List Token}
    (hs : Spelled ts text.toList) (h : Derives nestingLimit (.joined .or) ts e)
    (hlimit : e.operatorCount ≤ operatorLimit) : compile text = .ok e := by
  obtain ⟨t, ht, hst, -⟩ := expression_complete ts e [] (Cursor.start text.toList) h
    (follows_nil _) (by simpa [Cursor.start] using hs) (by simpa [Cursor.start] using hlimit)
  refine bind_eq_ok.mpr ⟨(e, t), ht, ?_⟩
  have hend := hst.skipped_nil
  rw [← Cursor.skipBlanks_rest] at hend
  simp only [hend, List.isEmpty_nil, if_true]

end DerivedStats.Formula.Grammar
