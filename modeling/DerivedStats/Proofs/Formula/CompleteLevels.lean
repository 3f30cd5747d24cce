import DerivedStats.Proofs.Formula.Follows
import DerivedStats.Proofs.Formula.SoundLevels

/-! A phrase is read up to the token behind it: the operators of one rank after the other. -/

namespace DerivedStats.Formula.Grammar

open Text (isBlank)

lemma Chain.snoc {n : ℕ} {r : Rank} {x y z : Expr} {op : Operator} {ts us : List Token}
    (h : Chain n r x ts y) (hop : rank op = r) (hz : Derives n r.operand us z) :
    Chain n r x (ts ++ .operator op :: us) (.binary op y z) := by
  induction h with
  | nil => simpa using Chain.cons hop hz .nil
  | cons hop' hy _ ih => simpa using Chain.cons hop' hy ih

lemma Derives.chain {n : ℕ} {r : Rank} {ts : List Token} {z : Expr}
    (h : Derives n (.joined r) ts z) :
    ∃ us vs x, ts = us ++ vs ∧ Derives n r.operand us x ∧ Chain n r x vs z := by
  generalize hc : Category.joined r = c at h
  induction h with
  | @operand n r' ts x h _ =>
    obtain rfl := Category.joined.inj hc
    exact ⟨ts, [], x, by simp, h, .nil⟩
  | join hop _ hy ih _ =>
    obtain rfl := Category.joined.inj hc
    obtain ⟨us, vs, x, rfl, hx, hchain⟩ := ih rfl
    exact ⟨us, _, x, by simp, hx, hchain.snoc hop hy⟩
  | _ => cases hc

lemma Follows.chain {n : ℕ} {r : Rank} {x z : Expr} {ts us : List Token} (hu : Follows (.joined r) us)
    (h : Chain n r x ts z) : Follows r.operand (ts ++ us) := by
  cases h with
  | nil =>
    apply hu.mono
    rw [operand_index]
    exact Nat.le_succ r.index
  | cons hop _ _ =>
    rw [List.cons_append, List.cons_append]
    exact follows_operator hop _

def Yields {α : Type} (p : Parser α) (s : Cursor) (x : α) (k : ℕ) (us : List Token) : Prop :=
  ∃ t, p s = .ok (x, t) ∧ Spelled us t.rest ∧ t.operators = s.operators + k

def Complete (n : ℕ) (c : Category) (p : Parser Expr) : Prop :=
  ∀ ts x us s, Derives n c ts x → Follows c us → Spelled (ts ++ us) s.rest →
    s.operators + x.operatorCount ≤ operatorLimit → Yields p s x x.operatorCount us

lemma scanOf_follows {r : Rank} {us : List Token} {cs : List Char} (h : Follows (.joined r) us)
    (hs : Spelled us cs) : scanOf r (cs.dropWhile isBlank) = none := by
  cases us with
  | nil =>
    rw [hs.skipped_nil]
    cases r <;> rfl
  | cons t us =>
    obtain ⟨rest, hread, -⟩ := hs.skipped_cons
    apply scanOf_other hread
    rcases h t rfl with rfl | rfl | ⟨op, rfl, hop⟩
    · exact .inl rfl
    · exact .inr (.inl rfl)
    · refine .inr (.inr ⟨op, rfl, ?_⟩)
      rintro rfl
      exact hop.ne rfl

lemma Chain.operatorCount_le {n : ℕ} {r : Rank} {x z : Expr} {ts : List Token}
    (h : Chain n r x ts z) : x.operatorCount ≤ z.operatorCount := by
  induction h with
  | nil => exact le_rfl
  | cons _ _ _ ih =>
    simp only [Expr.operatorCount] at ih
    omega

lemma grow_complete {s : Cursor} (h : s.operators + 1 ≤ operatorLimit) :
    s.grow = .ok { s with operators := s.operators + 1 } := by
  rw [Cursor.grow]
  rw [if_neg (by omega)]

lemma scanOf_spelled {n : ℕ} {c : Category} {op : Operator} {ts us : List Token} {x : Expr}
    {s : Cursor} (hx : Derives n c ts x) (hs : Spelled (.operator op :: (ts ++ us)) s.rest) :
    ∃ k, scanOf (rank op) s.skipBlanks.rest = some (op, k) ∧
      Spelled (ts ++ us) (s.skipBlanks.drop k).rest := by
  obtain ⟨rest, hread, hrest⟩ := hs.next
  have hhead : rest.head? ≠ some '=' := by
    obtain ⟨t, ts', rfl, ht⟩ := hx.opens
    exact hrest.head_ne_eq ht
  obtain ⟨k, hscan, hdrop⟩ := scanOf_complete hread hhead
  refine ⟨k, hscan, ?_⟩
  rw [Cursor.drop_rest, hdrop]
  exact hrest

lemma extend_complete {n : ℕ} {r : Rank} {operand : Parser Expr} (ho : Complete n r.operand operand)
    {x z : Expr} {ts us : List Token} (h : Chain n r x ts z) (hu : Follows (.joined r) us)
    {fuel : ℕ} {s : Cursor} (hs : Spelled (ts ++ us) s.rest)
    (hlimit : s.operators + z.operatorCount ≤ operatorLimit + x.operatorCount)
    (hfuel : z.operatorCount < fuel + x.operatorCount) :
    ∃ t, extend (scanOf r) operand fuel x s = .ok (z, t) ∧ Spelled us t.rest ∧
      t.operators + x.operatorCount = s.operators + z.operatorCount := by
  -- Every step of the chain uses one fuel and counts one operator, so the fuel lasts.
  induction h generalizing fuel s with
  | nil =>
    obtain ⟨fuel, rfl⟩ : ∃ m, fuel = m + 1 := Nat.exists_eq_add_one.mpr (by omega)
    refine ⟨s, ?_, hs, rfl⟩
    rw [extend, Cursor.skipBlanks_rest, scanOf_follows hu hs]
  | @cons x y z op vs ts hop hy hchain ih =>
    have hle := hchain.operatorCount_le
    simp only [Expr.operatorCount] at hle
    obtain ⟨fuel, rfl⟩ : ∃ m, fuel = m + 1 := Nat.exists_eq_add_one.mpr (by omega)
    rw [List.append_assoc, List.cons_append] at hs
    obtain ⟨k, hscan, hd⟩ := scanOf_spelled hy hs
    rw [hop] at hscan
    let d : Cursor := { s.skipBlanks.drop k with operators := s.operators + 1 }
    have hgrow : (s.skipBlanks.drop k).grow = .ok d := by
      apply grow_complete
      simp only [Cursor.drop_operators, Cursor.skipBlanks_operators]
      omega
    obtain ⟨e, he, hse, hce⟩ := ho _ _ _ d hy (hu.chain hchain) hd (by simp only [d]; omega)
    simp only [d] at hce
    have hfuel' : z.operatorCount < fuel + (Expr.binary op x y).operatorCount := by
      simp only [Expr.operatorCount]
      omega
    obtain ⟨t, ht, hst, hct⟩ := ih hse (by simp only [Expr.operatorCount]; omega) hfuel'
    refine ⟨t, ?_, hst, ?_⟩
    · rw [extend, hscan]
      exact bind_eq_ok.mpr ⟨d, hgrow, bind_eq_ok.mpr ⟨(y, e), he, ht⟩⟩
    · simp only [Expr.operatorCount] at hct
      omega

lemma level_complete {n : ℕ} {r : Rank} {operand : Parser Expr}
    (ho : Complete n r.operand operand) : Complete n (.joined r) (level (scanOf r) operand) := by
  intro ts z us s h hu hs hlimit
  obtain ⟨vs, ws, x, rfl, hx, hchain⟩ := h.chain
  have hle := hchain.operatorCount_le
  rw [List.append_assoc] at hs
  obtain ⟨d, hd, hsd, hcd⟩ := ho _ _ _ s hx (hu.chain hchain) hs (by omega)
  obtain ⟨t, ht, hst, hct⟩ := extend_complete ho hchain hu hsd (by omega)
    (by omega : z.operatorCount < operatorLimit + 1 + x.operatorCount)
  exact ⟨t, bind_eq_ok.mpr ⟨(x, d), hd, ht⟩, hst, by omega⟩

lemma levels_complete {n : ℕ} {operand : Parser Expr} (ho : Complete n .signed operand) :
    Complete n (.joined .or) (levels operand) := by
  have hproduct : Complete n (.joined .product) _ := level_complete ho
  have hsum : Complete n (.joined .sum) _ := level_complete hproduct
  have hrelation : Complete n (.joined .relation) _ := level_complete hsum
  have hequality : Complete n (.joined .equality) _ := level_complete hrelation
  exact level_complete hequality

end DerivedStats.Formula.Grammar
