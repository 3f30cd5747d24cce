import DerivedStats.Proofs.Formula.Numerals

/-! What the parser reads is a phrase of the grammar: the operators of one rank after the other. -/

namespace DerivedStats.Formula.Grammar

lemma bind_eq_ok {ε α β : Type} {m : Except ε α} {f : α → Except ε β} {b : β} :
    (m >>= f) = .ok b ↔ ∃ a, m = .ok a ∧ f a = .ok b := by
  cases m with
  | error e => simp [bind, Except.bind]
  | ok a => simp [bind, Except.bind]

open Cursor (Leads)

/-- From `s` to `t` the tokens are read, as they are whatever follows them, and so many operators are
counted. -/
structure Passes (ts : List Token) (k : ℕ) (s t : Cursor) : Prop where
  read : ∃ front, Leads front s t ∧ Spells ts front t.rest
  counted : t.operators = s.operators + k
  bounded : s.operators ≤ operatorLimit → t.operators ≤ operatorLimit

namespace Passes

lemma spelled {ts : List Token} {k : ℕ} {s t : Cursor} (h : Passes ts k s t) (us : List Token)
    (hus : Spelled us t.rest) : Spelled (ts ++ us) s.rest := by
  obtain ⟨front, hleads, hspells⟩ := h.read
  rw [hleads.rest]
  exact hspells us t.rest id hus

lemma refl (s : Cursor) : Passes [] 0 s s := ⟨⟨[], .refl s, .nil s.rest⟩, rfl, id⟩

lemma trans {ts us : List Token} {k l : ℕ} {r s t : Cursor} (h : Passes ts k r s)
    (h' : Passes us l s t) : Passes (ts ++ us) (k + l) r t where
  read := by
    obtain ⟨front, hleads, hspells⟩ := h.read
    obtain ⟨back, hleads', hspells'⟩ := h'.read
    rw [hleads'.rest] at hspells
    exact ⟨front ++ back, hleads.trans hleads', hspells.append hspells'⟩
  counted := by rw [h'.counted, h.counted, Nat.add_assoc]
  bounded hr := h'.bounded (h.bounded hr)

lemma skipBlanks (s : Cursor) : Passes [] 0 s s.skipBlanks where
  read := ⟨_, .skipBlanks s, .blanks (fun _ hc => List.mem_takeWhile_imp hc) _⟩
  counted := rfl
  bounded := id

lemma blanks {ts : List Token} {k : ℕ} {s t : Cursor} (h : Passes ts k s.skipBlanks t) :
    Passes ts k s t := by
  simpa using (skipBlanks s).trans h

lemma token {t : Token} {s d : Cursor} {front : List Char} (hleads : Leads front s d)
    (h : Reads t s.rest d.rest) (hd : d.operators = s.operators) : Passes [t] 0 s d where
  read := ⟨front, hleads, .token (hleads.rest ▸ h)⟩
  counted := hd
  bounded := hd.trans_le

lemma lexeme {t : Token} {s : Cursor} {k : ℕ}
    (h : Reads t s.skipBlanks.rest (s.skipBlanks.rest.drop k)) :
    Passes [t] 0 s (s.skipBlanks.drop k) :=
  blanks (token (.drop k s.skipBlanks) h rfl)

lemma head {t : Token} {s : Cursor} {c : Char} {cs : List Char} (hs : s.rest = c :: cs)
    (h : Reads t (c :: cs) cs) : Passes [t] 0 s (s.drop 1) := by
  refine token (.drop 1 s) ?_ rfl
  rw [Cursor.drop_rest, hs]
  exact h

lemma first {t : Token} {s : Cursor} {c : Char} {cs : List Char} (hs : s.skipBlanks.rest = c :: cs)
    (h : Reads t (c :: cs) cs) : Passes [t] 0 s (s.skipBlanks.drop 1) :=
  blanks (head hs h)

lemma grow {s t : Cursor} (h : s.grow = .ok t) : Passes [] 1 s t := by
  have hleads := Leads.grow h
  rw [Cursor.grow] at h
  split at h
  · contradiction
  · obtain rfl := Except.ok.inj h
    exact ⟨⟨[], hleads, .nil _⟩, rfl, fun _ => by dsimp only; omega⟩

end Passes

def Sound (n : ℕ) (c : Category) (p : Parser Expr) : Prop :=
  ∀ s x t, p s = .ok (x, t) → ∃ ts, Derives n c ts x ∧ Passes ts x.operatorCount s t

inductive Chain (n : ℕ) (r : Rank) : Expr → List Token → Expr → Prop
  | nil {x : Expr} : Chain n r x [] x
  | cons {x y z : Expr} {op : Operator} {us ts : List Token} : rank op = r →
      Derives n r.operand us y → Chain n r (.binary op x y) ts z →
      Chain n r x (.operator op :: us ++ ts) z

lemma Chain.derives {n : ℕ} {r : Rank} {x z : Expr} {ts us : List Token} (h : Chain n r x ts z)
    (hx : Derives n (.joined r) us x) : Derives n (.joined r) (us ++ ts) z := by
  induction h generalizing us with
  | nil => simpa using hx
  | cons hop hy _ ih => simpa using ih (.join hop hx hy)

lemma extend_sound {n : ℕ} {r : Rank} {operand : Parser Expr} (ho : Sound n r.operand operand)
    {fuel : ℕ} {x z : Expr} {s t : Cursor} (h : extend (scanOf r) operand fuel x s = .ok (z, t)) :
    ∃ ts k, Chain n r x ts z ∧ z.operatorCount = x.operatorCount + k ∧ Passes ts k s t := by
  induction fuel generalizing x s with
  | zero =>
    obtain ⟨rfl, rfl⟩ := by simpa [extend] using h
    exact ⟨[], 0, .nil, rfl, .refl s⟩
  | succ fuel ih =>
    rw [extend] at h
    split at h
    · obtain ⟨rfl, rfl⟩ := by simpa using h
      exact ⟨[], 0, .nil, rfl, .refl s⟩
    · rename_i op k hscan
      obtain ⟨d, hd, h⟩ := bind_eq_ok.mp h
      obtain ⟨⟨y, e⟩, hy, h⟩ := bind_eq_ok.mp h
      obtain ⟨hop, hread⟩ := scanOf_sound hscan
      obtain ⟨us, hus, hpass⟩ := ho _ _ _ hy
      obtain ⟨ts, l, hchain, hcount, hrest⟩ := ih h
      refine ⟨_, 1 + y.operatorCount + l, .cons hop hus hchain, ?_, ?_⟩
      · simp only [hcount, Expr.operatorCount]
        omega
      · simpa using (((Passes.lexeme hread).trans (.grow hd)).trans hpass).trans hrest

lemma level_sound {n : ℕ} {r : Rank} {operand : Parser Expr} (ho : Sound n r.operand operand) :
    Sound n (.joined r) (level (scanOf r) operand) := by
  intro s z t h
  obtain ⟨⟨x, d⟩, hx, h⟩ := bind_eq_ok.mp h
  obtain ⟨us, hus, hpass⟩ := ho _ _ _ hx
  obtain ⟨ts, k, hchain, hcount, hrest⟩ := extend_sound ho h
  refine ⟨us ++ ts, hchain.derives (.operand hus), ?_⟩
  rw [hcount]
  exact hpass.trans hrest

lemma levels_sound {n : ℕ} {operand : Parser Expr} (ho : Sound n .signed operand) :
    Sound n (.joined .or) (levels operand) := by
  have hproduct : Sound n (.joined .product) _ := level_sound ho
  have hsum : Sound n (.joined .sum) _ := level_sound hproduct
  have hrelation : Sound n (.joined .relation) _ := level_sound hsum
  have hequality : Sound n (.joined .equality) _ := level_sound hrelation
  exact level_sound hequality

lemma Passes.close {s t : Cursor} (h : s.close = .ok t) : Passes [.closing] 0 s t := by
  rw [Cursor.close] at h
  split at h
  · rename_i cs hcs
    obtain rfl := Except.ok.inj h
    exact .first hcs .closing
  · rw [Cursor.failHere, Cursor.fail] at h
    split at h <;> contradiction

end DerivedStats.Formula.Grammar
