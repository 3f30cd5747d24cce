import DerivedStats.Proofs.Formula.Scanning

/-! Which tokens may stand at the start of a phrase and behind it. -/

namespace DerivedStats.Formula.Grammar

open Text (isBlank)

def Rank.index : Rank → ℕ
  | .or => 0
  | .equality => 1
  | .relation => 2
  | .sum => 3
  | .product => 4

def Category.index : Category → ℕ
  | .joined r => r.index
  | .signed => 5
  | .primary => 5

lemma operand_index (r : Rank) : r.operand.index = r.index + 1 := by
  cases r <;> rfl

/-- The tokens behind a phrase do not prolong it. -/
def Follows (c : Category) (us : List Token) : Prop :=
  ∀ t ∈ us.head?, t = .closing ∨ t = .comma ∨ ∃ op, t = .operator op ∧ (rank op).index < c.index

lemma Follows.mono {c d : Category} {us : List Token} (h : Follows c us)
    (hcd : c.index ≤ d.index) : Follows d us := by
  intro t ht
  rcases h t ht with rfl | rfl | ⟨op, rfl, hop⟩
  · exact .inl rfl
  · exact .inr (.inl rfl)
  · exact .inr (.inr ⟨op, rfl, hop.trans_le hcd⟩)

lemma follows_nil (c : Category) : Follows c [] := by
  simp [Follows]

lemma follows_closing (c : Category) (us : List Token) : Follows c (.closing :: us) := by
  simp [Follows]

lemma follows_comma (c : Category) (us : List Token) : Follows c (.comma :: us) := by
  simp [Follows]

lemma follows_operator {op : Operator} {r : Rank} (h : rank op = r) (us : List Token) :
    Follows r.operand (.operator op :: us) := by
  simp [Follows, h, operand_index]

def followers : List Char := [')', ',', '+', '-', '*', '/', '>', '<', '=', '!', '|', 'O']

lemma Follows.begins {us : List Token} {cs : List Char} (h : Follows .primary us)
    (hs : Spelled us cs) : ∀ c ∈ (cs.dropWhile isBlank).head?, c ∈ followers := by
  cases us with
  | nil => simp [hs.skipped_nil]
  | cons t us =>
    obtain ⟨rest, hread, -⟩ := hs.skipped_cons
    obtain ⟨c, cs', hcs, hc⟩ := hread.begins
    rw [hcs]
    intro d hd
    obtain rfl : c = d := by simpa using hd
    rcases h t rfl with rfl | rfl | ⟨op, rfl, -⟩
    · obtain rfl := hc
      decide
    · obtain rfl := hc
      decide
    · rcases hc with hc | ⟨-, rfl⟩
      · cases op <;> obtain rfl := Option.mem_some.mp hc <;> decide
      · decide

lemma Follows.not_numeral {us : List Token} {cs : List Char} (h : Follows .primary us)
    (hs : Spelled us cs) : ∀ c ∈ cs.head?, ¬Decimal.isDigit c ∧ c ≠ '.' := by
  intro c hc
  obtain ⟨cs, rfl⟩ := List.head?_eq_some_iff.mp hc
  by_cases hb : isBlank c
  · refine ⟨fun hd => isDigit_not_blank hd hb, ?_⟩
    rintro rfl
    contradiction
  · have hf := h.begins hs c (by simp [hb])
    simp only [followers, List.mem_cons, List.not_mem_nil, or_false] at hf
    rcases hf with rfl | rfl | rfl | rfl | rfl | rfl | rfl | rfl | rfl | rfl | rfl | rfl <;> decide

def Opens : Token → Prop
  | .operator op => op = .add ∨ op = .sub
  | .closing => False
  | .comma => False
  | _ => True

lemma Derives.opens {n : ℕ} {c : Category} {ts : List Token} {x : Expr} (h : Derives n c ts x) :
    ∃ t ts', ts = t :: ts' ∧ Opens t := by
  induction h with
  | operand _ ih => exact ih
  | join _ _ _ ih _ =>
    obtain ⟨t, ts', rfl, ht⟩ := ih
    exact ⟨t, _, rfl, ht⟩
  | plus _ _ => exact ⟨_, _, rfl, .inl rfl⟩
  | minus _ _ => exact ⟨_, _, rfl, .inr rfl⟩
  | unsigned _ ih => exact ih
  | number _ => exact ⟨_, _, rfl, trivial⟩
  | delimited _ => exact ⟨_, _, rfl, trivial⟩
  | name => exact ⟨_, _, rfl, trivial⟩
  | call _ _ _ => exact ⟨_, _, rfl, trivial⟩
  | group _ _ => exact ⟨_, _, rfl, trivial⟩

lemma Opens.begins {t : Token} {c : Char} (ht : Opens t) (hc : Begins t c) : c ≠ '=' ∧ c ≠ ')' := by
  constructor
  all_goals
    rintro rfl
    cases t with
    | number _ => rcases hc with hc | hc <;> contradiction
    | delimited _ => simp [Begins] at hc
    | name _ => contradiction
    | operator op => rcases ht with rfl | rfl <;> simp [Begins, Operator.symbol] at hc
    | opening => simp [Begins] at hc
    | closing => contradiction
    | comma => contradiction

lemma Spelled.head_ne_eq {t : Token} {ts : List Token} {cs : List Char} (h : Spelled (t :: ts) cs)
    (ht : Opens t) : cs.head? ≠ some '=' := by
  intro heq
  obtain ⟨cs, rfl⟩ := List.head?_eq_some_iff.mp heq
  obtain ⟨rest, hread, -⟩ := h.skipped_cons
  rw [List.dropWhile_cons_of_neg (by decide)] at hread
  obtain ⟨c, cs', hcs, hc⟩ := hread.begins
  exact (ht.begins hc).1 (List.cons.inj hcs).1.symm

end DerivedStats.Formula.Grammar
