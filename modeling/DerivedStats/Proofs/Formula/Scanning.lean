import DerivedStats.Proofs.Formula.Grammar
import Mathlib.Data.List.TakeWhile
import Mathlib.Tactic.Tauto

/-! What stands at the start of a spelled text: its blanks, its first token, its operators. -/

namespace DerivedStats.Formula

open Text (isBlank)

namespace Cursor

@[simp] lemma drop_rest (n : ℕ) (c : Cursor) : (c.drop n).rest = c.rest.drop n := rfl

@[simp] lemma drop_operators (n : ℕ) (c : Cursor) : (c.drop n).operators = c.operators := rfl

@[simp] lemma span_fst (p : Char → Bool) (c : Cursor) : (c.span p).1 = c.rest.takeWhile p := rfl

lemma drop_takeWhile (p : Char → Bool) (cs : List Char) :
    cs.drop (cs.takeWhile p).length = cs.dropWhile p := by
  induction cs with
  | nil => rfl
  | cons c cs ih => by_cases h : p c <;> simp [h, ih]

@[simp] lemma span_rest (p : Char → Bool) (c : Cursor) :
    (c.span p).2.rest = c.rest.dropWhile p := drop_takeWhile p c.rest

@[simp] lemma span_operators (p : Char → Bool) (c : Cursor) :
    (c.span p).2.operators = c.operators := rfl

@[simp] lemma skipBlanks_rest (c : Cursor) : c.skipBlanks.rest = c.rest.dropWhile isBlank :=
  span_rest isBlank c

@[simp] lemma skipBlanks_operators (c : Cursor) : c.skipBlanks.operators = c.operators := rfl

end Cursor

namespace Grammar

lemma dropWhile_append {p : Char → Bool} {cs rest : List Char} (h : ∀ c ∈ cs, p c)
    (hr : ∀ c ∈ rest.head?, ¬p c) : (cs ++ rest).dropWhile p = rest := by
  rw [List.dropWhile_append_of_pos h]
  cases rest with
  | nil => rfl
  | cons c rest => exact List.dropWhile_cons_of_neg (hr c rfl)

lemma takeWhile_append {p : Char → Bool} {cs rest : List Char} (h : ∀ c ∈ cs, p c)
    (hr : ∀ c ∈ rest.head?, ¬p c) : (cs ++ rest).takeWhile p = cs := by
  rw [List.takeWhile_append_of_pos h]
  cases rest with
  | nil => simp
  | cons c rest => simp [List.takeWhile_cons_of_neg (hr c rfl)]

def Begins : Token → Char → Prop
  | .number _, c => Decimal.isDigit c ∨ c = '.'
  | .delimited _, c => c = '%'
  | .name _, c => startsName c
  | .operator op, c => c ∈ op.symbol.toList.head? ∨ op = .or ∧ c = '|'
  | .opening, c => c = '('
  | .closing, c => c = ')'
  | .comma, c => c = ','

lemma Reads.begins {t : Token} {cs rest : List Char} (h : Reads t cs rest) :
    ∃ c cs', cs = c :: cs' ∧ Begins t c := by
  cases h with
  | @number cs _ hn =>
    obtain ⟨hc, _, hne, _⟩ := hn
    cases cs with
    | nil => exact (hne rfl).elim
    | cons c cs => exact ⟨c, _, rfl, hc c List.mem_cons_self⟩
  | delimited _ => exact ⟨'%', _, rfl, rfl⟩
  | name hs _ _ => exact ⟨_, _, rfl, hs⟩
  | @symbol op _ _ => cases op <;> exact ⟨_, _, rfl, .inl rfl⟩
  | bars => exact ⟨'|', _, rfl, .inr ⟨rfl, rfl⟩⟩
  | opening => exact ⟨'(', _, rfl, rfl⟩
  | closing => exact ⟨')', _, rfl, rfl⟩
  | comma => exact ⟨',', _, rfl, rfl⟩

lemma isDigit_toNat {c : Char} (h : Decimal.isDigit c) : 48 ≤ c.toNat ∧ c.toNat ≤ 57 := by
  simpa [Decimal.isDigit, Char.le_def, UInt32.le_iff_toNat_le] using h

def blankPoints : List ℕ := [9, 10, 11, 12, 13, 0x20, 0x85, 0xa0, 0x1680, 0x2000, 0x2001, 0x2002,
  0x2003, 0x2004, 0x2005, 0x2006, 0x2007, 0x2008, 0x2009, 0x200a, 0x2028, 0x2029, 0x202f, 0x205f,
  0x3000]

lemma isBlank_toNat {c : Char} (h : isBlank c) : c.toNat ∈ blankPoints := by
  simp only [isBlank, Bool.or_eq_true, Bool.and_eq_true, decide_eq_true_eq, beq_iff_eq] at h
  simp only [blankPoints, List.mem_cons, List.not_mem_nil, or_false]
  omega

lemma blankPoints_not_alphabetic : ∀ n ∈ blankPoints, Text.alphabetic.member n false = false := by
  decide +kernel

lemma isAlphabetic_low {c : Char} (h : c.toNat < 0x41) : Text.isAlphabetic c = false := by
  -- The capital letters are the first alphabetic characters.
  change (if c.toNat < 0x41 then false else _) = false
  exact if_pos h

lemma startsName_not_digit {c : Char} (h : startsName c) : ¬Decimal.isDigit c := by
  intro hd
  have hn := isDigit_toNat hd
  have ha := isAlphabetic_low (c := c) (by omega)
  simp only [startsName, ha, Bool.false_or, beq_iff_eq] at h
  subst h
  contradiction

lemma startsName_not_blank {c : Char} (h : startsName c) : ¬isBlank c := by
  intro hb
  have ha : Text.isAlphabetic c = false := blankPoints_not_alphabetic _ (isBlank_toNat hb)
  simp only [startsName, ha, Bool.false_or, beq_iff_eq] at h
  subst h
  contradiction

lemma startsName_continues {c : Char} (h : startsName c) : continuesName c := by
  simp only [startsName, continuesName, Text.isAlphanumeric, Text.isAlphabetic,
    Bool.or_eq_true] at h ⊢
  tauto

lemma isDigit_not_blank {c : Char} (h : Decimal.isDigit c) : ¬isBlank c := by
  intro hb
  have hn := isDigit_toNat h
  have hm := isBlank_toNat hb
  simp only [blankPoints, List.mem_cons, List.not_mem_nil, or_false] at hm
  omega

lemma Begins.not_blank {t : Token} {c : Char} (h : Begins t c) : ¬isBlank c := by
  cases t with
  | number _ =>
    rcases h with hd | rfl
    · exact isDigit_not_blank hd
    · decide
  | name _ => exact startsName_not_blank h
  | operator op =>
    rcases h with h | ⟨-, rfl⟩
    · cases op <;> obtain rfl := Option.mem_some.mp h <;> decide
    · decide
  | delimited _ => obtain rfl := h; decide
  | opening => obtain rfl := h; decide
  | closing => obtain rfl := h; decide
  | comma => obtain rfl := h; decide

lemma Spelled.blanks {ts : List Token} {bs cs : List Char} (hb : ∀ c ∈ bs, isBlank c)
    (h : Spelled ts cs) : Spelled ts (bs ++ cs) := by
  cases h with
  | done hc => exact .done fun c hm => (List.mem_append.mp hm).elim (hb c) (hc c)
  | @token blanks _ _ _ _ hc hr hs =>
    rw [← List.append_assoc]
    exact .token (fun c hm => (List.mem_append.mp hm).elim (hb c) (hc c)) hr hs

lemma Spelled.of_skipped {ts : List Token} {cs : List Char} (h : Spelled ts (cs.dropWhile isBlank)) :
    Spelled ts cs := by
  rw [← List.takeWhile_append_dropWhile (p := isBlank) (l := cs)]
  exact h.blanks fun c hc => List.mem_takeWhile_imp hc

lemma Spelled.skipped_nil {cs : List Char} (h : Spelled [] cs) : cs.dropWhile isBlank = [] := by
  cases h with
  | done hb => exact List.dropWhile_eq_nil_iff.mpr hb

lemma Spelled.skipped_cons {t : Token} {ts : List Token} {cs : List Char}
    (h : Spelled (t :: ts) cs) :
    ∃ rest, Reads t (cs.dropWhile isBlank) rest ∧ Spelled ts rest := by
  cases h with
  | @token blanks cs rest _ _ hb hr hs =>
    obtain ⟨c, cs', rfl, hc⟩ := hr.begins
    refine ⟨rest, ?_, hs⟩
    rwa [dropWhile_append hb (by simpa using hc.not_blank)]

lemma Spelled.next {t : Token} {ts : List Token} {s : Cursor} (h : Spelled (t :: ts) s.rest) :
    ∃ rest, Reads t s.skipBlanks.rest rest ∧ Spelled ts rest := by
  rw [Cursor.skipBlanks_rest]
  exact h.skipped_cons

lemma Spelled.cons {t : Token} {ts : List Token} {cs rest : List Char} (hr : Reads t cs rest)
    (hs : Spelled ts rest) : Spelled (t :: ts) cs := by
  have hb : ∀ c ∈ ([] : List Char), isBlank c := by simp
  exact .token hb hr hs

def scanOf : Rank → Scan
  | .or => scanOr
  | .equality => scanEquality
  | .relation => scanRelation
  | .sum => scanSum
  | .product => scanProduct

lemma boundary_iff {cs : List Char} : Boundary cs ↔ cs.head?.any continuesName = false := by
  cases cs <;> simp [Boundary]

lemma scanOf_sound {r : Rank} {cs : List Char} {op : Operator} {k : ℕ}
    (h : scanOf r cs = some (op, k)) : rank op = r ∧ Reads (.operator op) cs (cs.drop k) := by
  have symbol : ∀ {op : Operator} {rest : List Char}, op ≠ .or →
      Reads (.operator op) (op.symbol.toList ++ rest) rest := fun hne => .symbol (absurd · hne)
  cases r with
  | or =>
    simp only [scanOf, scanOr] at h
    split at h
    · obtain ⟨rfl, rfl⟩ := by simpa using h
      exact ⟨rfl, .bars⟩
    · split at h
      · contradiction
      · rename_i hb
        obtain ⟨rfl, rfl⟩ := by simpa using h
        exact ⟨rfl, .symbol fun _ => boundary_iff.mpr (by simpa using hb)⟩
    · contradiction
  | equality | relation | sum | product =>
    simp only [scanOf, scanEquality, scanRelation, scanSum, scanProduct] at h
    split at h <;> simp only [Option.some.injEq, Prod.mk.injEq, reduceCtorEq] at h
    all_goals
      obtain ⟨rfl, rfl⟩ := h
      exact ⟨rfl, symbol (by decide)⟩

lemma scanOf_complete {op : Operator} {cs rest : List Char} (h : Reads (.operator op) cs rest)
    (hr : rest.head? ≠ some '=') : ∃ k, scanOf (rank op) cs = some (op, k) ∧ cs.drop k = rest := by
  -- An operator that is the start of a longer one is found where the longer one does not stand.
  cases h with
  | bars => exact ⟨2, rfl, rfl⟩
  | symbol hb =>
    cases op with
    | add => exact ⟨1, rfl, rfl⟩
    | sub => exact ⟨1, rfl, rfl⟩
    | mul => exact ⟨1, rfl, rfl⟩
    | div => exact ⟨1, rfl, rfl⟩
    | ge => exact ⟨2, rfl, rfl⟩
    | le => exact ⟨2, rfl, rfl⟩
    | eq => exact ⟨2, rfl, rfl⟩
    | ne => exact ⟨2, rfl, rfl⟩
    | gt =>
      refine ⟨1, ?_, rfl⟩
      cases rest with
      | nil => rfl
      | cons c rest =>
        have hc : c ≠ '=' := by simpa using hr
        simp [scanOf, rank, scanRelation, Operator.symbol, hc]
    | lt =>
      refine ⟨1, ?_, rfl⟩
      cases rest with
      | nil => rfl
      | cons c rest =>
        have hc : c ≠ '=' := by simpa using hr
        simp [scanOf, rank, scanRelation, Operator.symbol, hc]
    | or =>
      have hb := boundary_iff.mp (hb rfl)
      refine ⟨2, ?_, rfl⟩
      simp [scanOf, rank, scanOr, Operator.symbol, hb]

lemma scanOf_other {r : Rank} {t : Token} {cs rest : List Char} (h : Reads t cs rest)
    (ht : t = .closing ∨ t = .comma ∨ ∃ op, t = .operator op ∧ rank op ≠ r) :
    scanOf r cs = none := by
  rcases ht with rfl | rfl | ⟨op, rfl, hop⟩
  · cases h
    cases r <;> rfl
  · cases h
    cases r <;> rfl
  · cases h with
    | bars => cases r <;> simp_all [scanOf, rank, scanEquality, scanRelation, scanSum, scanProduct]
    | symbol _ =>
      cases op <;> cases r <;> simp_all [scanOf, rank, Operator.symbol, scanOr, scanEquality,
        scanRelation, scanSum, scanProduct]

end Grammar

end DerivedStats.Formula
