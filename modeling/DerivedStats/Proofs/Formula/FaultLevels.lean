import DerivedStats.Proofs.Formula.SoundLevels

/-! Where the compiler stops: what stands at the place of a fault, and that the text in front of it can
be completed. First the operators of one rank after the other. -/

namespace DerivedStats.Formula

open Text (isBlank)

namespace Grammar

def IsName (cs : List Char) : Prop :=
  ∃ c ds, cs = c :: ds ∧ startsName c ∧ ∀ d ∈ ds, continuesName d

end Grammar

open Grammar (Boundary IsName)

/-- What a fault says of the text that begins at its place. -/
def Fault.Shows : Fault → List Char → Prop
  | .unexpectedChar c, cs => cs.head? = some c
  | .unexpectedEnd, cs => cs = []
  | .unterminatedVariable, cs => ∃ rest, cs = '%' :: rest ∧ '%' ∉ rest
  | .emptyVariable, cs =>
    ∃ blanks rest, cs = '%' :: blanks ++ '%' :: rest ∧ ∀ c ∈ blanks, isBlank c
  | .invalidNumber lexeme, cs =>
    lexeme = "." ∧ ∃ rest, cs = '.' :: rest ∧ ∀ c ∈ rest.head?, ¬Decimal.isDigit c
  | .unknownFunction name, cs =>
    ∃ blanks rest, cs = name.toList ++ (blanks ++ '(' :: rest) ∧ (∀ c ∈ blanks, isBlank c) ∧
      IsName name.toList ∧ Boundary (blanks ++ '(' :: rest) ∧ ∀ f : Builtin, Text.lower name ≠ f.name
  | .tooDeep, _ => True

namespace Grammar

open Cursor (Leads)

lemma bind_eq_error {ε α β : Type} {m : Except ε α} {f : α → Except ε β} {e : ε} :
    (m >>= f) = .error e ↔ m = .error e ∨ ∃ a, m = .ok a ∧ f a = .error e := by
  cases m with
  | error e' => simp [bind, Except.bind]
  | ok a => simp [bind, Except.bind]

lemma grow_eq_error {s : Cursor} {err : CompileError} (h : s.grow = .error err) :
    err = ⟨.tooDeep, s.position⟩ := by
  rw [Cursor.grow] at h
  split at h
  · exact (Except.error.inj h).symm
  · contradiction

lemma failHere_eq_error {α : Type} {s : Cursor} {err : CompileError}
    (h : (s.failHere : Except CompileError α) = .error err) :
    err.position = s.position ∧ err.fault.Shows s.rest := by
  rw [Cursor.failHere] at h
  split at h
  · next hrest =>
    obtain rfl := Except.error.inj h
    exact ⟨rfl, hrest⟩
  · next c cs hrest =>
    obtain rfl := Except.error.inj h
    exact ⟨rfl, by rw [Fault.Shows, hrest, List.head?_cons]⟩

lemma close_eq_error {s : Cursor} {err : CompileError} (h : s.close = .error err) :
    err.position = s.skipBlanks.position ∧ err.fault.Shows s.skipBlanks.rest := by
  rw [Cursor.close] at h
  split at h
  · contradiction
  · exact failHere_eq_error h

inductive Ending : List Token → Prop
  | closing (k : ℕ) : Ending (List.replicate k .closing)
  | operand (k : ℕ) : Ending (.number ['0'] :: List.replicate k .closing)

namespace Ending

lemma nil : Ending [] := closing 0

lemma one : Ending [.closing] := closing 1

lemma append_closing {us : List Token} (h : Ending us) : Ending (us ++ [.closing]) := by
  cases h with
  | closing k =>
    rw [← List.replicate_succ']
    exact closing (k + 1)
  | operand k =>
    rw [List.cons_append, ← List.replicate_succ']
    exact operand (k + 1)

lemma spelled_closing (k : ℕ) :
    Spelled (List.replicate k .closing) (List.replicate k ')') := by
  induction k with
  | zero => exact .done (by simp)
  | succ k ih => exact .cons .closing ih

lemma spelled {us : List Token} (h : Ending us) : ∃ cs, Spelled us (' ' :: cs) := by
  -- the blank keeps a name that ends in front of it from going on
  have hblank : ∀ c ∈ [' '], isBlank c := List.forall_mem_singleton.mpr rfl
  cases h with
  | closing k => exact ⟨_, (spelled_closing k).blanks hblank⟩
  | operand k =>
    have hzero : IsNumeral ['0'] := by simp [IsNumeral, Decimal.isDigit]
    have hread : Reads (.number ['0']) (['0'] ++ List.replicate k ')') (List.replicate k ')') :=
      .number hzero
    exact ⟨_, (Spelled.cons hread (spelled_closing k)).blanks hblank⟩

end Ending

/-- From `s` to `t` stands the beginning of a phrase that lacks nothing but an ending. -/
def Viable (n : ℕ) (c : Category) (s t : Cursor) : Prop :=
  ∃ ts us x, Ending us ∧ Derives n c (ts ++ us) x ∧ Passes ts x.operatorCount s t

def FaultAhead (n : ℕ) (c : Category) (s : Cursor) (err : CompileError) : Prop :=
  ∃ t front, Leads front s t ∧ err.position = t.position ∧ err.fault.Shows t.rest ∧
    (err.fault ≠ .tooDeep → Viable n c s t)

def Points (n : ℕ) (c : Category) (p : Parser Expr) : Prop :=
  ∀ s err, p s = .error err → FaultAhead n c s err

def Frames (m : ℕ) (d : Category) (n : ℕ) (c : Category) (pre post : List Token) (k : ℕ) : Prop :=
  ∀ ts x, Derives n c ts x →
    ∃ y, Derives m d (pre ++ ts ++ post) y ∧ y.operatorCount = k + x.operatorCount

section

variable {m n k : ℕ} {c d : Category} {pre : List Token} {r s t : Cursor} {err : CompileError}

lemma FaultAhead.tooDeep {front : List Char} (h : Leads front s t) :
    FaultAhead n c s ⟨.tooDeep, t.position⟩ :=
  ⟨t, front, h, rfl, trivial, fun hne => absurd rfl hne⟩

lemma FaultAhead.lift {post : List Token} (hpost : ∀ us, Ending us → Ending (us ++ post))
    (hpass : Passes pre k r s) (hframes : Frames m d n c pre post k) (h : FaultAhead n c s err) :
    FaultAhead m d r err := by
  obtain ⟨t, back, hleads, hposition, hshows, hviable⟩ := h
  obtain ⟨front, hfront, -⟩ := hpass.read
  refine ⟨t, front ++ back, hfront.trans hleads, hposition, hshows, fun hdeep => ?_⟩
  obtain ⟨ts, us, x, hus, hx, hts⟩ := hviable hdeep
  obtain ⟨y, hy, hcount⟩ := hframes _ x hx
  refine ⟨pre ++ ts, us ++ post, y, hpost us hus, by simpa using hy, ?_⟩
  rw [hcount]
  exact hpass.trans hts

lemma FaultAhead.within (hpass : Passes pre k r s) (hframes : Frames m d n c pre [] k)
    (h : FaultAhead n c s err) : FaultAhead m d r err :=
  h.lift (fun us hus => by rwa [List.append_nil]) hpass hframes

lemma FaultAhead.inside (hpass : Passes pre k r s) (hframes : Frames m d n c pre [.closing] k)
    (h : FaultAhead n c s err) : FaultAhead m d r err :=
  h.lift (fun _ hus => hus.append_closing) hpass hframes

lemma FaultAhead.here {us : List Token} {x : Expr} (hpass : Passes pre x.operatorCount r s)
    (hus : Ending us) (hx : Derives n c (pre ++ us) x) (hposition : err.position = s.position)
    (hshows : err.fault.Shows s.rest) : FaultAhead n c r err := by
  obtain ⟨front, hleads, -⟩ := hpass.read
  exact ⟨s, front, hleads, hposition, hshows, fun _ => ⟨pre, us, x, hus, hx, hpass⟩⟩

end

section

variable {n : ℕ} {r : Rank} {operand : Parser Expr}

lemma frames_join {op : Operator} {us : List Token} {x : Expr} (hop : rank op = r)
    (hx : Derives n (.joined r) us x) :
    Frames n (.joined r) n r.operand (us ++ [.operator op]) [] (x.operatorCount + 1) := by
  intro ts y hy
  refine ⟨.binary op x y, by simpa using hx.join hop hy, ?_⟩
  simp only [Expr.operatorCount]
  omega

lemma extend_points (ho : Sound n r.operand operand) (hp : Points n r.operand operand) {fuel : ℕ}
    {us : List Token} {x : Expr} {s t : Cursor} {err : CompileError}
    (hx : Derives n (.joined r) us x) (hpass : Passes us x.operatorCount s t)
    (h : extend (scanOf r) operand fuel x t = .error err) : FaultAhead n (.joined r) s err := by
  -- What has been read since `s` is a phrase of the rank, one operand longer in every round.
  induction fuel generalizing us x t with
  | zero => contradiction
  | succ fuel ih =>
    rw [extend] at h
    split at h
    · contradiction
    · rename_i op k hscan
      obtain ⟨hop, hread⟩ := scanOf_sound hscan
      have hnext := hpass.trans (.lexeme hread)
      rcases bind_eq_error.mp h with h | ⟨d, hd, h⟩
      · obtain rfl := grow_eq_error h
        obtain ⟨front, hleads, -⟩ := hnext.read
        exact .tooDeep hleads
      · have hgrown : Passes (us ++ [.operator op]) (x.operatorCount + 1) s d := by
          simpa using hnext.trans (.grow hd)
        rcases bind_eq_error.mp h with h | ⟨⟨y, e⟩, hy, h⟩
        · exact (hp _ _ h).within hgrown (frames_join hop hx)
        · obtain ⟨vs, hvs, hrest⟩ := ho _ _ _ hy
          have hcount : (Expr.binary op x y).operatorCount = x.operatorCount + 1 + y.operatorCount := by
            simp only [Expr.operatorCount]
            omega
          apply ih (hx.join hop hvs) ?_ h
          rw [hcount]
          simpa using hgrown.trans hrest

lemma level_points (ho : Sound n r.operand operand) (hp : Points n r.operand operand) :
    Points n (.joined r) (level (scanOf r) operand) := by
  intro s err h
  rcases bind_eq_error.mp h with h | ⟨⟨x, d⟩, hx, h⟩
  · refine (hp _ _ h).within (.refl s) fun ts x hx => ⟨x, ?_, (Nat.zero_add _).symm⟩
    simpa using Derives.operand hx
  · obtain ⟨us, hus, hpass⟩ := ho _ _ _ hx
    exact extend_points ho hp (.operand hus) hpass h

lemma levels_points (ho : Sound n .signed operand) (hp : Points n .signed operand) :
    Points n (.joined .or) (levels operand) := by
  have hproduct : Sound n (.joined .product) _ := level_sound ho
  have hsum : Sound n (.joined .sum) _ := level_sound hproduct
  have hrelation : Sound n (.joined .relation) _ := level_sound hsum
  have hequality : Sound n (.joined .equality) _ := level_sound hrelation
  have hproduct' : Points n (.joined .product) _ := level_points ho hp
  have hsum' : Points n (.joined .sum) _ := level_points hproduct hproduct'
  have hrelation' : Points n (.joined .relation) _ := level_points hsum hsum'
  have hequality' : Points n (.joined .equality) _ := level_points hrelation hrelation'
  exact level_points hequality hequality'

end

end Grammar

end DerivedStats.Formula
