import DerivedStats.Proofs.Formula.CompileFaults
import DerivedStats.Proofs.Formula.Nesting

/-! The texts of the grammar that are beyond the limits: there is one fault for all of them, and it is
never found within the limits. -/

namespace DerivedStats.Formula.Grammar

def TooDeep {α : Type} (result : Except CompileError α) : Prop :=
  ∃ i, result = .error ⟨.tooDeep, i⟩

namespace TooDeep

variable {α β : Type} {result : Except CompileError α} {f : α → Except CompileError β}

lemma bind (h : TooDeep result) : TooDeep (result >>= f) := by
  obtain ⟨i, hi⟩ := h
  exact ⟨i, bind_eq_error.mpr (.inl hi)⟩

lemma bind_ok {a : α} (ha : result = .ok a) (h : TooDeep (f a)) : TooDeep (result >>= f) := by
  obtain ⟨i, hi⟩ := h
  exact ⟨i, bind_eq_error.mpr (.inr ⟨a, ha, hi⟩)⟩

end TooDeep

lemma grow_cases (s : Cursor) :
    (∃ d, s.grow = .ok d ∧ d.rest = s.rest ∧ d.operators = s.operators + 1 ∧
      d.operators ≤ operatorLimit) ∨ TooDeep s.grow := by
  rw [Cursor.grow]
  split
  · exact .inr ⟨_, rfl⟩
  · exact .inl ⟨_, rfl, rfl, rfl, by dsimp only; omega⟩

/-- A phrase with any number of levels is too deep for the parser, unless it has no more levels than
the parser and no more operators than there is room for. -/
def Refuses (n : ℕ) (c : Category) (p : Parser Expr) : Prop :=
  ∀ m ts x us s, Derives m c ts x → Follows c us → Spelled (ts ++ us) s.rest →
    s.operators ≤ operatorLimit →
    (Derives n c ts x ∧ s.operators + x.operatorCount ≤ operatorLimit) ∨ TooDeep (p s)

section

variable {m n : ℕ} {r : Rank} {operand : Parser Expr} {x z : Expr} {ts us : List Token} {s : Cursor}

lemma extend_refuses (hc : Complete n r.operand operand) (ho : Refuses n r.operand operand)
    (h : Chain m r x ts z) (hu : Follows (.joined r) us) {fuel : ℕ} (hs : Spelled (ts ++ us) s.rest)
    (hlimit : s.operators ≤ operatorLimit) (hfuel : operatorLimit < s.operators + fuel) :
    (Chain n r x ts z ∧ s.operators + z.operatorCount ≤ operatorLimit + x.operatorCount) ∨
      TooDeep (extend (scanOf r) operand fuel x s) := by
  -- There is fuel for one operator more than the limit allows, so the chain never ends early.
  induction h generalizing fuel s with
  | nil => exact .inl ⟨.nil, by omega⟩
  | @cons x y z op vs ts hop hy hchain ih =>
    obtain ⟨fuel, rfl⟩ : ∃ m, fuel = m + 1 := Nat.exists_eq_add_one.mpr (by omega)
    rw [List.append_assoc, List.cons_append] at hs
    obtain ⟨k, hscan, hd⟩ := scanOf_spelled hy hs
    rw [hop] at hscan
    simp only [extend, hscan]
    obtain ⟨d, hgrow, hrest, hcount, hroom⟩ | hdeep := grow_cases (s.skipBlanks.drop k)
    · rw [← hrest] at hd
      rw [Cursor.drop_operators, Cursor.skipBlanks_operators] at hcount
      obtain ⟨hy', hle⟩ | hdeep := ho _ _ _ _ d hy (hu.chain hchain) hd hroom
      · obtain ⟨e, he, hse, hce⟩ := hc _ _ _ d hy' (hu.chain hchain) hd hle
        obtain ⟨hchain', hle'⟩ | hdeep := ih hse (by omega) (by omega : _ < e.operators + fuel)
        · simp only [Expr.operatorCount] at hle'
          exact .inl ⟨.cons hop hy' hchain', by omega⟩
        · exact .inr (.bind_ok hgrow (.bind_ok he hdeep))
      · exact .inr (.bind_ok hgrow hdeep.bind)
    · exact .inr hdeep.bind

lemma level_refuses (hc : Complete n r.operand operand) (ho : Refuses n r.operand operand) :
    Refuses n (.joined r) (level (scanOf r) operand) := by
  intro m ts z us s h hu hs hlimit
  obtain ⟨vs, ws, x, rfl, hx, hchain⟩ := h.chain
  rw [List.append_assoc] at hs
  obtain ⟨hx', hle⟩ | hdeep := ho _ _ _ _ s hx (hu.chain hchain) hs hlimit
  · obtain ⟨d, hd, hsd, hcd⟩ := hc _ _ _ s hx' (hu.chain hchain) hs hle
    obtain ⟨hchain', hle'⟩ | hdeep :=
      extend_refuses hc ho hchain hu hsd (by omega) (by omega : _ < d.operators + (operatorLimit + 1))
    · exact .inl ⟨hchain'.derives (.operand hx'), by omega⟩
    · exact .inr (.bind_ok hd hdeep)
  · exact .inr hdeep.bind

lemma levels_refuses (hc : Complete n .signed operand) (ho : Refuses n .signed operand) :
    Refuses n (.joined .or) (levels operand) := by
  have hproduct : Complete n (.joined .product) _ := level_complete hc
  have hsum : Complete n (.joined .sum) _ := level_complete hproduct
  have hrelation : Complete n (.joined .relation) _ := level_complete hsum
  have hequality : Complete n (.joined .equality) _ := level_complete hrelation
  have hproduct' : Refuses n (.joined .product) _ := level_refuses hc ho
  have hsum' : Refuses n (.joined .sum) _ := level_refuses hproduct hproduct'
  have hrelation' : Refuses n (.joined .relation) _ := level_refuses hsum hsum'
  have hequality' : Refuses n (.joined .equality) _ := level_refuses hrelation hrelation'
  exact level_refuses hequality hequality'

end

section

variable {m n : ℕ} {item : Parser Expr} {args : List (List Token × Expr)} {ts us : List Token}
  {s : Cursor}

lemma argumentsOf_refuses (hc : Complete n (.joined .or) item) (hi : Refuses n (.joined .or) item)
    {a : List Token × Expr} (hargs : ∀ b ∈ a :: args, Derives m (.joined .or) b.1 b.2) {fuel : ℕ}
    (hs : Spelled ([.comma].intercalate ((a :: args).map Prod.fst) ++ .closing :: us) s.rest)
    (hlimit : s.operators ≤ operatorLimit) (hfuel : args.length ≤ fuel) :
    ((∀ b ∈ a :: args, Derives n (.joined .or) b.1 b.2) ∧
      s.operators + Expr.operatorCountOf ((a :: args).map Prod.snd) ≤ operatorLimit) ∨
      TooDeep (argumentsOf item fuel s) := by
  obtain ⟨ha, hrest⟩ := List.forall_mem_cons.mp hargs
  induction args generalizing a fuel s with
  | nil =>
    simp only [List.map_cons, List.map_nil, List.intercalate_singleton] at hs
    simp only [List.map_cons, List.map_nil, Expr.operatorCountOf, Nat.add_zero,
      List.forall_mem_singleton]
    refine (hi _ _ _ _ s ha (follows_closing _ us) hs hlimit).imp_right fun hdeep => ?_
    cases fuel with
    | zero => exact hdeep.bind
    | succ fuel => exact hdeep.bind
  | cons b args ih =>
    rw [List.length_cons] at hfuel
    obtain ⟨fuel, rfl⟩ : ∃ m, fuel = m + 1 := Nat.exists_eq_add_one.mpr (by omega)
    rw [List.map_cons, intercalate_cons, List.append_assoc, List.cons_append] at hs
    obtain ⟨ha', hle⟩ | hdeep := hi _ _ _ _ s ha (follows_comma _ _) hs hlimit
    · obtain ⟨d, hd, hsd, hcd⟩ := hc _ _ _ s ha' (follows_comma _ _) hs hle
      obtain ⟨e, hse, hce, hcomma⟩ := argumentsOf_comma hd hsd
      obtain ⟨hrest', hle'⟩ | hdeep := ih hrest hse (by omega) (by omega : args.length ≤ fuel)
        (List.forall_mem_cons.mp hrest).1 (List.forall_mem_cons.mp hrest).2
      · simp only [List.map_cons, Expr.operatorCountOf] at hle' ⊢
        exact .inl ⟨List.forall_mem_cons.mpr ⟨ha', hrest'⟩, by omega⟩
      · rw [hcomma]
        exact .inr hdeep.bind
    · exact .inr hdeep.bind

lemma arguments_refuses (hc : Complete n (.joined .or) item) (hi : Refuses n (.joined .or) item)
    (hargs : ∀ a ∈ args, Derives m (.joined .or) a.1 a.2)
    (hs : Spelled ([.comma].intercalate (args.map Prod.fst) ++ .closing :: us) s.rest)
    (hlimit : s.operators ≤ operatorLimit) :
    ((∀ a ∈ args, Derives n (.joined .or) a.1 a.2) ∧
      s.operators + Expr.operatorCountOf (args.map Prod.snd) ≤ operatorLimit) ∨
      TooDeep (arguments item s) := by
  cases args with
  | nil => exact .inl ⟨List.forall_mem_nil _, hlimit⟩
  | cons a args =>
    obtain ⟨hlength, harguments⟩ := arguments_cons item (hargs a List.mem_cons_self) hs
    rw [harguments]
    exact argumentsOf_refuses hc hi hargs hs.skipped hlimit hlength

lemma primary_refuses (hi : ∀ k, n = k + 1 → Refuses k (.joined .or) (levels (signed k))) :
    Refuses n .primary fun s => primary (inside n) s.skipBlanks := by
  intro m ts x us s h hu hs hlimit
  cases h with
  | number hv => exact .inl ⟨.number hv, hlimit⟩
  | delimited hname => exact .inl ⟨.delimited hname, hlimit⟩
  | name => exact .inl ⟨.name, hlimit⟩
  | call hf hargs =>
    rw [List.cons_append, List.cons_append, List.append_assoc, List.singleton_append] at hs
    obtain ⟨d, hd, hcount, hcall⟩ := primary_call (inside n) hf hs
    dsimp only
    rw [hcall]
    cases n with
    | zero => exact .inr ⟨_, rfl⟩
    | succ k =>
      have hc := levels_complete (signed_complete k).1
      obtain ⟨hargs', hle⟩ | hdeep := arguments_refuses hc (hi k rfl) hargs hd (by omega)
      · rw [hcount] at hle
        exact .inl ⟨.call hf hargs', hle⟩
      · exact .inr hdeep.bind
  | group hx =>
    rw [List.cons_append, List.cons_append, List.append_assoc, List.singleton_append] at hs
    obtain ⟨d, hd, hcount, hgroup⟩ := primary_opening (inside n) hs
    dsimp only
    rw [hgroup]
    cases n with
    | zero => exact .inr ⟨_, rfl⟩
    | succ k =>
      obtain ⟨hx', hle⟩ | hdeep := hi k rfl _ _ _ _ d hx (follows_closing _ us) hd (by omega)
      · rw [hcount] at hle
        exact .inl ⟨.group hx', hle⟩
      · exact .inr hdeep.bind

lemma signed_refuses (n : ℕ) :
    Refuses n .signed (signed n) ∧
      ∀ k, n = k + 1 → Refuses k (.joined .or) (levels (signed k)) := by
  induction n with
  | zero => exact ⟨fun _ _ _ _ _ _ _ _ _ => .inr ⟨_, rfl⟩, fun k hk => by contradiction⟩
  | succ n ih =>
    obtain ⟨hn, hinside⟩ := ih
    refine ⟨fun m ts x us s h hu hs hlimit => ?_, fun k hk => ?_⟩
    · cases h with
      | plus hx =>
        obtain ⟨d, hd, hcount, hplus⟩ := signed_plus (n := n) hs
        rw [hplus]
        obtain ⟨hx', hle⟩ | hdeep := hn _ _ _ _ d hx hu hd (by omega)
        · rw [hcount] at hle
          exact .inl ⟨hx'.plus, hle⟩
        · exact .inr hdeep
      | minus hx =>
        obtain ⟨d, hd, hcount, hminus⟩ := signed_minus (n := n) hs
        rw [hminus]
        obtain ⟨e, hgrow, hrest, hcount', hroom⟩ | hdeep := grow_cases d
        · rw [← hrest] at hd
          obtain ⟨hx', hle⟩ | hdeep := hn _ _ _ _ e hx hu hd hroom
          · refine .inl ⟨hx'.minus, ?_⟩
            simp only [Expr.operatorCount]
            omega
          · exact .inr (.bind_ok hgrow hdeep.bind)
        · exact .inr hdeep.bind
      | unsigned hx =>
        rw [signed_unsigned hx hs]
        refine (primary_refuses hinside _ _ _ _ s hx hu hs hlimit).imp_left fun hprimary => ?_
        exact ⟨hprimary.1.unsigned, hprimary.2⟩
    · obtain rfl := Nat.succ.inj hk
      exact levels_refuses (signed_complete n).1 hn

end

lemma expression_refuses : Refuses nestingLimit (.joined .or) expression :=
  levels_refuses (signed_complete nestingLimit).1 (signed_refuses nestingLimit).1

lemma compile_refuses {m : ℕ} {text : String} {ts : List Token} {e : Expr}
    (hs : Spelled ts text.toList) (h : Derives m (.joined .or) ts e) :
    (Derives nestingLimit (.joined .or) ts e ∧ e.operatorCount ≤ operatorLimit) ∨
      TooDeep (compile text) := by
  have hstart : Spelled (ts ++ []) (Cursor.start text.toList).rest := by rwa [List.append_nil]
  obtain ⟨h', hle⟩ | hdeep := expression_refuses _ _ _ _ _ h (follows_nil _) hstart (Nat.zero_le _)
  · rw [Cursor.start, Nat.zero_add] at hle
    exact .inl ⟨h', hle⟩
  · exact .inr hdeep.bind

/-- The compiler takes a level for every operand beside those that are written. So it accepts what
is written with no more than half of its levels, and refuses what has more levels than it knows. -/
theorem compile_of_written {n : ℕ} {text : String} {ts : List Token} {e : Expr}
    (hs : Spelled ts text.toList) (h : Written n (.joined .or) ts e) :
    (compile text = .ok e ↔ Derives 256 (.joined .or) ts e ∧ e.operatorCount ≤ 1024) ∧
      (compile text = .ok e ∨ ∃ i, compile text = .error ⟨.tooDeep, i⟩) ∧
      (n ≤ 127 → e.operatorCount ≤ 1024 → compile text = .ok e) ∧
      (¬Written 256 (.joined .or) ts e ∨ 1024 < e.operatorCount →
        ∃ i, compile text = .error ⟨.tooDeep, i⟩) := by
  have hrefuses := compile_refuses hs h.derives
  have hcomplete : Derives 256 (.joined .or) ts e ∧ e.operatorCount ≤ 1024 → compile text = .ok e :=
    fun ⟨hderives, hcount⟩ => compile_complete hs hderives hcount
  refine ⟨⟨fun hok => ?_, hcomplete⟩, hrefuses.imp_left hcomplete, fun hn hcount => ?_, fun hbeyond => ?_⟩
  · refine hrefuses.resolve_right ?_
    rintro ⟨i, hi⟩
    rw [hok] at hi
    contradiction
  · exact hcomplete ⟨h.derives.mono (by simp only [Category.needs]; omega), hcount⟩
  · refine hrefuses.resolve_left ?_
    rintro ⟨hderives, hcount⟩
    rcases hbeyond with hlevels | hoperators
    · exact hlevels hderives.written
    · exact absurd hcount (Nat.not_le.mpr hoperators)

section

variable (k : ℕ)

def enclosedOne : List Char := List.replicate k '(' ++ '1' :: List.replicate k ')'

def enclosedTokens : List Token :=
  List.replicate k .opening ++ .number ['1'] :: List.replicate k .closing

lemma spelled_enclosed : Spelled (enclosedTokens k) (enclosedOne k) := by
  have hopenings : ∀ j ts cs, Spelled ts cs →
      Spelled (List.replicate j .opening ++ ts) (List.replicate j '(' ++ cs) := by
    intro j ts cs h
    induction j with
    | zero => exact h
    | succ j ih => exact .cons .opening ih
  have hone : IsNumeral ['1'] := by simp [IsNumeral, Decimal.isDigit]
  have hread : Reads (.number ['1']) (['1'] ++ List.replicate k ')') (List.replicate k ')') :=
    .number hone
  exact hopenings k _ _ (.cons hread (Ending.spelled_closing k))

lemma Written.joined {n : ℕ} {ts : List Token} {x : Expr} (h : Written n .signed ts x) :
    Written n (.joined .or) ts x :=
  .operand (.operand (.operand (.operand (.operand h))))

lemma written_enclosed : Written k (.joined .or) (enclosedTokens k) (.number 1) := by
  induction k with
  | zero =>
    have hread : Decimal.read (String.ofList ['1']) = some 1 := by decide +kernel
    exact (Written.number hread).unsigned.joined
  | succ k ih =>
    have hsplit : enclosedTokens (k + 1) = .opening :: enclosedTokens k ++ [.closing] := by
      rw [enclosedTokens, List.replicate_succ, List.replicate_succ']
      simp [enclosedTokens]
    rw [hsplit]
    exact ih.group.unsigned.joined

end

theorem compile_of_written_enclosed :
    let text := String.ofList (enclosedOne 127)
    (Spelled (enclosedTokens 127) text.toList ∧
      Written 127 (.joined .or) (enclosedTokens 127) (.number 1)) ∧ compile text = .ok (.number 1) := by
  intro text
  have hspelled : Spelled (enclosedTokens 127) text.toList := by
    rw [String.toList_ofList]
    exact spelled_enclosed 127
  obtain ⟨-, -, hwithin, -⟩ := compile_of_written hspelled (written_enclosed 127)
  exact ⟨⟨hspelled, written_enclosed 127⟩, hwithin (Nat.le_refl 127) (Nat.zero_le 1024)⟩

/-- With one pair more the compiler counts 257 levels, where 128 are written. -/
theorem written_within_limits_not_compiled :
    let text := String.ofList (enclosedOne 128)
    (Spelled (enclosedTokens 128) text.toList ∧
      Written 128 (.joined .or) (enclosedTokens 128) (.number 1) ∧
      (Expr.number 1).operatorCount ≤ 1024) ∧ compile text = .error ⟨.tooDeep, 128⟩ := by
  intro text
  have hspelled : Spelled (enclosedTokens 128) text.toList := by
    rw [String.toList_ofList]
    exact spelled_enclosed 128
  have hfault : fault? text = some ⟨.tooDeep, 128⟩ := by decide +kernel
  exact ⟨⟨hspelled, written_enclosed 128, Nat.zero_le 1024⟩, compile_eq_error hfault⟩

end DerivedStats.Formula.Grammar
