import DerivedStats.Proofs.Formula.CompletePrimaries

/-! A phrase is read up to the token behind it: calls, and with them all primaries. -/

namespace DerivedStats.Formula.Grammar

lemma Reads.length_lt {t : Token} {cs rest : List Char} (h : Reads t cs rest) :
    rest.length < cs.length := by
  cases h with
  | @number cs _ hn =>
    have := List.length_pos_iff.mpr hn.2.2.1
    rw [List.length_append]
    omega
  | @symbol op _ _ =>
    have : 0 < op.symbol.toList.length := by cases op <;> decide
    rw [List.length_append]
    omega
  | _ =>
    simp only [List.length_cons, List.length_append]
    omega

lemma Spelled.length_le {ts : List Token} {cs : List Char} (h : Spelled ts cs) :
    ts.length ≤ cs.length := by
  induction h with
  | done _ => exact Nat.zero_le _
  | token _ hr _ ih =>
    have := hr.length_lt
    simp only [List.length_cons, List.length_append]
    omega

lemma intercalate_cons (ts : List Token) (a : List Token × Expr) (args : List (List Token × Expr)) :
    [Token.comma].intercalate (ts :: (a :: args).map Prod.fst) =
      ts ++ .comma :: [.comma].intercalate ((a :: args).map Prod.fst) := by
  simp [List.intercalate]

lemma argumentsOf_comma {item : Parser Expr} {fuel : ℕ} {x : Expr} {us : List Token} {s d : Cursor}
    (hx : item s = .ok (x, d)) (hs : Spelled (.comma :: us) d.rest) :
    ∃ e : Cursor, Spelled us e.rest ∧ e.operators = d.operators ∧
      argumentsOf item (fuel + 1) s = (do
        let (xs, t) ← argumentsOf item fuel e
        .ok (x :: xs, t)) := by
  obtain ⟨rest, hread, hrest⟩ := hs.next
  generalize hl : d.skipBlanks.rest = l at hread
  cases hread with
  | comma =>
    refine ⟨d.skipBlanks.drop 1, ?_, rfl, ?_⟩
    · rw [Cursor.drop_rest, hl]
      exact hrest
    · rw [argumentsOf, hx]
      simp only [bind, Except.bind, hl]

lemma argumentsOf_complete {n : ℕ} {item : Parser Expr} (hi : Complete n (.joined .or) item)
    {us : List Token} {a : List Token × Expr} {args : List (List Token × Expr)}
    (hargs : ∀ b ∈ a :: args, Derives n (.joined .or) b.1 b.2) {fuel : ℕ} {s : Cursor}
    (hs : Spelled ([.comma].intercalate ((a :: args).map Prod.fst) ++ .closing :: us) s.rest)
    (hlimit : s.operators + Expr.operatorCountOf ((a :: args).map Prod.snd) ≤ operatorLimit)
    (hfuel : args.length ≤ fuel) :
    Yields (argumentsOf item fuel) s ((a :: args).map Prod.snd)
      (Expr.operatorCountOf ((a :: args).map Prod.snd)) us := by
  -- Every comma uses one fuel.
  induction args generalizing a fuel s with
  | nil =>
    have ha := hargs a (by simp)
    simp only [List.map_cons, List.map_nil, List.intercalate_singleton] at hs
    simp only [List.map_cons, List.map_nil, Expr.operatorCountOf, Nat.add_zero] at hlimit ⊢
    obtain ⟨d, hd, hsd, hcd⟩ := hi _ _ _ s ha (follows_closing _ us) hs hlimit
    obtain ⟨t, ht, hst, hct⟩ := close_complete hsd
    refine ⟨t, ?_, hst, by rw [hct, hcd]⟩
    obtain ⟨rest, hclose, -⟩ := skipped_closing hsd
    cases fuel with
    | zero => exact bind_eq_ok.mpr ⟨_, hd, bind_eq_ok.mpr ⟨t, ht, rfl⟩⟩
    | succ fuel =>
      refine bind_eq_ok.mpr ⟨_, hd, ?_⟩
      simp only [hclose]
      exact bind_eq_ok.mpr ⟨t, ht, rfl⟩
  | cons b args ih =>
    rw [List.length_cons] at hfuel
    obtain ⟨fuel, rfl⟩ : ∃ m, fuel = m + 1 := Nat.exists_eq_add_one.mpr (by omega)
    rw [List.map_cons, intercalate_cons, List.append_assoc, List.cons_append] at hs
    simp only [List.map_cons, Expr.operatorCountOf] at hlimit
    obtain ⟨d, hd, hsd, hcd⟩ := hi _ _ _ s (hargs a (by simp)) (follows_comma _ _) hs (by omega)
    obtain ⟨e, hse, hce, hcomma⟩ := argumentsOf_comma hd hsd
    obtain ⟨t, ht, hst, hct⟩ := ih (fun c hc => hargs c (by simp [hc])) hse
      (by simp only [List.map_cons, Expr.operatorCountOf]; omega) (by omega : args.length ≤ fuel)
    refine ⟨t, ?_, hst, ?_⟩
    · rw [hcomma]
      exact bind_eq_ok.mpr ⟨_, ht, rfl⟩
    · simp only [List.map_cons, Expr.operatorCountOf] at hct ⊢
      omega

lemma length_le_intercalate (a : List Token × Expr) (args : List (List Token × Expr)) :
    args.length ≤ ([Token.comma].intercalate ((a :: args).map Prod.fst)).length := by
  induction args generalizing a with
  | nil => exact Nat.zero_le _
  | cons b args ih =>
    have := ih b
    rw [List.map_cons, intercalate_cons, List.length_append, List.length_cons, List.length_cons]
    omega

lemma intercalate_opens {n : ℕ} {a : List Token × Expr} {args : List (List Token × Expr)}
    (ha : Derives n (.joined .or) a.1 a.2) : ∃ t ts,
      [Token.comma].intercalate ((a :: args).map Prod.fst) = t :: ts ∧ Opens t := by
  obtain ⟨t, ts, hts, ht⟩ := ha.opens
  cases args with
  | nil => exact ⟨t, ts, by simpa [List.intercalate] using hts, ht⟩
  | cons b args => exact ⟨t, _, by rw [List.map_cons, intercalate_cons, hts, List.cons_append], ht⟩

lemma Spelled.skipped {ts : List Token} {s : Cursor} (h : Spelled ts s.rest) :
    Spelled ts s.skipBlanks.rest := by
  rw [Cursor.skipBlanks_rest]
  cases ts with
  | nil =>
    rw [h.skipped_nil]
    exact .done (by simp)
  | cons t ts =>
    obtain ⟨rest, hread, hrest⟩ := h.skipped_cons
    exact .cons hread hrest

lemma arguments_cons {n : ℕ} {a : List Token × Expr} {args : List (List Token × Expr)}
    {us : List Token} {s : Cursor} (item : Parser Expr) (ha : Derives n (.joined .or) a.1 a.2)
    (hs : Spelled ([.comma].intercalate ((a :: args).map Prod.fst) ++ us) s.rest) :
    args.length ≤ s.skipBlanks.rest.length ∧
      arguments item s = argumentsOf item s.skipBlanks.rest.length s.skipBlanks := by
  constructor
  · have := hs.skipped.length_le
    have := length_le_intercalate a args
    rw [List.length_append] at *
    omega
  · rw [arguments]
    split
    · rename_i cs hclose
      obtain ⟨t, ts, htokens, hopens⟩ := @intercalate_opens _ _ args ha
      rw [htokens] at hs
      obtain ⟨rest, hread, -⟩ := hs.skipped_cons
      obtain ⟨c, cs', hcs, hc⟩ := hread.begins
      rw [← Cursor.skipBlanks_rest, hclose] at hcs
      exact absurd (List.cons.inj hcs).1.symm (hopens.begins hc).2
    · rfl

lemma arguments_complete {n : ℕ} {item : Parser Expr} (hi : Complete n (.joined .or) item)
    {us : List Token} {args : List (List Token × Expr)}
    (hargs : ∀ a ∈ args, Derives n (.joined .or) a.1 a.2) {s : Cursor}
    (hs : Spelled ([.comma].intercalate (args.map Prod.fst) ++ .closing :: us) s.rest)
    (hlimit : s.operators + Expr.operatorCountOf (args.map Prod.snd) ≤ operatorLimit) :
    Yields (arguments item) s (args.map Prod.snd) (Expr.operatorCountOf (args.map Prod.snd)) us := by
  cases args with
  | nil =>
    obtain ⟨rest, hclose, hrest⟩ := skipped_closing hs
    refine ⟨s.skipBlanks.drop 1, ?_, ?_, rfl⟩
    · simp only [arguments, hclose]
      rfl
    · rw [Cursor.drop_rest, hclose]
      exact hrest
  | cons a args =>
    obtain ⟨hlength, harguments⟩ := arguments_cons item (hargs a (by simp)) hs
    obtain ⟨t, ht, hst, hct⟩ := argumentsOf_complete hi hargs hs.skipped hlimit hlength
    exact ⟨t, harguments.trans ht, hst, hct⟩

lemma primary_call {f : Builtin} {cs : List Char} {us : List Token} {s : Cursor}
    (inner : Option (Parser Expr)) (hf : Text.lower (String.ofList cs) = f.name)
    (hs : Spelled (.name cs :: .opening :: us) s.rest) :
    ∃ d : Cursor, Spelled us d.rest ∧ d.operators = s.operators ∧
      primary inner s.skipBlanks = (do
        let (args, e) ← nested (inner.map arguments) d
        .ok (.call f args, e)) := by
  obtain ⟨rest, hread, hrest⟩ := hs.next
  generalize hl : s.skipBlanks.rest = l at hread
  cases hread with
  | @name c cs rest hc hcs hb =>
    obtain ⟨htake, hspan⟩ := nameOrCall_rest hc hcs hb hl
    rw [← hspan] at hrest
    obtain ⟨rest', hopen, hrest'⟩ := hrest.next
    generalize hm : (s.skipBlanks.span continuesName).2.skipBlanks.rest = m at hopen
    cases hopen with
    | opening =>
      refine ⟨(s.skipBlanks.span continuesName).2.skipBlanks.drop 1, ?_, rfl, ?_⟩
      · rw [Cursor.drop_rest, hm]
        exact hrest'
      · rw [primary_name hl hc]
        simp only [nameOrCall, Cursor.span_fst, htake, hm, ofName?_eq_some.mpr hf]

lemma call_complete {n : ℕ} {inner : Option (Parser Expr)} {f : Builtin} {cs : List Char}
    {us : List Token} {args : List (List Token × Expr)} {s : Cursor}
    (hi : CompleteInner (n + 1) inner) (hf : Text.lower (String.ofList cs) = f.name)
    (hargs : ∀ a ∈ args, Derives n (.joined .or) a.1 a.2)
    (hs : Spelled (.name cs :: .opening :: ([.comma].intercalate (args.map Prod.fst) ++
      .closing :: us)) s.rest)
    (hlimit : s.operators + Expr.operatorCountOf (args.map Prod.snd) ≤ operatorLimit) :
    Yields (primary inner) s.skipBlanks (.call f (args.map Prod.snd))
      (Expr.operatorCountOf (args.map Prod.snd)) us := by
  obtain ⟨p, rfl, hp⟩ := hi n rfl
  obtain ⟨d, hd, hcount, hcall⟩ := primary_call (some p) hf hs
  obtain ⟨t, ht, hst, hct⟩ := arguments_complete hp hargs hd (by rwa [hcount])
  refine ⟨t, ?_, hst, by rw [hct, hcount, Cursor.skipBlanks_operators]⟩
  rw [hcall]
  exact bind_eq_ok.mpr ⟨_, ht, rfl⟩

lemma primary_complete {n : ℕ} {inner : Option (Parser Expr)} (hi : CompleteInner n inner) :
    CompletePrimary n inner := by
  intro ts x us s h hu hs hlimit
  cases h with
  | number hv => exact number_complete hv hu hs
  | delimited hname => exact delimited_complete hname hs
  | name => exact name_complete hu hs
  | call hf hargs =>
    simp only [Expr.operatorCount] at hlimit ⊢
    exact call_complete hi hf hargs (by simpa using hs) hlimit
  | group hx => exact group_complete hi hx (by simpa using hs) hlimit

end DerivedStats.Formula.Grammar
