import DerivedStats.Proofs.Formula.SoundLevels

/-! What the parser reads is a phrase of the grammar: names, calls and what stands in parentheses. -/

namespace DerivedStats.Formula.Grammar

structure Arguments (n : ℕ) (args : List (List Token × Expr)) (xs : List Expr) (s t : Cursor) :
    Prop where
  values : args.map Prod.snd = xs
  derived : ∀ a ∈ args, Derives n (.joined .or) a.1 a.2
  passes : Passes ([.comma].intercalate (args.map Prod.fst) ++ [.closing])
    (Expr.operatorCountOf xs) s t

lemma Arguments.none {n : ℕ} {s : Cursor} {cs : List Char} (h : s.skipBlanks.rest = ')' :: cs) :
    Arguments n [] [] s (s.skipBlanks.drop 1) where
  values := rfl
  derived := by simp
  passes := .first h .closing

lemma Arguments.last {n : ℕ} {ts : List Token} {x : Expr} {s d t : Cursor}
    (hx : Derives n (.joined .or) ts x) (hpass : Passes ts x.operatorCount s d)
    (ht : d.close = .ok t) : Arguments n [(ts, x)] [x] s t where
  values := rfl
  derived := by simpa using hx
  passes := by simpa [List.intercalate, Expr.operatorCountOf] using hpass.trans (.close ht)

lemma Arguments.cons {n : ℕ} {ts : List Token} {x : Expr} {a : List Token × Expr}
    {args : List (List Token × Expr)} {xs : List Expr} {s d t : Cursor} {cs : List Char}
    (hx : Derives n (.joined .or) ts x) (hpass : Passes ts x.operatorCount s d)
    (hd : d.skipBlanks.rest = ',' :: cs)
    (h : Arguments n (a :: args) xs (d.skipBlanks.drop 1) t) :
    Arguments n ((ts, x) :: a :: args) (x :: xs) s t where
  values := by simp [← h.values]
  derived := by
    intro b hb
    rcases List.mem_cons.mp hb with rfl | hb
    · exact hx
    · exact h.derived b hb
  passes := by
    have hcomma : Passes [.comma] 0 d (d.skipBlanks.drop 1) := .first hd .comma
    simpa [List.intercalate, Expr.operatorCountOf] using (hpass.trans hcomma).trans h.passes

lemma argumentsOf_sound {n : ℕ} {item : Parser Expr} (hi : Sound n (.joined .or) item) {fuel : ℕ}
    {s t : Cursor} {xs : List Expr} (h : argumentsOf item fuel s = .ok (xs, t)) :
    ∃ a args, Arguments n (a :: args) xs s t := by
  induction fuel generalizing s xs with
  | zero =>
    obtain ⟨⟨x, d⟩, hx, h⟩ := bind_eq_ok.mp h
    obtain ⟨e, he, h⟩ := bind_eq_ok.mp h
    obtain ⟨rfl, rfl⟩ := by simpa using h
    obtain ⟨ts, hts, hpass⟩ := hi _ _ _ hx
    exact ⟨_, _, .last hts hpass he⟩
  | succ fuel ih =>
    obtain ⟨⟨x, d⟩, hx, h⟩ := bind_eq_ok.mp h
    obtain ⟨ts, hts, hpass⟩ := hi _ _ _ hx
    simp only at h
    split at h
    · rename_i cs hcs
      obtain ⟨⟨ys, e⟩, hys, h⟩ := bind_eq_ok.mp h
      obtain ⟨rfl, rfl⟩ := by simpa using h
      obtain ⟨a, args, hargs⟩ := ih hys
      exact ⟨_, _, .cons hts hpass hcs hargs⟩
    · obtain ⟨e, he, h⟩ := bind_eq_ok.mp h
      obtain ⟨rfl, rfl⟩ := by simpa using h
      exact ⟨_, _, .last hts hpass he⟩

lemma arguments_sound {n : ℕ} {item : Parser Expr} (hi : Sound n (.joined .or) item)
    {s t : Cursor} {xs : List Expr} (h : arguments item s = .ok (xs, t)) :
    ∃ args, Arguments n args xs s t := by
  rw [arguments] at h
  split at h
  · rename_i cs hcs
    obtain ⟨rfl, rfl⟩ := by simpa using h
    exact ⟨[], .none hcs⟩
  · obtain ⟨a, args, hvalues, hderived, hpass⟩ := argumentsOf_sound hi h
    exact ⟨a :: args, hvalues, hderived, hpass.blanks⟩

lemma ofName?_eq_some {name : String} {f : Builtin} :
    Builtin.ofName? name = some f ↔ Text.lower name = f.name := by
  constructor
  · intro h
    have hf := List.find?_some (p := fun f : Builtin => f.name == Text.lower name) h
    exact (beq_iff_eq.mp hf).symm
  · intro h
    simp only [Builtin.ofName?, h]
    cases f <;> rfl

def SoundInner (n : ℕ) (inner : Option (Parser Expr)) : Prop :=
  ∀ p ∈ inner, ∃ m, n = m + 1 ∧ Sound m (.joined .or) p

lemma nested_sound {α : Type} {inner : Option (Parser α)} {s : Cursor} {y : α × Cursor}
    (h : nested inner s = .ok y) : ∃ p ∈ inner, p s = .ok y := by
  simp only [nested] at h
  split at h
  · contradiction
  · exact ⟨_, rfl, h⟩

lemma reads_delimited {cs : List Char} (h : cs.dropWhile (· != '%') ≠ []) :
    Reads (.delimited (cs.takeWhile (· != '%'))) ('%' :: cs)
      ((cs.dropWhile (· != '%')).drop 1) := by
  have hname : '%' ∉ cs.takeWhile (· != '%') := by
    intro hm
    simpa using List.mem_takeWhile_imp hm
  obtain ⟨c, rest, hrest⟩ := List.exists_cons_of_ne_nil h
  have hc : c = '%' := by
    have := List.head?_dropWhile_not (· != '%') cs
    simpa [hrest] using this
  subst hc
  have hcs : cs = cs.takeWhile (· != '%') ++ '%' :: rest := by
    rw [← hrest, List.takeWhile_append_dropWhile]
  have hread : Reads _ _ rest := .delimited hname
  rw [List.cons_append, ← hcs] at hread
  simpa [hrest] using hread

lemma delimited_sound {n : ℕ} {s t : Cursor} {x : Expr} {cs : List Char}
    (hs : s.rest = '%' :: cs) (h : delimited s = .ok (x, t)) :
    ∃ ts, Derives n .primary ts x ∧ Passes ts x.operatorCount s t := by
  simp only [delimited, Cursor.span_fst, Cursor.span_rest, Cursor.drop_rest, hs, List.drop_one,
    List.tail_cons] at h
  split at h
  · contradiction
  · split at h
    · contradiction
    · rename_i hrest hname
      obtain ⟨rfl, rfl⟩ := by simpa using h
      have hleads := ((Cursor.Leads.drop 1 s).trans (.span (· != '%') _)).trans (.drop 1 _)
      refine ⟨_, .delimited (by simpa using hname), Passes.token hleads ?_ rfl⟩
      rw [hs]
      simpa [hs] using reads_delimited (by simpa using hrest)

lemma reads_name {c : Char} (hc : startsName c) (cs : List Char) :
    Reads (.name ((c :: cs).takeWhile continuesName)) (c :: cs)
      ((c :: cs).dropWhile continuesName) := by
  have hb : Boundary (cs.dropWhile continuesName) := by
    intro d hd
    have := List.head?_dropWhile_not continuesName cs
    rw [Option.mem_def.mp hd] at this
    simpa using this
  have hname : ∀ d ∈ cs.takeWhile continuesName, continuesName d :=
    fun d hd => List.mem_takeWhile_imp hd
  have hread := Reads.name hc hname hb
  rw [List.cons_append, List.takeWhile_append_dropWhile] at hread
  have hcont := startsName_continues hc
  rwa [List.takeWhile_cons_of_pos hcont, List.dropWhile_cons_of_pos hcont]

lemma Passes.name {s : Cursor} {c : Char} {cs : List Char} (hs : s.rest = c :: cs)
    (hc : startsName c) :
    Passes [.name (s.rest.takeWhile continuesName)] 0 s (s.span continuesName).2 := by
  refine .token (.span continuesName s) ?_ rfl
  rw [Cursor.span_rest, hs]
  exact reads_name hc cs

lemma nameOrCall_sound {n : ℕ} {inner : Option (Parser Expr)} (hi : SoundInner n inner)
    {s t : Cursor} {x : Expr} {c : Char} {cs : List Char} (hs : s.rest = c :: cs)
    (hc : startsName c) (h : nameOrCall inner s = .ok (x, t)) :
    ∃ ts, Derives n .primary ts x ∧ Passes ts x.operatorCount s t := by
  have hname := Passes.name hs hc
  rw [nameOrCall] at h
  simp only [Cursor.span_fst] at h
  split at h
  · rename_i rest hopen
    split at h
    · contradiction
    · rename_i f hf
      obtain ⟨⟨xs, d⟩, hxs, h⟩ := bind_eq_ok.mp h
      obtain ⟨rfl, rfl⟩ := by simpa using h
      obtain ⟨p, hp, hxs⟩ := nested_sound hxs
      obtain ⟨item, hitem, rfl⟩ := Option.map_eq_some_iff.mp hp
      obtain ⟨m, rfl, hitem⟩ := hi item hitem
      obtain ⟨args, rfl, hargs, hpass⟩ := arguments_sound hitem hxs
      have hname' := ofName?_eq_some.mp hf
      refine ⟨_, .call hname' hargs, ?_⟩
      simpa [Expr.operatorCount] using (hname.trans (.first hopen .opening)).trans hpass
  · obtain ⟨rfl, rfl⟩ := by simpa using h
    exact ⟨_, .name, hname⟩

lemma group_sound {n : ℕ} {inner : Option (Parser Expr)} (hi : SoundInner n inner)
    {s t : Cursor} {x : Expr} {cs : List Char} (hs : s.rest = '(' :: cs)
    (h : group inner s = .ok (x, t)) :
    ∃ ts, Derives n .primary ts x ∧ Passes ts x.operatorCount s t := by
  obtain ⟨⟨y, d⟩, hy, h⟩ := bind_eq_ok.mp h
  obtain ⟨e, he, h⟩ := bind_eq_ok.mp h
  obtain ⟨rfl, rfl⟩ := by simpa using h
  obtain ⟨p, hp, hy⟩ := nested_sound hy
  obtain ⟨m, rfl, hp⟩ := hi p hp
  obtain ⟨ts, hts, hpass⟩ := hp _ _ _ hy
  have hopen : Passes [.opening] 0 s (s.drop 1) := .head hs .opening
  exact ⟨_, .group hts, by simpa using (hopen.trans hpass).trans (.close he)⟩

lemma primary_sound {n : ℕ} {inner : Option (Parser Expr)} (hi : SoundInner n inner) :
    Sound n .primary (primary inner) := by
  intro s x t h
  rw [primary] at h
  split at h
  · contradiction
  · rename_i c cs hs
    split at h
    · rename_i hc
      exact group_sound hi (hc ▸ hs) h
    · split at h
      · obtain ⟨cs, value, rfl, hn, hv, hrest, hcount⟩ := numeral_sound h
        obtain ⟨front, hleads⟩ := numeral_leads h
        refine ⟨_, .number hv, Passes.token hleads ?_ hcount⟩
        rw [hrest]
        exact .number hn
      · split at h
        · rename_i hc
          exact delimited_sound (hc ▸ hs) h
        · split at h
          · rename_i hc
            exact nameOrCall_sound hi hs hc h
          · contradiction

end DerivedStats.Formula.Grammar
