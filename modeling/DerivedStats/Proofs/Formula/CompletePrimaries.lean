import DerivedStats.Proofs.Formula.CompleteLevels
import DerivedStats.Proofs.Formula.SoundPrimaries

/-! A phrase is read up to the token behind it: numbers, names and what stands in parentheses. -/

namespace DerivedStats.Formula.Grammar

def CompletePrimary (n : ℕ) (inner : Option (Parser Expr)) : Prop :=
  Complete n .primary fun s => primary inner s.skipBlanks

def CompleteInner (n : ℕ) (inner : Option (Parser Expr)) : Prop :=
  ∀ m, n = m + 1 → ∃ p, inner = some p ∧ Complete m (.joined .or) p

lemma primary_number {inner : Option (Parser Expr)} {s : Cursor} {c : Char} {cs : List Char}
    (hs : s.rest = c :: cs) (hc : Decimal.isDigit c ∨ c = '.') : primary inner s = numeral s := by
  have hopen : c ≠ '(' := by
    rintro rfl
    rcases hc with hc | hc <;> contradiction
  simp only [primary, hs, if_neg hopen, Bool.or_eq_true, decide_eq_true_eq, if_pos hc]

lemma primary_group {inner : Option (Parser Expr)} {s : Cursor} {cs : List Char}
    (hs : s.rest = '(' :: cs) : primary inner s = group inner s := by
  simp only [primary, hs, if_true]

lemma primary_delimited {inner : Option (Parser Expr)} {s : Cursor} {cs : List Char}
    (hs : s.rest = '%' :: cs) : primary inner s = delimited s := by
  simp only [primary, hs]
  rfl

lemma primary_name {inner : Option (Parser Expr)} {s : Cursor} {c : Char} {cs : List Char}
    (hs : s.rest = c :: cs) (hc : startsName c) : primary inner s = nameOrCall inner s := by
  have other : ∀ d, startsName d = false → c ≠ d := by
    rintro d hd rfl
    simp [hd] at hc
  have hopen := other '(' (by decide)
  have hpoint := other '.' (by decide)
  have hpercent := other '%' (by decide)
  simp only [primary, hs, hopen, hpoint, hpercent, startsName_not_digit hc, hc, decide_false,
    Bool.or_self, Bool.false_eq_true, if_false, if_true]

lemma number_complete {inner : Option (Parser Expr)} {cs : List Char} {value : Float}
    {us : List Token} {s : Cursor} (hv : Decimal.read (String.ofList cs) = some value)
    (hu : Follows .primary us) (hs : Spelled (.number cs :: us) s.rest) :
    Yields (primary inner) s.skipBlanks (.number value) 0 us := by
  obtain ⟨rest, hread, hrest⟩ := hs.skipped_cons
  obtain ⟨c, cs', hcs, hc⟩ := hread.begins
  rw [← Cursor.skipBlanks_rest] at hread hcs
  generalize hd : s.skipBlanks = d at hread hcs
  generalize hl : d.rest = l at hread hcs
  cases hread with
  | number hn =>
    obtain ⟨t, ht, rfl, hct⟩ := numeral_complete hn hv hl (hu.not_numeral hrest)
    refine ⟨t, ?_, hrest, hct⟩
    rw [primary_number (hl.trans hcs) hc, ht]

lemma delimited_complete {inner : Option (Parser Expr)} {cs : List Char} {us : List Token}
    {s : Cursor} (hname : Text.trimmed cs ≠ []) (hs : Spelled (.delimited cs :: us) s.rest) :
    Yields (primary inner) s.skipBlanks (.var (String.ofList (Text.trimmed cs))) 0 us := by
  obtain ⟨rest, hread, hrest⟩ := hs.next
  generalize hd : s.skipBlanks = d at hread
  generalize hl : d.rest = l at hread
  cases hread with
  | delimited hc =>
    have hin : ∀ c ∈ cs, (c != '%') = true := fun c hm => by simpa using ne_of_mem_of_not_mem hm hc
    have hout : ∀ c ∈ ('%' :: rest).head?, ¬(c != '%') = true := by simp
    have htake := takeWhile_append hin hout
    have hdrop := dropWhile_append hin hout
    rw [List.cons_append] at hl
    refine ⟨(((d.drop 1).span (· != '%')).2).drop 1, ?_, ?_, ?_⟩
    · rw [primary_delimited hl]
      simp [delimited, hl, htake, hdrop, hname]
    · simpa [hl, hdrop] using hrest
    · simp [← hd]

lemma nameOrCall_rest {s : Cursor} {c : Char} {cs rest : List Char} (hc : startsName c)
    (hcs : ∀ d ∈ cs, continuesName d) (hb : Boundary rest) (hs : s.rest = c :: cs ++ rest) :
    s.rest.takeWhile continuesName = c :: cs ∧ (s.span continuesName).2.rest = rest := by
  have hin : ∀ d ∈ c :: cs, continuesName d := by
    intro d hd
    rcases List.mem_cons.mp hd with rfl | hd
    · exact startsName_continues hc
    · exact hcs d hd
  rw [Cursor.span_rest, hs]
  exact ⟨takeWhile_append hin hb, dropWhile_append hin hb⟩

lemma name_complete {inner : Option (Parser Expr)} {cs : List Char} {us : List Token}
    {s : Cursor} (hu : Follows .primary us) (hs : Spelled (.name cs :: us) s.rest) :
    Yields (primary inner) s.skipBlanks (.var (String.ofList cs)) 0 us := by
  obtain ⟨rest, hread, hrest⟩ := hs.next
  generalize hd : s.skipBlanks = d at hread
  generalize hl : d.rest = l at hread
  cases hread with
  | @name c cs rest hc hcs hb =>
    obtain ⟨htake, hspan⟩ := nameOrCall_rest hc hcs hb hl
    refine ⟨(d.span continuesName).2, ?_, ?_, ?_⟩
    · rw [primary_name hl hc]
      rw [nameOrCall]
      simp only [Cursor.span_fst, htake]
      split
      · rename_i cs' hopen
        have := hu.begins hrest '('
        rw [Cursor.skipBlanks_rest, hspan] at hopen
        rw [hopen] at this
        exact absurd (this rfl) (by decide)
      · rfl
    · rwa [hspan]
    · simp [← hd]

lemma skipped_closing {us : List Token} {s : Cursor} (hs : Spelled (.closing :: us) s.rest) :
    ∃ rest, s.skipBlanks.rest = ')' :: rest ∧ Spelled us rest := by
  obtain ⟨rest, hread, hrest⟩ := hs.next
  generalize s.skipBlanks.rest = l at hread
  cases hread with
  | closing => exact ⟨rest, rfl, hrest⟩

lemma close_complete {us : List Token} {s : Cursor} (hs : Spelled (.closing :: us) s.rest) :
    ∃ t, s.close = .ok t ∧ Spelled us t.rest ∧ t.operators = s.operators := by
  obtain ⟨rest, hclose, hrest⟩ := skipped_closing hs
  refine ⟨s.skipBlanks.drop 1, ?_, ?_, rfl⟩
  · simp only [Cursor.close, hclose]
  · rw [Cursor.drop_rest, hclose]
    exact hrest

lemma primary_opening {us : List Token} {s : Cursor} (inner : Option (Parser Expr))
    (hs : Spelled (.opening :: us) s.rest) :
    ∃ d : Cursor, Spelled us d.rest ∧ d.operators = s.operators ∧
      primary inner s.skipBlanks = (do
        let (x, e) ← nested inner d
        let e ← e.close
        .ok (x, e)) := by
  obtain ⟨rest, hread, hrest⟩ := hs.next
  generalize hl : s.skipBlanks.rest = l at hread
  cases hread with
  | opening =>
    refine ⟨s.skipBlanks.drop 1, ?_, rfl, primary_group hl⟩
    rw [Cursor.drop_rest, hl]
    exact hrest

lemma group_complete {n : ℕ} {inner : Option (Parser Expr)} {ts us : List Token} {x : Expr}
    {s : Cursor} (hi : CompleteInner (n + 1) inner) (hx : Derives n (.joined .or) ts x)
    (hs : Spelled (.opening :: (ts ++ .closing :: us)) s.rest)
    (hlimit : s.operators + x.operatorCount ≤ operatorLimit) :
    Yields (primary inner) s.skipBlanks x x.operatorCount us := by
  obtain ⟨p, rfl, hp⟩ := hi n rfl
  obtain ⟨d, hd, hcount, hgroup⟩ := primary_opening (some p) hs
  obtain ⟨e, he, hse, hce⟩ := hp _ _ _ d hx (follows_closing _ us) hd (by rwa [hcount])
  obtain ⟨t, ht, hst, hct⟩ := close_complete hse
  refine ⟨t, ?_, hst, by rw [hct, hce, hcount, Cursor.skipBlanks_operators]⟩
  rw [hgroup]
  exact bind_eq_ok.mpr ⟨(x, e), he, bind_eq_ok.mpr ⟨t, ht, rfl⟩⟩

end DerivedStats.Formula.Grammar
