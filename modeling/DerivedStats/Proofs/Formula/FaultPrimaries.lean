import DerivedStats.Proofs.Formula.CompleteCalls
import DerivedStats.Proofs.Formula.FaultLevels
import DerivedStats.Proofs.Text.Trimming

/-! Where the compiler stops: names, calls and what stands in parentheses. -/

namespace DerivedStats.Formula.Grammar

open Cursor (Leads)
open Decimal (isDigit)

section

variable {n : ℕ} {s : Cursor} {err : CompileError}

lemma FaultAhead.atOnce (hposition : err.position = s.position) (hshows : err.fault.Shows s.rest) :
    FaultAhead n .primary s err := by
  -- Nothing is read, so an operand completes it.
  have hread : Decimal.read (String.ofList ['0']) = some 0 := by decide +kernel
  have hzero : Derives n .primary ([] ++ [.number ['0']]) (.number 0) := .number hread
  exact .here (.refl s) (.operand 0) hzero hposition hshows

lemma head_of_takeWhile_eq_nil {p : Char → Bool} {cs : List Char} (h : cs.takeWhile p = []) :
    ∀ c ∈ cs.head?, ¬p c := by
  intro c hc hp
  obtain ⟨ds, rfl⟩ := List.head?_eq_some_iff.mp hc
  rw [List.takeWhile_cons_of_pos hp] at h
  contradiction

lemma numeral_points {c : Char} {cs : List Char} (hs : s.rest = c :: cs) (hc : isDigit c ∨ c = '.')
    (h : numeral s = .error err) : FaultAhead n .primary s err := by
  -- Without a digit in front, the numeral starts with the point.
  have hhead : s.rest.takeWhile isDigit = [] →
      s.rest = '.' :: cs ∧ s.rest.dropWhile isDigit = s.rest := by
    intro hnil
    have hnot : ¬isDigit c := head_of_takeWhile_eq_nil hnil c (by rw [hs]; rfl)
    rw [hs, List.dropWhile_cons_of_neg hnot]
    exact ⟨by rw [hc.resolve_left hnot], rfl⟩
  by_cases hpoint : (s.rest.dropWhile isDigit).head? = some '.'
  · obtain ⟨ds, hds⟩ := List.head?_eq_some_iff.mp hpoint
    rw [numeral_pointed hds] at h
    split at h
    · next hnone =>
      obtain rfl := Except.error.inj h
      obtain ⟨hwhole, hfraction⟩ := Bool.and_eq_true_iff.mp hnone
      refine .atOnce rfl ⟨rfl, ds, ?_, head_of_takeWhile_eq_nil (List.isEmpty_iff.mp hfraction)⟩
      rw [← hds, (hhead (List.isEmpty_iff.mp hwhole)).2]
    · contradiction
  · rw [numeral_whole hpoint] at h
    split at h
    · next hnone =>
      obtain ⟨hdot, hdrop⟩ := hhead (List.isEmpty_iff.mp hnone)
      rw [hdrop, hdot] at hpoint
      exact absurd rfl hpoint
    · contradiction

lemma delimited_points {cs : List Char} (hs : s.rest = '%' :: cs) (h : delimited s = .error err) :
    FaultAhead n .primary s err := by
  simp only [delimited, Cursor.span_fst, Cursor.span_rest, Cursor.drop_rest, hs, List.drop_one,
    List.tail_cons] at h
  split at h
  · next hend =>
    obtain rfl := Except.error.inj h
    refine .atOnce rfl ⟨cs, hs, fun hmem => ?_⟩
    have hall := List.dropWhile_eq_nil_iff.mp (List.isEmpty_iff.mp hend)
    simpa using hall '%' hmem
  · split at h
    · next hrest hempty =>
      obtain rfl := Except.error.inj h
      have hblank := Text.isBlank_of_trimmed_eq_nil (List.isEmpty_iff.mp hempty)
      have hread := reads_delimited (by simpa using hrest)
      generalize cs.takeWhile (· != '%') = name at hblank hread
      generalize (cs.dropWhile (· != '%')).drop 1 = rest at hread
      refine .atOnce rfl ⟨name, rest, ?_, hblank⟩
      rw [hs]
      generalize '%' :: cs = text at hread
      cases hread
      rfl
    · contradiction

end

def PointsInner (n : ℕ) (inner : Option (Parser Expr)) : Prop :=
  ∀ p ∈ inner, ∀ m, n = m + 1 → Points m (.joined .or) p

def Takes (m : ℕ) (d : Category) (n : ℕ) (pre : List Token) (k : ℕ) : Prop :=
  ∀ a args, (∀ b ∈ a :: args, Derives n (.joined .or) b.1 b.2) →
    ∃ y, Derives m d (pre ++ [.comma].intercalate ((a :: args).map Prod.fst) ++ [.closing]) y ∧
      y.operatorCount = k + Expr.operatorCountOf ((a :: args).map Prod.snd)

section

variable {m n k : ℕ} {d : Category} {pre ts : List Token} {x : Expr} {item : Parser Expr}
  {r s t : Cursor} {err : CompileError}

lemma Takes.frames (h : Takes m d n pre k) : Frames m d n (.joined .or) pre [.closing] k := by
  intro ts x hx
  simpa [Expr.operatorCountOf] using h (ts, x) [] (by simpa using hx)

lemma Takes.comma (h : Takes m d n pre k) (hx : Derives n (.joined .or) ts x) :
    Takes m d n (pre ++ ts ++ [.comma]) (k + x.operatorCount) := by
  intro a args hargs
  obtain ⟨y, hy, hcount⟩ := h (ts, x) (a :: args) (List.forall_mem_cons.mpr ⟨hx, hargs⟩)
  rw [List.map_cons, intercalate_cons] at hy
  refine ⟨y, by simpa using hy, ?_⟩
  rw [hcount, List.map_cons, Expr.operatorCountOf, Nat.add_assoc]

lemma close_points (hframes : Frames m d n (.joined .or) pre [.closing] k)
    (hx : Derives n (.joined .or) ts x) (hpass : Passes (pre ++ ts) (k + x.operatorCount) r t)
    (h : t.close = .error err) : FaultAhead m d r err := by
  obtain ⟨hposition, hshows⟩ := close_eq_error h
  obtain ⟨y, hy, hcount⟩ := hframes ts x hx
  rw [← hcount] at hpass
  exact .here (by simpa using hpass.trans (.skipBlanks t)) .one hy hposition hshows

lemma argumentsOf_points (hs : Sound n (.joined .or) item) (hp : Points n (.joined .or) item)
    {fuel : ℕ} (htakes : Takes m d n pre k) (hpass : Passes pre k r s)
    (h : argumentsOf item fuel s = .error err) : FaultAhead m d r err := by
  induction fuel generalizing pre k s with
  | zero =>
    rcases bind_eq_error.mp h with h | ⟨⟨x, t⟩, hx, h⟩
    · exact (hp _ _ h).inside hpass htakes.frames
    · obtain ⟨ts, hts, hitem⟩ := hs _ _ _ hx
      rcases bind_eq_error.mp h with h | ⟨_, _, h⟩
      · exact close_points htakes.frames hts (hpass.trans hitem) h
      · contradiction
  | succ fuel ih =>
    rcases bind_eq_error.mp h with h | ⟨⟨x, t⟩, hx, h⟩
    · exact (hp _ _ h).inside hpass htakes.frames
    · obtain ⟨ts, hts, hitem⟩ := hs _ _ _ hx
      simp only at h
      split at h
      · next cs hcs =>
        rcases bind_eq_error.mp h with h | ⟨_, _, h⟩
        · have hcomma : Passes [.comma] 0 t (t.skipBlanks.drop 1) := .first hcs .comma
          exact ih (htakes.comma hts) ((hpass.trans hitem).trans hcomma) h
        · contradiction
      · rcases bind_eq_error.mp h with h | ⟨_, _, h⟩
        · exact close_points htakes.frames hts (hpass.trans hitem) h
        · contradiction

lemma arguments_points (hs : Sound n (.joined .or) item) (hp : Points n (.joined .or) item)
    (htakes : Takes m d n pre k) (hpass : Passes pre k r s)
    (h : arguments item s = .error err) : FaultAhead m d r err := by
  rw [arguments] at h
  split at h
  · contradiction
  · exact argumentsOf_points hs hp htakes (by simpa using hpass.trans (.skipBlanks s)) h

lemma nested_eq_error {α : Type} {inner : Option (Parser α)} (h : nested inner s = .error err) :
    err = ⟨.tooDeep, s.position⟩ ∨ ∃ p ∈ inner, p s = .error err := by
  cases inner with
  | none => exact .inl (Except.error.inj h).symm
  | some p => exact .inr ⟨p, rfl, h⟩

end

section

variable {n : ℕ} {inner : Option (Parser Expr)} {s : Cursor} {cs : List Char} {err : CompileError}

lemma group_points (hs : SoundInner n inner) (hp : PointsInner n inner) (hrest : s.rest = '(' :: cs)
    (h : group inner s = .error err) : FaultAhead n .primary s err := by
  have hopen : Passes [.opening] 0 s (s.drop 1) := .head hrest .opening
  have hframes : ∀ m, n = m + 1 → Frames n .primary m (.joined .or) [.opening] [.closing] 0 := by
    rintro m rfl ts x hx
    exact ⟨x, .group hx, (Nat.zero_add _).symm⟩
  rcases bind_eq_error.mp h with h | ⟨⟨x, t⟩, hx, h⟩
  · rcases nested_eq_error h with rfl | ⟨p, hmem, h⟩
    · exact .tooDeep (.drop 1 s)
    · obtain ⟨m, hn, -⟩ := hs p hmem
      exact (hp p hmem m hn _ _ h).inside hopen (hframes m hn)
  · obtain ⟨p, hmem, hx⟩ := nested_sound hx
    obtain ⟨m, hn, hsound⟩ := hs p hmem
    obtain ⟨ts, hts, hpass⟩ := hsound _ _ _ hx
    rcases bind_eq_error.mp h with h | ⟨_, _, h⟩
    · exact close_points (hframes m hn) hts (hopen.trans hpass) h
    · contradiction

lemma unknown_shows {c : Char} {rest : List Char} (hrest : s.rest = c :: cs) (hc : startsName c)
    (hopen : (s.span continuesName).2.skipBlanks.rest = '(' :: rest)
    (hf : Builtin.ofName? (String.ofList (s.rest.takeWhile continuesName)) = none) :
    (Fault.unknownFunction (String.ofList (s.rest.takeWhile continuesName))).Shows s.rest := by
  have hread := reads_name hc cs
  rw [← hrest] at hread
  have hsplit := (Leads.skipBlanks (s.span continuesName).2).rest
  rw [hopen, Cursor.span_rest] at hsplit
  refine ⟨(s.rest.dropWhile continuesName).takeWhile Text.isBlank, rest, ?_,
    fun c hc => List.mem_takeWhile_imp hc, ?_, ?_, fun f hname => ?_⟩
  · rw [String.toList_ofList, ← hsplit, List.takeWhile_append_dropWhile]
  · rw [String.toList_ofList, hrest, List.takeWhile_cons_of_pos (startsName_continues hc)]
    exact ⟨c, _, rfl, hc, fun d hd => List.mem_takeWhile_imp hd⟩
  · rw [← hsplit]
    generalize s.rest.dropWhile continuesName = after at hread
    generalize s.rest.takeWhile continuesName = name at hread
    generalize s.rest = text at hread
    cases hread with
    | name _ _ hb => exact hb
  · rw [ofName?_eq_some.mpr hname] at hf
    contradiction

lemma nameOrCall_points {c : Char} (hs : SoundInner n inner) (hp : PointsInner n inner)
    (hrest : s.rest = c :: cs) (hc : startsName c) (h : nameOrCall inner s = .error err) :
    FaultAhead n .primary s err := by
  rw [nameOrCall] at h
  simp only [Cursor.span_fst] at h
  split at h
  · next rest hopen =>
    split at h
    · next hf =>
      obtain rfl := Except.error.inj h
      exact .atOnce rfl (unknown_shows hrest hc hopen hf)
    · next f hf =>
      have hread := (Passes.name hrest hc).trans (.first hopen .opening)
      rcases bind_eq_error.mp h with h | ⟨_, _, h⟩
      · rcases nested_eq_error h with rfl | ⟨p, hmem, h⟩
        · obtain ⟨front, hleads, -⟩ := hread.read
          exact .tooDeep hleads
        · obtain ⟨item, hitem, rfl⟩ := Option.map_eq_some_iff.mp hmem
          obtain ⟨m, rfl, hsound⟩ := hs item hitem
          have htakes : Takes (m + 1) .primary m
              [.name (s.rest.takeWhile continuesName), .opening] 0 := by
            intro a args hargs
            refine ⟨_, .call (ofName?_eq_some.mp hf) hargs, ?_⟩
            rw [Expr.operatorCount, Nat.zero_add]
          exact arguments_points hsound (hp item hitem m rfl) htakes hread h
      · contradiction
  · contradiction

lemma primary_points (hs : SoundInner n inner) (hp : PointsInner n inner) :
    Points n .primary (primary inner) := by
  intro s err h
  rw [primary] at h
  split at h
  · next hrest =>
    obtain rfl := Except.error.inj h
    exact .atOnce rfl hrest
  · next c cs hrest =>
    split at h
    · next hc => exact group_points hs hp (hc ▸ hrest) h
    · split at h
      · next hc => exact numeral_points hrest (by simpa using hc) h
      · split at h
        · next hc => exact delimited_points (hc ▸ hrest) h
        · split at h
          · next hc => exact nameOrCall_points hs hp hrest hc h
          · obtain rfl := Except.error.inj h
            refine .atOnce rfl ?_
            rw [Fault.Shows, hrest, List.head?_cons]

end

end DerivedStats.Formula.Grammar
