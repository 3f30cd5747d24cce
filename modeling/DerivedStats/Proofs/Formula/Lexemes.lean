import DerivedStats.Proofs.Formula.Tracking

/-! The operators, the numerals and the names that a marker passes over, each as the parser takes it
from the rest of the text. -/

namespace DerivedStats.Formula

open Cursor (Leads)
open Decimal (isDigit)
open Grammar (Rank scanOf behindPoint)

namespace Marker

variable {m : Marker} {c d : Cursor}

def symbols : Rank → List (List Char × Operator)
  | .or => [(['|', '|'], .or)]
  | .equality => [(['=', '='], .eq), (['!', '='], .ne)]
  | .relation => [(['>', '='], .ge), (['<', '='], .le), (['>'], .gt), (['<'], .lt)]
  | .sum => [(['+'], .add), (['-'], .sub)]
  | .product => [(['*'], .mul), (['/'], .div)]

def eatOr : Run (Option Operator) := do
  match ← eatFirst (symbols .or) with
  | some op => return some op
  | none =>
    let cs ← rest
    if ['O', 'R'] <+: cs then
      let after ← sliced (sliceFrom cs 2)
      if after.head?.any continuesName then return none
      else
        advance 2
        return some .or
    else return none

def operatorAt : Rank → Run (Option Operator)
  | .or => eatOr
  | r => eatFirst (symbols r)

lemma symbols_cons (r : Rank) : ∃ t tokens, symbols r = t :: tokens := by
  cases r <;> exact ⟨_, _, rfl⟩

lemma not_starting {cs : List Char} (token : List Char) (h : ∀ rest, cs = token ++ rest → False) :
    ¬token <+: cs :=
  fun ⟨rest, heq⟩ => h rest heq.symm

lemma scanOf_eq_firstOf {r : Rank} (hr : r ≠ .or) (cs : List Char) :
    scanOf r cs = firstOf cs (symbols r) := by
  cases r with
  | or => contradiction
  | equality =>
    rw [scanOf, scanEquality.eq_def]
    split
    · rfl
    · rfl
    · next heq hne =>
      simp only [symbols, firstOf, if_neg (not_starting ['=', '='] heq),
        if_neg (not_starting ['!', '='] hne)]
  | relation =>
    rw [scanOf, scanRelation.eq_def]
    split
    · rfl
    · rfl
    · next cs hge =>
      have hlong : ¬['>', '='] <+: '>' :: cs :=
        not_starting _ fun rest heq => hge rest (List.cons.inj heq).2
      simp [symbols, firstOf, hlong]
    · next cs hle =>
      have hlong : ¬['<', '='] <+: '<' :: cs :=
        not_starting _ fun rest heq => hle rest (List.cons.inj heq).2
      simp [symbols, firstOf, hlong]
    · next hge hle hgt hlt =>
      simp only [symbols, firstOf, if_neg (not_starting ['>', '='] hge),
        if_neg (not_starting ['<', '='] hle), if_neg (not_starting ['>'] hgt),
        if_neg (not_starting ['<'] hlt)]
  | sum =>
    rw [scanOf, scanSum.eq_def]
    split
    · rfl
    · rfl
    · next hadd hsub =>
      simp only [symbols, firstOf, if_neg (not_starting ['+'] hadd),
        if_neg (not_starting ['-'] hsub)]
  | product =>
    rw [scanOf, scanProduct.eq_def]
    split
    · rfl
    · rfl
    · next hmul hdiv =>
      simp only [symbols, firstOf, if_neg (not_starting ['*'] hmul),
        if_neg (not_starting ['/'] hdiv)]

lemma eatOr_hit (h : m.Behind c) {op : Operator} {k : ℕ}
    (hs : scanOr c.skipBlanks.rest = some (op, k)) :
    Ends eatOr m (.ok (some op)) (m.moveTo (c.skipBlanks.drop k)) := by
  rw [scanOr.eq_def] at hs
  split at hs
  · next hbars =>
    obtain ⟨rfl, rfl⟩ := by simpa using hs
    refine .bind (eatFirst_hit h (k := 2) ?_) (.pure _ _)
    rw [hbars]
    rfl
  · next hword =>
    split at hs
    · contradiction
    · next hboundary =>
      obtain ⟨rfl, rfl⟩ := by simpa using hs
      have hmove : m.moveTo (c.skipBlanks.drop 2) = { m.moveTo c.skipBlanks with
          position := (m.moveTo c.skipBlanks).position + 2 } := by
        rw [moveTo, Cursor.drop, hword]
        rfl
      refine .bind (eatFirst_miss h ?_) (.bind (rest_ends h.skipped) ?_)
      · rw [hword]
        rfl
      · rw [hword, if_pos ⟨_, rfl⟩]
        refine .bind (sliced_ends (sliceFrom_byteSize ['O', 'R'] _)) ?_
        rw [if_neg hboundary, hmove]
        exact .bind (.modify _ _) (.pure _ _)
  · contradiction

lemma eatOr_miss (h : m.Behind c) (hs : scanOr c.skipBlanks.rest = none) :
    Ends eatOr m (.ok none) (m.moveTo c.skipBlanks) := by
  rw [scanOr.eq_def] at hs
  split at hs
  · contradiction
  · next hword =>
    split at hs
    · next hlonger =>
      refine .bind (eatFirst_miss h ?_) (.bind (rest_ends h.skipped) ?_)
      · rw [hword]
        rfl
      · rw [hword, if_pos ⟨_, rfl⟩]
        refine .bind (sliced_ends (sliceFrom_byteSize ['O', 'R'] _)) ?_
        rw [if_pos hlonger]
        exact .pure _ _
    · contradiction
  · next hbars hword =>
    refine .bind (eatFirst_miss h ?_) (.bind (rest_ends h.skipped) ?_)
    · rw [firstOf, if_neg (not_starting ['|', '|'] hbars)]
      rfl
    · rw [if_neg (not_starting ['O', 'R'] hword)]
      exact .pure _ _

lemma operatorAt_eq {r : Rank} (hr : r ≠ .or) : operatorAt r = eatFirst (symbols r) := by
  cases r <;> first | rfl | contradiction

lemma operatorAt_hit {r : Rank} {op : Operator} {k : ℕ} (h : m.Behind c)
    (hs : scanOf r c.skipBlanks.rest = some (op, k)) :
    Ends (operatorAt r) m (.ok (some op)) (m.moveTo (c.skipBlanks.drop k)) := by
  by_cases hr : r = .or
  · subst hr
    exact eatOr_hit h hs
  · rw [scanOf_eq_firstOf hr] at hs
    rw [operatorAt_eq hr]
    exact eatFirst_hit h hs

lemma operatorAt_miss {r : Rank} (h : m.Behind c) (hs : scanOf r c.skipBlanks.rest = none) :
    Ends (operatorAt r) m (.ok none) (m.moveTo c.skipBlanks) := by
  by_cases hr : r = .or
  · subst hr
    exact eatOr_miss h hs
  · rw [scanOf_eq_firstOf hr] at hs
    rw [operatorAt_eq hr]
    obtain ⟨t, tokens, htokens⟩ := symbols_cons r
    rw [htokens] at hs ⊢
    exact eatFirst_miss h hs

def digits (pointed : Bool) : ℕ → Run Unit
  | 0 => outOfRounds
  | rounds + 1 => do
    match ← peek with
    | some ch =>
      if isDigit ch then
        bump
        digits pointed rounds
      else if ch = '.' ∧ ¬pointed then
        bump
        digits true rounds
      else return
    | none => return

def number : Run Expr := do
  let start := (← get).position
  digits false ((← rest).length + 1)
  let lexeme := String.ofList (← between start (← get).position)
  match Decimal.read lexeme with
  | some value => return .number value
  | none => fault (.invalidNumber lexeme) start

def delimitedName : Run Expr := do
  let opening := (← get).position
  bump
  let start := (← get).position
  match offsetOf? '%' (← rest) with
  | none => fault .unterminatedVariable opening
  | some length =>
    let name := Text.trimmed (← between start (start + length))
    modify fun m => { m with position := start + length + 1 }
    if name.isEmpty then fault .emptyVariable opening
    else return .var (String.ofList name)

def name : Run (List Char) := do
  let start := (← get).position
  skipWhile continuesName
  between start (← get).position

def behindDigits (pointed : Bool) (c : Cursor) : Cursor :=
  if (c.rest.dropWhile isDigit).head? = some '.' ∧ ¬pointed then behindPoint c
  else (c.span isDigit).2

section

variable {ch : Char} {cs : List Char} {pointed : Bool} (hc : c.rest = ch :: cs)

include hc

lemma behindDigits_digit (hdigit : isDigit ch) :
    behindDigits pointed c = behindDigits pointed (c.drop 1) := by
  simp [behindDigits, behindPoint, Cursor.span_cons hc hdigit, hc, hdigit]

lemma behindDigits_point (hpoint : ch = '.') (hp : ¬pointed) :
    behindDigits pointed c = behindDigits true (c.drop 1) := by
  subst hpoint
  have hhere : (c.span isDigit).2 = c := Cursor.span_of_head (by simp [hc]; decide)
  have hnext : (c.rest.dropWhile isDigit).head? = some '.' := by
    rw [← Cursor.span_rest, hhere, hc]
    rfl
  rw [behindDigits, if_pos ⟨hnext, hp⟩, behindPoint, hhere, behindDigits, if_neg (by simp)]

end

lemma behindDigits_of_head {pointed : Bool}
    (h : ∀ ch ∈ c.rest.head?, ¬isDigit ch ∧ ¬(ch = '.' ∧ ¬pointed)) :
    behindDigits pointed c = c := by
  have hhere : (c.span isDigit).2 = c := Cursor.span_of_head fun ch hch => (h ch hch).1
  rw [behindDigits, ← Cursor.span_rest, hhere, if_neg]
  rintro ⟨hhead, hp⟩
  exact (h '.' hhead).2 ⟨rfl, hp⟩

lemma digits_ends (pointed : Bool) (h : m.At c) {cs : List Char} (hcs : c.rest = cs) :
    Ends (digits pointed (cs.length + 1)) m (.ok ()) (m.moveTo (behindDigits pointed c)) := by
  induction cs generalizing m c pointed with
  | nil =>
    rw [digits, behindDigits_of_head (by simp [hcs]), h.moveTo_self]
    refine .bind (peek_ends h) ?_
    rw [hcs]
    exact .pure _ m
  | cons ch cs ih =>
    have hrest (pointed : Bool) := ih pointed (h.moveTo (.drop 1 c)) (by simp [hcs])
    rw [digits]
    refine .bind (peek_ends h) ?_
    rw [hcs]
    dsimp only [List.head?_cons]
    split
    · next hdigit =>
      rw [behindDigits_digit hcs hdigit]
      exact .bind (bump_ends h hcs) (hrest pointed)
    · next hdigit =>
      split
      · next hpoint =>
        rw [behindDigits_point hcs hpoint.1 hpoint.2]
        exact .bind (bump_ends h hcs) (hrest true)
      · next hpoint =>
        rw [behindDigits_of_head (by simp [hcs, hdigit] at hpoint ⊢; exact hpoint), h.moveTo_self]
        exact .pure _ m

lemma number_ends {front : List Char} (h : m.At c) (hleads : Leads front c (behindDigits false c)) :
    Ends number m
      (match Decimal.read (String.ofList front) with
        | some value => .ok (.number value)
        | none => .error ⟨.invalidNumber (String.ofList front), c.position⟩)
      (m.moveTo (behindDigits false c)) := by
  refine .bind (.get m) (.bind (rest_ends h) (.bind (digits_ends false h rfl) (.bind (.get _) ?_)))
  rw [h.position]
  refine .bind (between_ends h hleads rfl) ?_
  dsimp only
  cases Decimal.read (String.ofList front) with
  | none => exact .throw _ _
  | some value => exact .pure _ _

lemma read_point : Decimal.read (String.ofList ['.']) = none := by
  rw [Grammar.read_unsigned (.inr rfl)]
  rfl

lemma number_pointed {es : List Char} (h : m.At c) (hes : c.rest.dropWhile isDigit = '.' :: es) :
    Tracks number m (numeral c) := by
  have hend : behindDigits false c = behindPoint c := if_pos ⟨by simp [hes], by simp⟩
  have hleads : Leads (c.rest.takeWhile isDigit ++ '.' :: es.takeWhile isDigit) c
      (behindDigits false c) := by
    have hthree := ((Leads.span isDigit c).trans (.drop 1 _)).trans (.span isDigit _)
    rw [hend, behindPoint]
    simpa [hes] using hthree
  have hends := number_ends h hleads
  rw [Grammar.numeral_pointed hes]
  split
  · next hnil =>
    rw [Bool.and_eq_true, List.isEmpty_iff, List.isEmpty_iff] at hnil
    rw [hnil.1, hnil.2, List.nil_append, read_point] at hends
    exact .error hends (Nat.le_refl _)
  · next hne =>
    have hne : c.rest.takeWhile isDigit ≠ [] ∨ es.takeWhile isDigit ≠ [] := by
      by_contra! hnil
      simp [hnil] at hne
    have hdigits := Grammar.digits_takeWhile c.rest
    rw [Grammar.read_pointed hdigits (Grammar.digits_takeWhile es) hne] at hends
    rw [← hend]
    exact .ok hends (h.moveTo hleads).behind

lemma number_whole (h : m.At c) (hpoint : (c.rest.dropWhile isDigit).head? ≠ some '.')
    (hne : c.rest.takeWhile isDigit ≠ []) : Tracks number m (numeral c) := by
  have hend : behindDigits false c = (c.span isDigit).2 := if_neg fun hp => hpoint hp.1
  have hleads : Leads (c.rest.takeWhile isDigit) c (behindDigits false c) := by
    rw [hend]
    exact .span isDigit c
  have hends := number_ends h hleads
  rw [Grammar.read_whole (Grammar.digits_takeWhile _) hne] at hends
  rw [Grammar.numeral_whole hpoint, if_neg (by simpa using hne), ← hend]
  exact .ok hends (h.moveTo hleads).behind

lemma number_tracks {ch : Char} {cs : List Char} (h : m.At c) (hc : c.rest = ch :: cs)
    (hch : isDigit ch ∨ ch = '.') : Tracks number m (numeral c) := by
  by_cases hpoint : (c.rest.dropWhile isDigit).head? = some '.'
  · obtain ⟨es, hes⟩ := List.head?_eq_some_iff.mp hpoint
    exact number_pointed h hes
  · refine number_whole h hpoint ?_
    rw [hc] at hpoint ⊢
    obtain hdigit | rfl := hch
    · rw [List.takeWhile_cons_of_pos hdigit]
      exact List.cons_ne_nil _ _
    · exact absurd rfl hpoint

lemma name_ends (h : m.At c) : Ends name m (.ok (c.rest.takeWhile continuesName))
    (m.moveTo (c.span continuesName).2) := by
  refine .bind (.get m) (.bind (skipWhile_ends continuesName h) (.bind (.get _) ?_))
  rw [h.position]
  exact between_ends h (.span continuesName c) rfl

lemma delimitedName_tracks {cs : List Char} (h : m.At c) (hc : c.rest = '%' :: cs) :
    Tracks delimitedName m (delimited c) := by
  have hat := h.moveTo (.drop 1 c)
  have hrest : (c.drop 1).rest = cs := by simp [hc]
  have hspan := Leads.span (· != '%') (c.drop 1)
  have hbetween : Ends _ (m.moveTo (c.drop 1)) _ _ := between_ends hat hspan rfl
  rw [hspan.position, hrest] at hbetween
  refine .stay (.get m) (.after (bump_ends h hc) (.stay (.get _) (.stay (rest_ends hat) ?_)))
  rw [delimited, offsetOf?_eq, h.position]
  simp only [Cursor.span_fst, Cursor.span_rest, hrest]
  cases hclosing : cs.dropWhile (· != '%') with
  | nil => exact .fault _ _
  | cons ch rest =>
    have hch : ch = '%' := by
      have hhead := List.head?_dropWhile_not (· != '%') cs
      simpa [hclosing] using hhead
    have hmove : m.moveTo (((c.drop 1).span (· != '%')).2.drop 1) = { m.moveTo (c.drop 1) with
        position := (c.drop 1).position + byteSize (cs.takeWhile (· != '%')) + 1 } := by
      rw [moveTo, Cursor.drop, Cursor.span_rest, hspan.position, hrest, hclosing, hch]
      rfl
    have hends := hat.moveTo (hspan.trans (.drop 1 _))
    refine .stay hbetween (.after (x := ()) (c := ((c.drop 1).span (· != '%')).2.drop 1) ?_ ?_)
    · exact hmove ▸ .modify _ _
    · rw [List.isEmpty_cons, if_neg Bool.false_ne_true]
      split
      · exact .fault _ _
      · exact .pure _ hends.behind

end Marker

end DerivedStats.Formula
