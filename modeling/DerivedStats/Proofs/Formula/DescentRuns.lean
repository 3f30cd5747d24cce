import DerivedStats.Proofs.Formula.Categories
import DerivedStats.Proofs.Formula.Descent

/-! The descent runs as the parsers of the categories do, which recurse on the levels left, the
operators left and the characters left. So with a round for each call that these allow it comes to
an end without a crash, from every place between two characters. -/

namespace DerivedStats.Formula

open Cursor (Leads)
open Grammar (Category Rank inside scanOf)
open Marker

/-- How many calls lead from a phrase of the category down to where a level is entered. -/
def frames : Category → ℕ
  | .joined .or => 6
  | .joined .equality => 5
  | .joined .relation => 4
  | .joined .sum => 3
  | .joined .product => 2
  | .signed => 1
  | .primary => 1

def roundsFor (n : ℕ) (c : Category) (chars : ℕ) : ℕ := 6 * n + frames c + chars

lemma roundsFor_or (n chars : ℕ) : roundsFor n (.joined .or) chars = 6 * n + 6 + chars := rfl

lemma roundsFor_signed (n chars : ℕ) : roundsFor n .signed chars = 6 * n + 1 + chars := rfl

lemma roundsFor_primary (n chars : ℕ) : roundsFor n .primary chars = 6 * n + 1 + chars := rfl

lemma frames_joined (r : Rank) : frames (.joined r) = frames r.operand + 1 := by
  cases r <;> rfl

lemma frames_pos (c : Category) : 0 < frames c := by
  rcases c with (_ | _ | _ | _ | _) | _ | _ <;> decide

def Tracked (n : ℕ) (c : Category) : Prop :=
  ∀ ⦃rounds : ℕ⦄ ⦃m : Marker⦄ ⦃s : Cursor⦄, m.At s → nestingLimit - m.depth = n →
    roundsFor n c s.rest.length ≤ rounds → Tracks (parse rounds c) m (parserOf n c s)

lemma exists_round {n chars rounds : ℕ} {c : Category} (h : roundsFor n c chars ≤ rounds) :
    ∃ more, rounds = more + 1 := by
  have hpos := frames_pos c
  rw [roundsFor] at h
  exact Nat.exists_eq_add_one.mpr (by omega)

section

variable {m : Marker} {n rounds : ℕ} {s : Cursor}

lemma joinMore_step {r : Rank} {x : Expr} {fuel : ℕ} (hoperand : Tracked n r.operand)
    (h : m.Behind s) (hn : nestingLimit - m.depth = n)
    (hrounds : roundsFor n (.joined r) s.rest.length ≤ rounds + 1)
    (hmore : ∀ {m' : Marker} {y : Expr} {t : Cursor}, m'.Behind t → nestingLimit - m'.depth = n →
      s.operators < operatorLimit → s.operators < t.operators → t.rest.length < s.rest.length →
      Tracks (joinMore rounds r y) m' (extend (scanOf r) (parserOf n r.operand) fuel y t)) :
    Tracks (joinMore (rounds + 1) r x) m
      (extend (scanOf r) (parserOf n r.operand) (fuel + 1) x s) := by
  rw [joinMore, extend]
  split
  · next hnone => exact .after (operatorAt_miss h hnone) (.pure x h.skipped.behind_skipped)
  · next op k hsome =>
    refine .after (operatorAt_hit h hsome) (.grow (h.dropped k) fun d hd hat => ?_)
    have hlength := (((Leads.skipBlanks s).trans (.drop k _)).trans (.grow hd)).length_le
    rw [roundsFor, frames_joined] at hrounds
    refine .bind (hoperand hat hn (by rw [roundsFor]; omega)) fun y e t hy hbehind => ?_
    obtain ⟨hlimit, hgrown⟩ := Cursor.grow_eq_ok hd
    rw [Cursor.drop_operators, Cursor.skipBlanks_operators] at hlimit hgrown
    refine hmore hbehind hn hlimit ?_ ((parserOf_shortens hy).trans_le hlength)
    rw [parserOf_operators hy, hgrown]
    omega

lemma joinMore_tracks {r : Rank} {x : Expr} {fuel : ℕ} (hoperand : Tracked n r.operand)
    (h : m.Behind s) (hn : nestingLimit - m.depth = n)
    (hrounds : roundsFor n (.joined r) s.rest.length ≤ rounds)
    (hfuel : operatorLimit ≤ s.operators + fuel) :
    Tracks (joinMore rounds r x) m
      (extend (scanOf r) (parserOf n r.operand) (fuel + 1) x s) := by
  induction fuel generalizing rounds m s x with
  | zero =>
    obtain ⟨rounds, rfl⟩ := exists_round hrounds
    refine joinMore_step hoperand h hn hrounds fun _ _ hlimit _ _ => ?_
    exact absurd hfuel (Nat.not_le.mpr hlimit)
  | succ fuel ih =>
    obtain ⟨rounds, rfl⟩ := exists_round hrounds
    refine joinMore_step hoperand h hn hrounds fun h' hn' _ hgrown hshort => ih h' hn' ?_ ?_
    · rw [roundsFor] at hrounds ⊢
      omega
    · omega

lemma joined_tracked {r : Rank} (hoperand : Tracked n r.operand) : Tracked n (.joined r) := by
  intro rounds m s h hn hrounds
  obtain ⟨rounds, rfl⟩ := exists_round hrounds
  rw [roundsFor, frames_joined] at hrounds
  rw [parse, parserOf_joined]
  refine .bind (hoperand h hn (by rw [roundsFor]; omega)) fun x e t hx hbehind => ?_
  have hshort := parserOf_shortens hx
  refine joinMore_tracks hoperand hbehind hn ?_ (Nat.le_add_left _ _)
  rw [roundsFor, frames_joined]
  omega

lemma signs_tracks {operand unsigned : Run Expr} (h : m.At s)
    (hoperand : ∀ d, (m.moveTo d).At d → d.rest.length ≤ s.rest.length →
      Tracks operand (m.moveTo d) (signed n d))
    (hunsigned : Tracks unsigned (m.moveTo s.skipBlanks) (primary (inside n) s.skipBlanks)) :
    Tracks (signs operand unsigned) m (signed (n + 1) s) := by
  have hsign := (Leads.skipBlanks s).trans (.drop 1 _)
  have hskipped := h.behind.skipped.behind_skipped
  rw [signs, Grammar.signed_succ]
  split
  · next cs hcs =>
    have hplus : ['+'] <+: s.skipBlanks.rest := ⟨cs, hcs.symm⟩
    exact .after (eat_hit h.behind hplus) (hoperand _ (h.behind.dropped 1) hsign.length_le)
  · next cs hcs =>
    have hplus : ¬['+'] <+: s.skipBlanks.rest := by
      rw [hcs]
      simp
    have hminus : ['-'] <+: s.skipBlanks.rest := ⟨cs, hcs.symm⟩
    refine .after (eat_miss h.behind hplus) (.after (eat_hit hskipped hminus) ?_)
    refine .grow (h.behind.dropped 1) fun d hd hat => ?_
    refine .bind (hoperand d hat (hsign.trans (.grow hd)).length_le) fun x e t _ hbehind => ?_
    exact .pure _ hbehind
  · next hplus hminus =>
    refine .after (eat_miss h.behind (not_starting _ hplus)) ?_
    exact .after (eat_miss hskipped (not_starting _ hminus)) hunsigned

lemma signed_tracked_zero : Tracked 0 .signed := by
  intro rounds m s h hn hrounds
  obtain ⟨rounds, rfl⟩ := exists_round hrounds
  have hfails := enter_fails (Nat.sub_eq_zero_iff_le.mp hn)
  rw [h.position] at hfails
  rw [parse]
  exact .error (.fault hfails) (Nat.le_succ _)

lemma signed_tracked_succ (hsigned : Tracked n .signed) (hprimary : Tracked n .primary) :
    Tracked (n + 1) .signed := by
  intro rounds m s h hn hrounds
  obtain ⟨rounds, rfl⟩ := exists_round hrounds
  rw [roundsFor_signed] at hrounds
  have hlt : m.depth < nestingLimit := by omega
  have hn' : nestingLimit - (m.depth + 1) = n := by omega
  have hinside := h.withDepth (m.depth + 1)
  have hblanks := (Leads.skipBlanks s).length_le
  have hunsigned : Tracks (parse rounds .primary) _ _ :=
    hprimary hinside.behind.skipped hn' (by rw [roundsFor_primary]; omega)
  rw [parserOf_primary, Cursor.skipBlanks_skipBlanks] at hunsigned
  have hsigns : Tracks (signs (parse rounds .signed) _) _ _ :=
    signs_tracks hinside
      (fun d hat hlength => hsigned hat hn' (by rw [roundsFor_signed]; omega)) hunsigned
  rw [parse, parserOf]
  generalize signed (n + 1) s = result at hsigns ⊢
  cases hsigns with
  | ok hends hbehind =>
    exact .ok (.bind (enter_ends hlt) (leaving_ends hends rfl)) (hbehind.withDepth m.depth)
  | @error e m' hends hle =>
    obtain ⟨k, hk⟩ := Nat.exists_eq_add_of_le' hle
    refine .error (.bind (enter_ends hlt) (leaving_ends (n := m.depth + k) hends ?_)) ?_
    · dsimp only at hk
      omega
    · exact Nat.le_add_right _ _

lemma items_step {fuel : ℕ} (hitem : Tracked n (.joined .or)) (h : m.At s)
    (hn : nestingLimit - m.depth = n) (hrounds : roundsFor n (.joined .or) s.rest.length ≤ rounds)
    (hmore : ∀ {m' : Marker} {d : Cursor}, m'.At d → nestingLimit - m'.depth = n →
      d.rest.length < s.rest.length →
      Tracks (items rounds) m' (argumentsOf (parserOf n (.joined .or)) fuel d)) :
    Tracks (items (rounds + 1)) m (argumentsOf (parserOf n (.joined .or)) (fuel + 1) s) := by
  rw [items, argumentsOf]
  refine .bind (hitem h hn hrounds) fun x e t hx hbehind => ?_
  have hshort := parserOf_shortens hx
  dsimp only
  split
  · next cs hcs =>
    have hcomma : [','] <+: t.skipBlanks.rest := ⟨cs, hcs.symm⟩
    have hlength := ((Leads.skipBlanks t).trans (.drop 1 _)).length_le
    have hrest := hmore (hbehind.dropped 1) hn (hlength.trans_lt hshort)
    refine .after (eat_hit hbehind hcomma) (.bind hrest fun xs e t _ hbehind => ?_)
    exact .pure _ hbehind
  · next hother =>
    refine .after (eat_miss hbehind (not_starting _ hother)) ?_
    exact .close hbehind.skipped.behind_skipped fun d hat => .pure _ hat.behind

lemma items_tracks {fuel : ℕ} (hitem : Tracked n (.joined .or)) (h : m.At s)
    (hn : nestingLimit - m.depth = n) (hrounds : roundsFor n (.joined .or) s.rest.length < rounds)
    (hfuel : s.rest.length ≤ fuel) :
    Tracks (items rounds) m (argumentsOf (parserOf n (.joined .or)) fuel s) := by
  induction fuel generalizing rounds m s with
  | zero =>
    obtain ⟨rounds, rfl⟩ := Nat.exists_eq_add_one.mpr (Nat.zero_lt_of_lt hrounds)
    rw [items, argumentsOf]
    refine .bind (hitem h hn (Nat.le_of_lt_succ hrounds)) fun x e t hx _ => ?_
    have hshort := parserOf_shortens hx
    omega
  | succ fuel ih =>
    obtain ⟨rounds, rfl⟩ := Nat.exists_eq_add_one.mpr (Nat.zero_lt_of_lt hrounds)
    refine items_step hitem h hn (Nat.le_of_lt_succ hrounds) fun hat hn' hshort => ih hat hn' ?_ ?_
    · rw [roundsFor] at hrounds ⊢
      omega
    · omega

lemma callArguments_tracks {p : Run (List Expr)} {item : Parser Expr} (h : m.At s)
    (hitems : Tracks p (m.moveTo s.skipBlanks)
      (argumentsOf item s.skipBlanks.rest.length s.skipBlanks)) :
    Tracks (callArguments p) m (arguments item s) := by
  rw [callArguments, arguments]
  split
  · next cs hcs =>
    have hclosing : [')'] <+: s.skipBlanks.rest := ⟨cs, hcs.symm⟩
    exact .after (eat_hit h.behind hclosing) (.pure _ (h.behind.dropped 1).behind)
  · next hother => exact .after (eat_miss h.behind (not_starting _ hother)) hitems

lemma inside_tracks {α β : Type} {p : Run α} {f : α → Run β}
    {g : α × Cursor → Except CompileError (β × Cursor)} {wrap : Parser Expr → Parser α}
    (h : m.At s) (hn : nestingLimit - m.depth = n)
    (hwrap : ∀ {k : ℕ} {m' : Marker}, n = k + 1 → m'.At s → nestingLimit - m'.depth = k →
      Tracks p m' (wrap (parserOf k (.joined .or)) s))
    (hf : ∀ x d e, (m.moveTo e).Behind d → Tracks (f x) (m.moveTo e) (g (x, d))) :
    Tracks (do enter; let x ← p; leave; f x) m (nested ((inside n).map wrap) s >>= g) := by
  refine .nested h (fun hnone => ?_) (fun q hq => ?_) hf
  · cases n with
    | zero => exact Nat.sub_eq_zero_iff_le.mp hn
    | succ k => contradiction
  · cases n with
    | zero => contradiction
    | succ k =>
      obtain rfl := Option.mem_some.mp hq
      refine ⟨by omega, hwrap rfl (h.withDepth _) ?_⟩
      dsimp only
      omega

section Inside

variable (hinner : ∀ k, n = k + 1 → Tracked k (.joined .or)) (h : m.At s)
  (hn : nestingLimit - m.depth = n) (hrounds : roundsFor n .primary s.rest.length ≤ rounds + 1)

include hinner h hn hrounds

lemma identifier_tracks :
    Tracks (identifier (items rounds)) m (nameOrCall (inside n) s) := by
  have hbehind := (h.moveTo (.span continuesName s)).behind
  rw [nameOrCall]
  dsimp only [Cursor.span_fst]
  split
  · next cs hcs =>
    have hopening : ['('] <+: (s.span continuesName).2.skipBlanks.rest := ⟨cs, hcs.symm⟩
    rw [identifier]
    refine .stay (.get m) (.after (name_ends h) (.after (eat_hit hbehind hopening) ?_))
    rw [if_pos rfl, h.position]
    cases Builtin.ofName? (String.ofList (s.rest.takeWhile continuesName)) with
    | none => exact .fault _ _
    | some f =>
      refine inside_tracks (hbehind.dropped 1) hn (fun hk hat hdepth => ?_) ?_
      · refine callArguments_tracks hat (items_tracks (hinner _ hk) hat.behind.skipped hdepth ?_ ?_)
        · have hlength := ((Leads.span continuesName s).trans (.skipBlanks _)).length_le
          have hskipped := (Leads.skipBlanks ((s.span continuesName).2.skipBlanks.drop 1)).length_le
          rw [hcs, List.length_cons] at hlength
          rw [Cursor.drop_rest, hcs, List.drop_one, List.tail_cons] at hskipped
          rw [roundsFor_primary] at hrounds
          rw [roundsFor_or]
          omega
        · exact Nat.le_refl _
      · exact fun args d e hargs => .pure _ hargs
  · next hother =>
    rw [identifier]
    refine .stay (.get m) (.after (name_ends h) ?_)
    refine .after (eat_miss hbehind (not_starting _ hother)) ?_
    exact .pure _ hbehind.skipped.behind_skipped

lemma group_tracks {cs : List Char} (hs : s.rest = '(' :: cs) :
    Tracks (do bump; enter; let x ← parse rounds (.joined .or); leave; expect ')'; return x) m
      (group (inside n) s) := by
  have hsame : (inside n).map id = inside n := by simp
  rw [group, ← hsame]
  refine .after (bump_ends h hs) ?_
  refine inside_tracks (h.moveTo (.drop 1 s)) hn (fun hk hat hdepth => ?_) ?_
  · refine hinner _ hk hat hdepth ?_
    rw [roundsFor_primary, hs, List.length_cons] at hrounds
    rw [roundsFor_or, Cursor.drop_rest, hs, List.drop_one, List.tail_cons]
    omega
  · exact fun x d e hbehind => .close hbehind fun d hat => .pure _ hat.behind

end Inside

lemma primary_tracked (hinner : ∀ k, n = k + 1 → Tracked k (.joined .or)) : Tracked n .primary := by
  intro rounds m s h hn hrounds
  obtain ⟨rounds, rfl⟩ := exists_round hrounds
  have hlength := (Leads.skipBlanks s).length_le
  have hat := h.behind.skipped
  rw [parse, parserOf_primary]
  refine .after (skipBlanks_ends h.behind) (.stay (peek_ends hat) ?_)
  rw [primary.eq_def]
  generalize s.skipBlanks = c at hat hlength ⊢
  have hrounds : roundsFor n .primary c.rest.length ≤ rounds + 1 := by
    rw [roundsFor] at hrounds ⊢
    omega
  cases hcs : c.rest with
  | nil => exact .stay (.get _) (.fault _ _)
  | cons ch cs =>
    dsimp only [List.head?_cons]
    refine .ite (fun hopening => ?_) fun _ => ?_
    · exact group_tracks hinner hat hn hrounds (hopening ▸ hcs)
    refine .ite (fun hnumber => number_tracks hat hcs (by simpa using hnumber)) fun _ => ?_
    refine .ite (fun hpercent => delimitedName_tracks hat (hpercent ▸ hcs)) fun _ => ?_
    refine .ite (fun _ => identifier_tracks hinner hat hn hrounds) fun _ => ?_
    exact .stay (.get _) (.fault _ _)

lemma tracked (n : ℕ) (c : Category) : Tracked n c := by
  have hall : Tracked n .signed ∧ Tracked n .primary := by
    induction n with
    | zero => exact ⟨signed_tracked_zero, primary_tracked fun _ hk => by contradiction⟩
    | succ n ih =>
      refine ⟨signed_tracked_succ ih.1 ih.2, primary_tracked fun k hk => ?_⟩
      obtain rfl := Nat.succ.inj hk
      exact joined_of_operand ih.1 (fun _ => joined_tracked) .or
  cases c with
  | joined r => exact joined_of_operand hall.1 (fun _ => joined_tracked) r
  | signed => exact hall.1
  | primary => exact hall.2

end

structure Marker.PassedOver (m : Marker) (x : Expr) (m' : Marker) : Prop where
  position : m.position < m'.position
  boundary : m'.OnBoundary
  text : m'.text = m.text
  depth : m'.depth = m.depth
  operators : m'.operators = m.operators + x.operatorCount

/-- Wherever a marker stands between two characters, the descent into a category comes to an end
without a crash, and to the same end with any number of rounds from some on. The result is that of
the category's parser on the text from there on, and where that is an expression, the marker has
passed over it. -/
theorem parse_ends (c : Category) (m : Marker) (h : m.OnBoundary) :
    ∃ s result m', m.At s ∧
      (∀ rounds, roundsFor (nestingLimit - m.depth) c s.rest.length ≤ rounds →
        Ends (parse rounds c) m result m') ∧
      result = (parserOf (nestingLimit - m.depth) c s).map Prod.fst ∧
      ∀ x, result = .ok x → m.PassedOver x m' := by
  obtain ⟨s, hs⟩ := h.exists_at
  have htracks := tracked _ c hs rfl (Nat.le_refl _)
  generalize hq : parserOf (nestingLimit - m.depth) c s = q at htracks
  cases htracks with
  | @error e m' hends _ =>
    refine ⟨s, _, m', hs, fun _ => parse_ends_more hends, ?_, fun x hx => by contradiction⟩
    rw [hq]
    rfl
  | @ok x e d hends hbehind =>
    have hpassed : m.PassedOver x (m.moveTo e) := by
      refine ⟨?_, hbehind.onBoundary, rfl, rfl, ?_⟩
      · rw [hs.position]
        exact (parserOf_position hq).trans_le hbehind.position_le
      · rw [hbehind.operators, hs.operators, parserOf_operators hq]
    refine ⟨s, _, m.moveTo e, hs, fun _ => parse_ends_more hends, ?_, fun y hy => ?_⟩
    · rw [hq]
      rfl
    · exact Except.ok.inj hy ▸ hpassed

def wideMarker : Marker := ⟨"공격 + -방어", 8, 3, 1⟩

theorem parse_ends_wide : wideMarker.OnBoundary ∧
    ∃ x m', (∀ rounds, 1525 ≤ rounds → Ends (parse rounds (.joined .sum)) wideMarker (.ok x) m') ∧
      wideMarker.PassedOver x m' := by
  have hboundary : wideMarker.OnBoundary := by
    rw [Marker.OnBoundary]
    decide
  obtain ⟨s, result, m', hat, hends, hresult, hpasses⟩ :=
    parse_ends (.joined .sum) wideMarker hboundary
  obtain rfl : s = ⟨[' ', '-', '방', '어'], 8, 1⟩ := hat.unique ⟨rfl, rfl, rfl⟩
  have hok : (parserOf (nestingLimit - 3) (.joined .sum)
      ⟨[' ', '-', '방', '어'], 8, 1⟩).isOk = true := by decide +kernel
  change result = (parserOf (nestingLimit - 3) _ _).map _ at hresult
  cases hq : parserOf (nestingLimit - 3) (.joined .sum) ⟨[' ', '-', '방', '어'], 8, 1⟩ with
  | error e =>
    rw [hq] at hok
    contradiction
  | ok y =>
    rw [hq] at hresult
    subst hresult
    exact ⟨hboundary, y.1, m', fun rounds hle => hends rounds hle, hpasses y.1 rfl⟩

theorem compileAll_ends (text : String) {rounds : ℕ}
    (hrounds : roundsFor nestingLimit (.joined .or) text.length ≤ rounds) :
    ∃ m', Ends (compileAll rounds) ⟨text, 0, 0, 0⟩ (compile text) m' := by
  have hat : (⟨text, 0, 0, 0⟩ : Marker).At (.start text.toList) := ⟨sliceFrom_zero _, rfl, rfl⟩
  have htracks := tracked nestingLimit (.joined .or) hat rfl hrounds
  rw [compile]
  change Tracks _ _ (expression (Cursor.start text.toList)) at htracks
  generalize expression (Cursor.start text.toList) = q at htracks ⊢
  cases htracks with
  | error hends _ => exact ⟨_, .fault hends⟩
  | @ok x e d hends hbehind =>
    have hat := hbehind.skipped
    have hpeek := peek_ends hat
    refine ⟨(Marker.moveTo ⟨text, 0, 0, 0⟩ e).moveTo d.skipBlanks, ?_⟩
    refine .bind hends (.bind (skipBlanks_ends hbehind) (.bind hpeek ?_))
    change Ends _ _ (if d.skipBlanks.rest.isEmpty then _ else d.skipBlanks.failHere) _
    rw [Cursor.failHere, Cursor.fail, ← hat.position]
    cases d.skipBlanks.rest with
    | nil => exact .pure x _
    | cons ch cs => exact .bind (.get _) (.throw _ _)

end DerivedStats.Formula
