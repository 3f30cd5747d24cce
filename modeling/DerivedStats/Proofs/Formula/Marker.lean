import DerivedStats.Proofs.Formula.Offsets

/-! Reading a text through a marker that holds all of it, a byte offset and two counters that do not
wrap. To cut the text inside a character is a crash, as is to leave a level that was not entered,
and a reading that takes more rounds than it is given comes to nothing. The marker runs along with
the cursor that holds the rest of the text. -/

namespace DerivedStats.Formula

open Cursor (Leads)
open Text (isBlank)

structure Marker where
  text : String
  position : ℕ
  depth : ℕ
  operators : ℕ

inductive Crash
  | cut
  | level

abbrev Steps := StateT Marker (ExceptT Crash Option)

abbrev Run := ExceptT CompileError Steps

namespace Marker

def OnBoundary (m : Marker) : Prop := (⟨m.position⟩ : String.Pos.Raw).IsValid m.text

def crash {α : Type} (c : Crash) : Run α := throwThe Crash c

def outOfRounds {α : Type} : Run α := liftM (none : Option α)

def fault {α : Type} (f : Fault) (position : ℕ) : Run α := throw ⟨f, position⟩

def sliced (slice : Option (List Char)) : Run (List Char) :=
  match slice with
  | some cs => return cs
  | none => crash .cut

def rest : Run (List Char) := do
  let m ← get
  sliced (sliceFrom m.text.toList m.position)

def between (start stop : ℕ) : Run (List Char) := do
  let m ← get
  if stop < start then crash .cut
  else
    let back ← sliced (sliceFrom m.text.toList start)
    sliced (sliceTo back (stop - start))

def advance (bytes : ℕ) : Run Unit := modify fun m => { m with position := m.position + bytes }

def peek : Run (Option Char) := return (← rest).head?

def bump : Run Unit := do
  match ← peek with
  | some c => advance c.utf8Size
  | none => return

def skipRounds (p : Char → Bool) : ℕ → Run Unit
  | 0 => outOfRounds
  | rounds + 1 => do
    match ← peek with
    | some c => if p c then do bump; skipRounds p rounds else return
    | none => return

def skipWhile (p : Char → Bool) : Run Unit := do skipRounds p ((← rest).length + 1)

def skipBlanks : Run Unit := skipWhile isBlank

def faultHere {α : Type} : Run α := do
  match ← peek with
  | some c => fault (.unexpectedChar c) (← get).position
  | none => fault .unexpectedEnd (← get).position

def eat (token : List Char) : Run Bool := do
  skipBlanks
  if token <+: (← rest) then
    advance (byteSize token)
    return true
  else return false

def expect (ch : Char) : Run Unit := do
  skipBlanks
  if (← peek) = some ch then bump else faultHere

def eatFirst : List (List Char × Operator) → Run (Option Operator)
  | [] => return none
  | (token, op) :: more => do
    if ← eat token then return some op
    else eatFirst more

def enter : Run Unit := do
  modify fun m => { m with depth := m.depth + 1 }
  if nestingLimit < (← get).depth then fault .tooDeep (← get).position

def leave : Steps Unit := do
  match (← get).depth with
  | 0 => throwThe Crash .level
  | depth + 1 => modify fun m => { m with depth }

def leaving {α : Type} (p : Run α) : Run α :=
  (do
    let result ← ExceptT.run p
    leave
    return result : Steps (Except CompileError α))

def grow : Run Unit := do
  modify fun m => { m with operators := m.operators + 1 }
  if operatorLimit < (← get).operators then fault .tooDeep (← get).position

end Marker

def Ends {α : Type} (p : Run α) (m : Marker) (result : Except CompileError α) (m' : Marker) :
    Prop :=
  (p.run.run m).run = some (.ok (result, m'))

namespace Ends

variable {α β : Type} {p : Run α} {f : α → Run β} {m m₁ m₂ : Marker}

lemma pure (x : α) (m : Marker) : Ends (Pure.pure x) m (.ok x) m := rfl

lemma throw (e : CompileError) (m : Marker) : Ends (throw e : Run α) m (.error e) m := rfl

lemma get (m : Marker) : Ends (MonadState.get : Run Marker) m (.ok m) m := rfl

lemma modify (g : Marker → Marker) (m : Marker) : Ends (modify g : Run Unit) m (.ok ()) (g m) := rfl

lemma bind {x : α} {result : Except CompileError β} (h : Ends p m (.ok x) m₁)
    (h' : Ends (f x) m₁ result m₂) : Ends (p >>= f) m result m₂ := by
  rw [Ends, ExceptT.run_bind, StateT.run_bind, ExceptT.run_bind, h]
  exact h'

lemma fault {e : CompileError} (h : Ends p m (.error e) m₁) : Ends (p >>= f) m (.error e) m₁ := by
  rw [Ends, ExceptT.run_bind, StateT.run_bind, ExceptT.run_bind, h]
  rfl

end Ends

namespace Cursor

lemma span_cons {p : Char → Bool} {c : Cursor} {ch : Char} {cs : List Char} (hc : c.rest = ch :: cs)
    (hp : p ch) : (c.span p).2 = ((c.drop 1).span p).2 := by
  simp [span, drop, hc, hp, byteSize, Nat.add_assoc]

lemma span_of_head {p : Char → Bool} {c : Cursor} (h : ∀ ch ∈ c.rest.head?, ¬p ch) :
    (c.span p).2 = c := by
  have hnil : c.rest.takeWhile p = [] := by
    cases hc : c.rest with
    | nil => rfl
    | cons ch cs => exact List.takeWhile_cons_of_neg (h ch (by rw [hc]; rfl))
  simp [span, drop, hnil, byteSize]

lemma skipBlanks_skipBlanks (c : Cursor) : c.skipBlanks.skipBlanks = c.skipBlanks := by
  refine span_of_head fun ch hch hblank => ?_
  have hhead := List.head?_dropWhile_not isBlank c.rest
  rw [skipBlanks_rest] at hch
  rw [Option.mem_def.mp hch] at hhead
  simp [hblank] at hhead

end Cursor

namespace Marker

structure At (m : Marker) (c : Cursor) : Prop where
  rest : sliceFrom m.text.toList m.position = some c.rest
  position : m.position = c.position
  operators : m.operators = c.operators

def moveTo (m : Marker) (c : Cursor) : Marker :=
  { m with position := c.position, operators := c.operators }

variable {m : Marker} {c d : Cursor}

lemma At.unique (h : m.At c) (h' : m.At d) : c = d := by
  obtain ⟨rest, position, operators⟩ := c
  obtain rfl : rest = d.rest := Option.some.inj (h.rest.symm.trans h'.rest)
  obtain rfl : position = d.position := h.position.symm.trans h'.position
  obtain rfl : operators = d.operators := h.operators.symm.trans h'.operators
  rfl

lemma At.moveTo_self (h : m.At c) : m.moveTo c = m := by
  rw [moveTo, ← h.position, ← h.operators]

lemma At.moveTo {front : List Char} (h : m.At c) (hleads : Leads front c d) :
    (m.moveTo d).At d := by
  obtain ⟨before, htext, hsize⟩ := exists_of_sliceFrom h.rest
  have hposition : d.position = byteSize (before ++ front) := by
    rw [byteSize_append, hsize, h.position, hleads.position]
  rw [hleads.rest, ← List.append_assoc] at htext
  refine ⟨?_, rfl, rfl⟩
  change sliceFrom m.text.toList d.position = _
  rw [htext, hposition]
  exact sliceFrom_byteSize _ _

lemma sliced_ends {slice : Option (List Char)} {cs : List Char} (h : slice = some cs) :
    Ends (sliced slice) m (.ok cs) m := by
  rw [h]
  exact .pure cs m

lemma rest_ends (h : m.At c) : Ends rest m (.ok c.rest) m := .bind (.get m) (sliced_ends h.rest)

lemma peek_ends (h : m.At c) : Ends peek m (.ok c.rest.head?) m :=
  .bind (rest_ends h) (.pure _ m)

lemma bump_ends (h : m.At c) {ch : Char} {cs : List Char} (hc : c.rest = ch :: cs) :
    Ends bump m (.ok ()) (m.moveTo (c.drop 1)) := by
  refine .bind (peek_ends h) ?_
  rw [hc]
  have hmove : m.moveTo (c.drop 1) = { m with position := m.position + ch.utf8Size } := by
    simp [moveTo, Cursor.drop, hc, byteSize, h.position, h.operators]
  rw [hmove]
  exact .modify _ m

lemma skipRounds_ends (p : Char → Bool) (h : m.At c) {cs : List Char} (hcs : c.rest = cs) :
    Ends (skipRounds p (cs.length + 1)) m (.ok ()) (m.moveTo (c.span p).2) := by
  induction cs generalizing m c with
  | nil =>
    rw [skipRounds, Cursor.span_of_head (by simp [hcs]), h.moveTo_self]
    refine .bind (peek_ends h) ?_
    rw [hcs]
    exact .pure _ m
  | cons ch cs ih =>
    rw [skipRounds]
    refine .bind (peek_ends h) ?_
    rw [hcs]
    dsimp only [List.head?_cons]
    split
    · next hp =>
      refine .bind (bump_ends h hcs) ?_
      rw [Cursor.span_cons hcs hp]
      exact ih (h.moveTo (.drop 1 c)) (by simp [hcs])
    · next hp =>
      rw [Cursor.span_of_head (by simp [hcs, hp]), h.moveTo_self]
      exact .pure _ m

lemma skipWhile_ends (p : Char → Bool) (h : m.At c) :
    Ends (skipWhile p) m (.ok ()) (m.moveTo (c.span p).2) :=
  .bind (rest_ends h) (skipRounds_ends p h rfl)

lemma between_ends {m' : Marker} {front : List Char} (h : m.At c) (hleads : Leads front c d)
    (htext : m'.text = m.text) : Ends (between c.position d.position) m' (.ok front) m' := by
  have hle : c.position ≤ d.position := by
    rw [hleads.position]
    exact Nat.le_add_right _ _
  have hsize : d.position - c.position = byteSize front := by
    rw [hleads.position, Nat.add_sub_cancel_left]
  refine .bind (.get m') ?_
  rw [if_neg (Nat.not_lt.mpr hle), htext, ← h.position, h.position, hsize]
  refine .bind (sliced_ends (h.position ▸ h.rest)) (sliced_ends ?_)
  rw [hleads.rest]
  exact sliceTo_byteSize _ _

def Behind (m : Marker) (c : Cursor) : Prop :=
  ∃ d, m.At d ∧ d.skipBlanks = c.skipBlanks ∧ c.position ≤ d.position

lemma At.behind (h : m.At c) : m.Behind c := ⟨c, h, rfl, Nat.le_refl _⟩

lemma At.behind_skipped (h : m.At c.skipBlanks) : m.Behind c := by
  refine ⟨_, h, Cursor.skipBlanks_skipBlanks c, ?_⟩
  rw [(Leads.skipBlanks c).position]
  exact Nat.le_add_right _ _

lemma At.withDepth (h : m.At c) (depth : ℕ) : { m with depth }.At c :=
  ⟨h.rest, h.position, h.operators⟩

namespace Behind

lemma withDepth (h : m.Behind c) (depth : ℕ) : { m with depth }.Behind c := by
  obtain ⟨d, hd, hblanks⟩ := h
  exact ⟨d, hd.withDepth depth, hblanks⟩

lemma skipped (h : m.Behind c) : (m.moveTo c.skipBlanks).At c.skipBlanks := by
  obtain ⟨d, hd, heq, -⟩ := h
  rw [← heq]
  exact hd.moveTo (.skipBlanks d)

lemma dropped (h : m.Behind c) (n : ℕ) :
    (m.moveTo (c.skipBlanks.drop n)).At (c.skipBlanks.drop n) :=
  h.skipped.moveTo (.drop n _)

lemma operators (h : m.Behind c) : m.operators = c.operators := by
  obtain ⟨d, hd, heq, -⟩ := h
  rw [hd.operators, ← Cursor.skipBlanks_operators d, heq, Cursor.skipBlanks_operators]

lemma onBoundary (h : m.Behind c) : m.OnBoundary := by
  obtain ⟨d, hd, -, -⟩ := h
  exact isValid_iff_sliceFrom.mpr ⟨_, hd.rest⟩

lemma position_le (h : m.Behind c) : c.position ≤ m.position := by
  obtain ⟨d, hd, -, hle⟩ := h
  rwa [hd.position]

end Behind

lemma OnBoundary.exists_at (h : m.OnBoundary) : ∃ c, m.At c := by
  obtain ⟨rest, hrest⟩ := isValid_iff_sliceFrom.mp h
  exact ⟨⟨rest, m.position, m.operators⟩, hrest, rfl, rfl⟩

lemma skipBlanks_ends (h : m.Behind c) : Ends skipBlanks m (.ok ()) (m.moveTo c.skipBlanks) := by
  obtain ⟨d, hd, heq, -⟩ := h
  rw [← heq]
  exact skipWhile_ends isBlank hd

lemma eat_hit (h : m.Behind c) {token : List Char} (ht : token <+: c.skipBlanks.rest) :
    Ends (eat token) m (.ok true) (m.moveTo (c.skipBlanks.drop token.length)) := by
  have hmove : m.moveTo (c.skipBlanks.drop token.length) = { m.moveTo c.skipBlanks with
      position := (m.moveTo c.skipBlanks).position + byteSize token } := by
    rw [moveTo, Cursor.drop, ← List.prefix_iff_eq_take.mp ht]
    rfl
  refine .bind (skipBlanks_ends h) (.bind (rest_ends h.skipped) ?_)
  rw [if_pos ht, hmove]
  exact .bind (.modify _ _) (.pure _ _)

lemma eat_miss (h : m.Behind c) {token : List Char} (ht : ¬token <+: c.skipBlanks.rest) :
    Ends (eat token) m (.ok false) (m.moveTo c.skipBlanks) := by
  refine .bind (skipBlanks_ends h) (.bind (rest_ends h.skipped) ?_)
  rw [if_neg ht]
  exact .pure _ _

lemma faultHere_ends {α β : Type} (h : m.At c) :
    ∃ e, (c.failHere : Except CompileError β) = .error e ∧
      Ends (faultHere : Run α) m (.error e) m := by
  have hpeek := peek_ends h
  simp only [Cursor.failHere, Cursor.fail, ← h.position]
  cases hc : c.rest with
  | nil =>
    rw [hc] at hpeek
    exact ⟨_, rfl, .bind hpeek (.bind (.get m) (.throw _ m))⟩
  | cons ch cs =>
    rw [hc] at hpeek
    exact ⟨_, rfl, .bind hpeek (.bind (.get m) (.throw _ m))⟩

def firstOf (cs : List Char) : List (List Char × Operator) → Option (Operator × ℕ)
  | [] => none
  | (token, op) :: more => if token <+: cs then some (op, token.length) else firstOf cs more

lemma eatFirst_hit {op : Operator} {k : ℕ} {tokens : List (List Char × Operator)} (h : m.Behind c)
    (hs : firstOf c.skipBlanks.rest tokens = some (op, k)) :
    Ends (eatFirst tokens) m (.ok (some op)) (m.moveTo (c.skipBlanks.drop k)) := by
  induction tokens generalizing m with
  | nil => contradiction
  | cons t tokens ih =>
    rw [firstOf] at hs
    rw [eatFirst]
    split at hs
    · next ht =>
      obtain ⟨rfl, rfl⟩ := by simpa using hs
      exact .bind (eat_hit h ht) (.pure _ _)
    · next ht => exact .bind (eat_miss h ht) (ih h.skipped.behind_skipped hs)

lemma eatFirst_stays {tokens : List (List Char × Operator)} (h : m.At c.skipBlanks)
    (hs : firstOf c.skipBlanks.rest tokens = none) : Ends (eatFirst tokens) m (.ok none) m := by
  induction tokens with
  | nil => exact .pure _ m
  | cons t tokens ih =>
    rw [firstOf, ite_eq_iff] at hs
    obtain ⟨-, hnone⟩ | ⟨ht, hs⟩ := hs
    · contradiction
    · have hmiss := eat_miss h.behind_skipped ht
      rw [h.moveTo_self] at hmiss
      exact .bind hmiss (ih hs)

lemma eatFirst_miss {t : List Char × Operator} {tokens : List (List Char × Operator)}
    (h : m.Behind c) (hs : firstOf c.skipBlanks.rest (t :: tokens) = none) :
    Ends (eatFirst (t :: tokens)) m (.ok none) (m.moveTo c.skipBlanks) := by
  rw [firstOf, ite_eq_iff] at hs
  obtain ⟨-, hnone⟩ | ⟨ht, hs⟩ := hs
  · contradiction
  · exact .bind (eat_miss h ht) (eatFirst_stays h.skipped hs)

lemma enter_ends (h : m.depth < nestingLimit) :
    Ends enter m (.ok ()) { m with depth := m.depth + 1 } := by
  refine .bind (.modify _ m) (.bind (.get _) ?_)
  rw [if_neg (Nat.not_lt.mpr h)]
  exact .pure _ _

lemma enter_fails (h : nestingLimit ≤ m.depth) :
    Ends enter m (.error ⟨.tooDeep, m.position⟩) { m with depth := m.depth + 1 } := by
  refine .bind (.modify _ m) (.bind (.get _) ?_)
  rw [if_pos (Nat.lt_succ_of_le h)]
  exact .bind (.get _) (.throw _ _)

lemma leave_ends {n : ℕ} (h : m.depth = n + 1) :
    Ends (liftM leave : Run Unit) m (.ok ()) { m with depth := n } := by
  obtain ⟨text, position, depth, operators⟩ := m
  obtain rfl : depth = n + 1 := h
  rfl

lemma leaving_ends {α : Type} {p : Run α} {result : Except CompileError α} {m' : Marker} {n : ℕ}
    (h : Ends p m result m') (hd : m'.depth = n + 1) :
    Ends (leaving p) m result { m' with depth := n } := by
  obtain ⟨text, position, depth, operators⟩ := m'
  obtain rfl : depth = n + 1 := hd
  change ((ExceptT.run p >>= _ : Steps (Except CompileError α)).run m).run = _
  rw [StateT.run_bind, ExceptT.run_bind, h]
  rfl

lemma grow_ends (h : m.At c) (hd : c.grow = .ok d) : Ends grow m (.ok ()) (m.moveTo d) := by
  rw [Cursor.grow] at hd
  split at hd
  · contradiction
  · next hle =>
    obtain rfl := Except.ok.inj hd
    refine .bind (.modify _ m) (.bind (.get _) ?_)
    rw [if_neg (by rwa [h.operators]), moveTo, ← h.position, ← h.operators]
    exact .pure _ _

lemma grow_fails (h : m.At c) {e : CompileError} (he : c.grow = .error e) :
    Ends grow m (.error e) { m with operators := m.operators + 1 } := by
  rw [Cursor.grow] at he
  split at he
  · next hlt =>
    obtain rfl := Except.error.inj he
    refine .bind (.modify _ m) (.bind (.get _) ?_)
    rw [if_pos (by rwa [h.operators]), ← h.position]
    exact .bind (.get _) (.throw _ _)
  · contradiction

end Marker

end DerivedStats.Formula
