import DerivedStats.Proofs.Formula.Lexemes

/-! The descent through the categories of the grammar, on a marker. Every call takes a round, and to
be given more rounds than it takes makes no difference to it. -/

namespace DerivedStats.Formula

open Grammar (Category Rank)

namespace Marker

def signs (operand unsigned : Run Expr) : Run Expr := do
  if ← eat ['+'] then operand
  else if ← eat ['-'] then
    grow
    return .binary .sub (.number 0) (← operand)
  else unsigned

def callArguments (items : Run (List Expr)) : Run (List Expr) := do
  if ← eat [')'] then return [] else items

def identifier (items : Run (List Expr)) : Run Expr := do
  let start := (← get).position
  let name := String.ofList (← name)
  if ← eat ['('] then
    match Builtin.ofName? name with
    | none => fault (.unknownFunction name) start
    | some f =>
      enter
      let args ← callArguments items
      leave
      return .call f args
  else return .var name

mutual

/-- Reads a phrase of the category; the rounds bound how deep the descent goes. -/
def parse : ℕ → Category → Run Expr
  | 0, _ => outOfRounds
  | rounds + 1, .joined r => do joinMore rounds r (← parse rounds r.operand)
  | rounds + 1, .signed => do
    enter
    leaving (signs (parse rounds .signed) (parse rounds .primary))
  | rounds + 1, .primary => do
    skipBlanks
    match ← peek with
    | none => fault .unexpectedEnd (← get).position
    | some ch =>
      if ch = '(' then
        bump
        enter
        let x ← parse rounds (.joined .or)
        leave
        expect ')'
        return x
      else if Decimal.isDigit ch || ch = '.' then number
      else if ch = '%' then delimitedName
      else if startsName ch then identifier (items rounds)
      else fault (.unexpectedChar ch) (← get).position

def joinMore : ℕ → Rank → Expr → Run Expr
  | 0, _, _ => outOfRounds
  | rounds + 1, r, x => do
    match ← operatorAt r with
    | none => return x
    | some op =>
      grow
      joinMore rounds r (.binary op x (← parse rounds r.operand))

def items : ℕ → Run (List Expr)
  | 0 => outOfRounds
  | rounds + 1 => do
    let x ← parse rounds (.joined .or)
    if ← eat [','] then return x :: (← items rounds)
    else
      expect ')'
      return [x]

end

def compileAll (rounds : ℕ) : Run Expr := do
  let x ← parse rounds (.joined .or)
  skipBlanks
  match ← peek with
  | none => return x
  | some ch => fault (.unexpectedChar ch) (← get).position

end Marker

open Marker

def Below {α : Type} (p q : Run α) : Prop :=
  ∀ m, ∀ y ∈ (p.run.run m).run, y ∈ (q.run.run m).run

namespace Below

variable {α β : Type} {p q : Run α}

lemma refl (p : Run α) : Below p p := fun _ _ => id

lemma outOfRounds (p : Run α) : Below Marker.outOfRounds p := by
  intro m y hy
  contradiction

lemma bind {f g : α → Run β} (h : Below p q) (h' : ∀ x, Below (f x) (g x)) :
    Below (p >>= f) (q >>= g) := by
  intro m y hy
  rw [ExceptT.run_bind, StateT.run_bind, ExceptT.run_bind] at hy ⊢
  cases hp : (p.run.run m).run with
  | none =>
    rw [hp] at hy
    contradiction
  | some z =>
    rw [hp] at hy
    rw [h m z hp]
    obtain c | ⟨e | x, m₁⟩ := z
    · exact hy
    · exact hy
    · exact h' x m₁ y hy

lemma before {f g : α → Run β} (h : ∀ x, Below (f x) (g x)) : Below (p >>= f) (p >>= g) :=
  (refl p).bind h

lemma behind (h : Below p q) (f : α → Run β) : Below (p >>= f) (q >>= f) :=
  h.bind fun _ => refl _

lemma ite {P : Prop} [Decidable P] {p' q' : Run α} (h : Below p q) (h' : Below p' q') :
    Below (if P then p else p') (if P then q else q') := by
  split
  · exact h
  · exact h'

lemma leaving (h : Below p q) : Below (leaving p) (leaving q) := by
  intro m y hy
  change _ ∈ (((ExceptT.run p >>= _ : Steps (Except CompileError α))).run m).run at hy
  change _ ∈ (((ExceptT.run q >>= _ : Steps (Except CompileError α))).run m).run
  rw [StateT.run_bind, ExceptT.run_bind] at hy ⊢
  cases hp : (p.run.run m).run with
  | none =>
    rw [hp] at hy
    contradiction
  | some z =>
    rw [hp] at hy
    rw [h m z hp]
    exact hy

end Below

lemma signs_below {operand operand' unsigned unsigned' : Run Expr} (h : Below operand operand')
    (h' : Below unsigned unsigned') :
    Below (signs operand unsigned) (signs operand' unsigned') := by
  refine .before fun plus => .ite h (.before fun minus => .ite ?_ h')
  exact .before fun _ => h.behind _

lemma identifier_below {items items' : Run (List Expr)} (h : Below items items') :
    Below (identifier items) (identifier items') := by
  refine .before fun m => .before fun name => .before fun opening => .ite ?_ (.refl _)
  cases Builtin.ofName? (String.ofList name) with
  | none => exact .refl _
  | some f => exact .before fun _ => .behind (.before fun _ => .ite (.refl _) h) _

lemma below_succ (rounds : ℕ) :
    (∀ c, Below (parse rounds c) (parse (rounds + 1) c)) ∧
      (∀ r x, Below (joinMore rounds r x) (joinMore (rounds + 1) r x)) ∧
      Below (items rounds) (items (rounds + 1)) := by
  induction rounds with
  | zero =>
    refine ⟨fun c => ?_, fun r x => ?_, ?_⟩
    · rw [parse.eq_def]
      exact .outOfRounds _
    · rw [joinMore.eq_def]
      exact .outOfRounds _
    · rw [items.eq_def]
      exact .outOfRounds _
  | succ rounds ih =>
    obtain ⟨hparse, hmore, hitems⟩ := ih
    refine ⟨fun c => ?_, fun r x => ?_, ?_⟩
    · cases c with
      | joined r =>
        rw [parse, parse]
        exact (hparse _).bind fun x => hmore r x
      | signed =>
        rw [parse, parse]
        exact .before fun _ => (signs_below (hparse _) (hparse _)).leaving
      | primary =>
        rw [parse, parse]
        refine .before fun _ => .before fun next => ?_
        cases next with
        | none => exact .refl _
        | some ch =>
          refine .ite ?_ (.ite (.refl _) (.ite (.refl _) (.ite ?_ (.refl _))))
          · exact .before fun _ => .before fun _ => (hparse _).behind _
          · exact identifier_below hitems
    · rw [joinMore, joinMore]
      refine .before fun next => ?_
      cases next with
      | none => exact .refl _
      | some op => exact .before fun _ => (hparse _).bind fun y => hmore r _
    · rw [items, items]
      exact (hparse _).bind fun x => .before fun more => .ite (hitems.behind _) (.refl _)

lemma parse_ends_more {rounds more : ℕ} {c : Category} {m m' : Marker}
    {result : Except CompileError Expr} (h : Ends (parse rounds c) m result m')
    (hle : rounds ≤ more) : Ends (parse more c) m result m' := by
  induction hle with
  | refl => exact h
  | step _ ih => exact (below_succ _).1 c m _ ih

end DerivedStats.Formula
