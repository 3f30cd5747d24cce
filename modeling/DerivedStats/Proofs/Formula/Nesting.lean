import DerivedStats.Proofs.Formula.Grammar

/-! The levels of a phrase as they are written, where an operand takes none, against the levels that
the compiler counts. -/

namespace DerivedStats.Formula.Grammar

/-- `Written n c ts x`: the word `ts` is a phrase of category `c` for the expression `x`, in which
parentheses, calls and signs stand at most `n` deep inside one another. -/
inductive Written : ℕ → Category → List Token → Expr → Prop
  | operand {n : ℕ} {r : Rank} {ts : List Token} {x : Expr} :
      Written n r.operand ts x → Written n (.joined r) ts x
  | join {n : ℕ} {r : Rank} {op : Operator} {ts us : List Token} {x y : Expr} : rank op = r →
      Written n (.joined r) ts x → Written n r.operand us y →
      Written n (.joined r) (ts ++ .operator op :: us) (.binary op x y)
  | plus {n : ℕ} {ts : List Token} {x : Expr} :
      Written n .signed ts x → Written (n + 1) .signed (.operator .add :: ts) x
  | minus {n : ℕ} {ts : List Token} {x : Expr} : Written n .signed ts x →
      Written (n + 1) .signed (.operator .sub :: ts) (.binary .sub (.number 0) x)
  | unsigned {n : ℕ} {ts : List Token} {x : Expr} :
      Written n .primary ts x → Written n .signed ts x
  | number {n : ℕ} {cs : List Char} {value : Float} :
      Decimal.read (String.ofList cs) = some value →
      Written n .primary [.number cs] (.number value)
  | delimited {n : ℕ} {cs : List Char} : Text.trimmed cs ≠ [] →
      Written n .primary [.delimited cs] (.var (String.ofList (Text.trimmed cs)))
  | name {n : ℕ} {cs : List Char} : Written n .primary [.name cs] (.var (String.ofList cs))
  | call {n : ℕ} {f : Builtin} {cs : List Char} {args : List (List Token × Expr)} :
      Text.lower (String.ofList cs) = f.name →
      (∀ a ∈ args, Written n (.joined .or) a.1 a.2) →
      Written (n + 1) .primary
        (.name cs :: .opening :: [.comma].intercalate (args.map Prod.fst) ++ [.closing])
        (.call f (args.map Prod.snd))
  | group {n : ℕ} {ts : List Token} {x : Expr} : Written n (.joined .or) ts x →
      Written (n + 1) .primary (.opening :: ts ++ [.closing]) x

section

variable {m n : ℕ} {c : Category} {ts : List Token} {x : Expr}

lemma Derives.succ (h : Derives n c ts x) : Derives (n + 1) c ts x := by
  induction h with
  | operand _ ih => exact .operand ih
  | join hop _ _ ihx ihy => exact .join hop ihx ihy
  | plus _ ih => exact .plus ih
  | minus _ ih => exact .minus ih
  | unsigned _ ih => exact .unsigned ih
  | number hv => exact .number hv
  | delimited hname => exact .delimited hname
  | name => exact .name
  | call hf _ ih => exact .call hf ih
  | group _ ih => exact .group ih

lemma Derives.mono (h : Derives n c ts x) (hle : n ≤ m) : Derives m c ts x := by
  induction hle with
  | refl => exact h
  | step _ ih => exact ih.succ

lemma Written.succ (h : Written n c ts x) : Written (n + 1) c ts x := by
  induction h with
  | operand _ ih => exact .operand ih
  | join hop _ _ ihx ihy => exact .join hop ihx ihy
  | plus _ ih => exact .plus ih
  | minus _ ih => exact .minus ih
  | unsigned _ ih => exact .unsigned ih
  | number hv => exact .number hv
  | delimited hname => exact .delimited hname
  | name => exact .name
  | call hf _ ih => exact .call hf ih
  | group _ ih => exact .group ih

lemma Derives.written (h : Derives n c ts x) : Written n c ts x := by
  induction h with
  | operand _ ih => exact .operand ih
  | join hop _ _ ihx ihy => exact .join hop ihx ihy
  | plus _ ih => exact .plus ih
  | minus _ ih => exact .minus ih
  | unsigned _ ih => exact ih.unsigned.succ
  | number hv => exact .number hv
  | delimited hname => exact .delimited hname
  | name => exact .name
  | call hf _ ih => exact .call hf ih
  | group _ ih => exact .group ih

/-- The levels that the compiler may need for a phrase: two for each one that is written, and one for
the operand. -/
def Category.needs (n : ℕ) : Category → ℕ
  | .primary => 2 * n
  | _ => 2 * n + 1

lemma Category.needs_operand (n : ℕ) (r : Rank) : r.operand.needs n = 2 * n + 1 := by
  cases r <;> rfl

lemma Written.derives (h : Written n c ts x) : Derives (c.needs n) c ts x := by
  induction h with
  | operand _ ih =>
    rw [Category.needs_operand] at ih
    exact .operand ih
  | join hop _ _ ihx ihy =>
    rw [Category.needs_operand] at ihy
    exact .join hop ihx ihy
  | plus _ ih => exact ih.plus.succ
  | minus _ ih => exact ih.minus.succ
  | unsigned _ ih => exact ih.unsigned
  | number hv => exact .number hv
  | delimited hname => exact .delimited hname
  | name => exact .name
  | call hf _ ih => exact .call hf ih
  | group _ ih => exact .group ih

end

end DerivedStats.Formula.Grammar
