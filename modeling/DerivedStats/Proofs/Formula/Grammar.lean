import DerivedStats.Formula.Compile
import Mathlib.Data.Nat.Notation
import Mathlib.Tactic.Lemma

/-! The grammar of formulas, apart from the compiler: the words over tokens that derive an
expression, and the texts that spell a word. -/

namespace DerivedStats.Formula

mutual

def Expr.operatorCount : Expr → ℕ
  | .number _ => 0
  | .var _ => 0
  | .binary _ left right => left.operatorCount + right.operatorCount + 1
  | .call _ args => Expr.operatorCountOf args

def Expr.operatorCountOf : List Expr → ℕ
  | [] => 0
  | e :: es => e.operatorCount + Expr.operatorCountOf es

end

namespace Grammar

inductive Token
  | number (lexeme : List Char)
  | delimited (name : List Char)
  | name (name : List Char)
  | operator (op : Operator)
  | opening
  | closing
  | comma

def IsNumeral (cs : List Char) : Prop :=
  (∀ c ∈ cs, Decimal.isDigit c ∨ c = '.') ∧ cs.count '.' ≤ 1 ∧ cs ≠ [] ∧ cs ≠ ['.']

def Boundary (cs : List Char) : Prop := ∀ c ∈ cs.head?, ¬continuesName c

/-- `Reads t cs rest`: the text `cs` is a lexeme of the token `t`, followed by `rest`. A name and
the word `OR` extend as far as the characters of names do. -/
inductive Reads : Token → List Char → List Char → Prop
  | number {cs rest : List Char} : IsNumeral cs → Reads (.number cs) (cs ++ rest) rest
  | delimited {cs rest : List Char} : '%' ∉ cs → Reads (.delimited cs) ('%' :: cs ++ '%' :: rest) rest
  | name {c : Char} {cs rest : List Char} : startsName c → (∀ d ∈ cs, continuesName d) →
      Boundary rest → Reads (.name (c :: cs)) (c :: cs ++ rest) rest
  | symbol {op : Operator} {rest : List Char} : (op = .or → Boundary rest) →
      Reads (.operator op) (op.symbol.toList ++ rest) rest
  | bars {rest : List Char} : Reads (.operator .or) ('|' :: '|' :: rest) rest
  | opening {rest : List Char} : Reads .opening ('(' :: rest) rest
  | closing {rest : List Char} : Reads .closing (')' :: rest) rest
  | comma {rest : List Char} : Reads .comma (',' :: rest) rest

/-- The text consists of the tokens, with blanks before, between and behind them. -/
inductive Spelled : List Token → List Char → Prop
  | done {blanks : List Char} : (∀ c ∈ blanks, Text.isBlank c) → Spelled [] blanks
  | token {blanks cs rest : List Char} {t : Token} {ts : List Token} :
      (∀ c ∈ blanks, Text.isBlank c) → Reads t cs rest → Spelled ts rest →
      Spelled (t :: ts) (blanks ++ cs)

inductive Rank
  | or | equality | relation | sum | product
deriving DecidableEq

def rank : Operator → Rank
  | .or => .or
  | .eq | .ne => .equality
  | .gt | .lt | .ge | .le => .relation
  | .add | .sub => .sum
  | .mul | .div => .product

inductive Category
  | joined (r : Rank)
  | signed
  | primary

def Rank.operand : Rank → Category
  | .or => .joined .equality
  | .equality => .joined .relation
  | .relation => .joined .sum
  | .sum => .joined .product
  | .product => .signed

/-- `Derives n c ts x`: the word `ts` is a phrase of category `c` for the expression `x`, nested at
most `n` levels deep. Each step to a signed phrase takes a level, with a sign or without one, and
so does each pair of parentheses and each call. No two operands stand side by side, so a name in
front of an opening parenthesis is the name of a call. -/
inductive Derives : ℕ → Category → List Token → Expr → Prop
  | operand {n : ℕ} {r : Rank} {ts : List Token} {x : Expr} :
      Derives n r.operand ts x → Derives n (.joined r) ts x
  | join {n : ℕ} {r : Rank} {op : Operator} {ts us : List Token} {x y : Expr} : rank op = r →
      Derives n (.joined r) ts x → Derives n r.operand us y →
      Derives n (.joined r) (ts ++ .operator op :: us) (.binary op x y)
  | plus {n : ℕ} {ts : List Token} {x : Expr} :
      Derives n .signed ts x → Derives (n + 1) .signed (.operator .add :: ts) x
  | minus {n : ℕ} {ts : List Token} {x : Expr} : Derives n .signed ts x →
      Derives (n + 1) .signed (.operator .sub :: ts) (.binary .sub (.number 0) x)
  | unsigned {n : ℕ} {ts : List Token} {x : Expr} :
      Derives n .primary ts x → Derives (n + 1) .signed ts x
  | number {n : ℕ} {cs : List Char} {value : Float} :
      Decimal.read (String.ofList cs) = some value →
      Derives n .primary [.number cs] (.number value)
  | delimited {n : ℕ} {cs : List Char} : Text.trimmed cs ≠ [] →
      Derives n .primary [.delimited cs] (.var (String.ofList (Text.trimmed cs)))
  | name {n : ℕ} {cs : List Char} : Derives n .primary [.name cs] (.var (String.ofList cs))
  | call {n : ℕ} {f : Builtin} {cs : List Char} {args : List (List Token × Expr)} :
      Text.lower (String.ofList cs) = f.name →
      (∀ a ∈ args, Derives n (.joined .or) a.1 a.2) →
      Derives (n + 1) .primary
        (.name cs :: .opening :: [.comma].intercalate (args.map Prod.fst) ++ [.closing])
        (.call f (args.map Prod.snd))
  | group {n : ℕ} {ts : List Token} {x : Expr} : Derives n (.joined .or) ts x →
      Derives (n + 1) .primary (.opening :: ts ++ [.closing]) x

end Grammar

end DerivedStats.Formula
