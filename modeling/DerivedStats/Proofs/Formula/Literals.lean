import DerivedStats.Proofs.Formula.CompileComplete

/-! The formulas of one operand: a number or a name, possibly behind a minus sign. -/

namespace DerivedStats.Formula.Grammar

structure IsOperand (t : Token) (x : Expr) : Prop where
  derives : ∀ n, Derives n .primary [t] x
  operatorCount : x.operatorCount = 0

lemma isOperand_number {cs : List Char} {value : Float}
    (h : Decimal.read (String.ofList cs) = some value) :
    IsOperand (.number cs) (.number value) := ⟨fun _ => .number h, rfl⟩

lemma isOperand_delimited {cs : List Char} (h : Text.trimmed cs ≠ []) :
    IsOperand (.delimited cs) (.var (String.ofList (Text.trimmed cs))) :=
  ⟨fun _ => .delimited h, rfl⟩

lemma isOperand_name (cs : List Char) : IsOperand (.name cs) (.var (String.ofList cs)) :=
  ⟨fun _ => .name, rfl⟩

lemma spelled_number {cs : List Char} (h : IsNumeral cs) : Spelled [.number cs] cs := by
  have hreads := @Reads.number cs [] h
  rw [List.append_nil] at hreads
  exact .cons hreads (.done (List.forall_mem_nil _))

lemma spelled_name {c : Char} {cs : List Char} (hstart : startsName c)
    (hname : cs.all continuesName) : Spelled [.name (c :: cs)] (c :: cs) := by
  have hreads := @Reads.name c cs [] hstart (List.all_eq_true.mp hname) (by simp [Boundary])
  rw [List.append_nil] at hreads
  exact .cons hreads (.done (List.forall_mem_nil _))

section

variable {t : Token} {x : Expr}

lemma derives_of_signed {n : ℕ} {ts : List Token} (h : Derives n .signed ts x) :
    Derives n (.joined .or) ts x :=
  .operand (.operand (.operand (.operand (.operand h))))

lemma IsOperand.compile_eq {text : String} (h : IsOperand t x) (hs : Spelled [t] text.toList) :
    compile text = .ok x := by
  apply compile_complete hs
  · exact derives_of_signed (.unsigned (h.derives _))
  · rw [h.operatorCount]
    exact Nat.zero_le _

lemma IsOperand.compile_minus {cs : List Char} (h : IsOperand t x) (hs : Spelled [t] cs) :
    compile (String.ofList ('-' :: cs)) = .ok (.binary .sub (.number 0) x) := by
  have hsign : Reads (.operator .sub) ('-' :: cs) cs := @Reads.symbol .sub cs (by simp)
  apply compile_complete
  · rw [String.toList_ofList]
    exact .cons hsign hs
  · exact derives_of_signed (.minus (.unsigned (h.derives _)))
  · rw [Expr.operatorCount, h.operatorCount]
    decide

end

end DerivedStats.Formula.Grammar
