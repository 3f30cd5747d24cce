import DerivedStats.Decimal.Layout
import DerivedStats.Decimal.Numeral
import Mathlib.Tactic.Lemma

/-! Natural numbers written as digits, and digits read as natural numbers. -/

namespace DerivedStats.Decimal

lemma foldl_toDigits {base : Nat} {value : Char → Nat} (hbase : 1 < base)
    (hvalue : ∀ d < base, value d.digitChar = d) (n : Nat) :
    (Nat.toDigits base n).foldl (fun m c => base * m + value c) 0 = n := by
  induction n using Nat.strongRecOn with
  | ind n ih =>
    rw [Nat.toDigits_eq_if hbase]
    split
    · next h => simp [hvalue n h]
    · next h =>
      have hsmaller : n / base < n := Nat.div_lt_self (by omega) hbase
      rw [List.foldl_append, ih _ hsmaller, List.foldl_cons, List.foldl_nil,
        hvalue _ (Nat.mod_lt _ (by omega)), Nat.div_add_mod]

lemma toDigits_head {base : Nat} (hbase : 1 < base) {n : Nat} (hn : n ≠ 0) :
    ∃ d, d < base ∧ d ≠ 0 ∧ (Nat.toDigits base n).head? = some d.digitChar := by
  induction n using Nat.strongRecOn with
  | ind n ih =>
    rw [Nat.toDigits_eq_if hbase]
    split
    · next h => exact ⟨n, h, hn, rfl⟩
    · next h =>
      have hquotient : n / base ≠ 0 := Nat.div_ne_zero_iff.mpr ⟨by omega, by omega⟩
      obtain ⟨d, hd, hzero, hhead⟩ := ih _ (Nat.div_lt_self (by omega) hbase) hquotient
      refine ⟨d, hd, hzero, ?_⟩
      rw [List.head?_append, hhead]
      rfl

lemma mem_toDigits {base : Nat} (hbase : 1 < base) {n : Nat} {c : Char}
    (hc : c ∈ Nat.toDigits base n) : ∃ d < base, c = d.digitChar := by
  induction n using Nat.strongRecOn with
  | ind n ih =>
    rw [Nat.toDigits_eq_if hbase] at hc
    split at hc
    · next h => exact ⟨n, h, List.mem_singleton.mp hc⟩
    · next h =>
      obtain hc | hc := List.mem_append.mp hc
      · exact ih _ (Nat.div_lt_self (by omega) hbase) hc
      · exact ⟨n % base, Nat.mod_lt _ (by omega), List.mem_singleton.mp hc⟩

lemma isDigit_digitChar : ∀ d < 10, isDigit d.digitChar = true ∧ digitValue d.digitChar = d := by
  decide

lemma isDigit_of_mem_digits {n : Nat} {c : Char} (hc : c ∈ digits n) : isDigit c = true := by
  obtain ⟨d, hd, rfl⟩ := mem_toDigits (by omega) hc
  exact (isDigit_digitChar d hd).1

lemma digits_ne_nil (n : Nat) : digits n ≠ [] := Nat.toDigits_ne_nil

lemma digits_zero : digits 0 = ['0'] := rfl

lemma digits_head_ne_zero {n : Nat} (hn : n ≠ 0) : (digits n).head? ≠ some '0' := by
  obtain ⟨d, hd, hzero, hhead⟩ := toDigits_head (by omega : 1 < 10) hn
  rw [digits, hhead, ne_eq, Option.some.injEq]
  intro heq
  have hvalue := (isDigit_digitChar d hd).2
  rw [heq] at hvalue
  exact hzero hvalue.symm

lemma toList_toString (n : Int) :
    (toString n).toList = (if n < 0 then ['-'] else []) ++ digits n.natAbs := by
  cases n with
  | ofNat n =>
    change (Nat.repr n).toList = _
    simp [Nat.toList_repr, digits]
  | negSucc n =>
    have hsign : Int.negSucc n < 0 := Int.negSucc_lt_zero n
    change ("-" ++ Nat.repr (n + 1)).toList = _
    simp [Nat.toList_repr, digits, hsign]

lemma naturalOf_digits (n : Nat) : naturalOf (digits n) = n :=
  foldl_toDigits (by omega) (fun d hd => (isDigit_digitChar d hd).2) n

end DerivedStats.Decimal
