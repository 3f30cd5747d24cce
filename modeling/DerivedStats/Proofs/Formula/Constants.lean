import DerivedStats.Decimal.Layout
import DerivedStats.Formula.Evaluate
import DerivedStats.Proofs.Decimal.Digits
import DerivedStats.Proofs.Decimal.Nearness
import DerivedStats.Proofs.Formula.Literals

/-! Numbers written as formulas: what is written for a finite number means this number. -/

namespace DerivedStats.Formula

open Decimal (IsNearest Rounds digits isDigit isNegative magnitude magnitudeBits naturalOf nearest nearestOf
  positional)
open Grammar (Digits IsNumeral)

/-- The text is a formula without names that has this value in every scope and draws nothing. -/
def Constant (text : String) (y : Float) : Prop :=
  ∃ e, compile text = .ok e ∧ e.variables = [] ∧ ∀ s drawn, e.evaluate s drawn = (.ok y, drawn)

def Denotes (cs : List Char) (r : ℚ) : Prop :=
  IsNumeral cs ∧ ∃ (c : ℕ) (e : ℤ), e ≤ 0 ∧ c * 10 ^ e = r ∧
    Decimal.read (String.ofList cs) = some (nearest c e)

section

variable {ds : List Char} {k : ℕ}

lemma digits_digits (n : ℕ) : Digits (digits n) := fun _ hc => Decimal.isDigit_of_mem_digits hc

lemma digits_zeros (k : ℕ) : Digits (List.replicate k '0') := by
  intro c hc
  rw [List.eq_of_mem_replicate hc]
  rfl

lemma naturalOf_append_zeros (ds : List Char) (k : ℕ) :
    naturalOf (ds ++ List.replicate k '0') = naturalOf ds * 10 ^ k := by
  induction k with
  | zero => simp
  | succ k ih =>
    rw [List.replicate_succ', ← List.append_assoc, naturalOf, List.foldl_append, ← naturalOf, ih,
      pow_succ]
    change 10 * _ + 0 = _
    ring

lemma naturalOf_zeros_append (k : ℕ) (ds : List Char) :
    naturalOf (List.replicate k '0' ++ ds) = naturalOf ds := by
  induction k with
  | zero => rfl
  | succ k ih => exact ih

lemma denotes_whole (hd : Digits ds) (hne : ds ≠ []) : Denotes ds (naturalOf ds) := by
  refine ⟨Grammar.isNumeral_whole hd hne, naturalOf ds, 0, le_rfl, by simp, ?_⟩
  rw [Grammar.read_whole hd hne, nearestOf, List.append_nil]
  rfl

lemma denotes_places (hd : Digits ds) (hk : k < ds.length) :
    Denotes (ds.take (ds.length - k) ++ '.' :: ds.drop (ds.length - k))
      (naturalOf ds * 10 ^ (-k : ℤ)) := by
  have hwhole : Digits (ds.take (ds.length - k)) := fun c hc => hd c (List.mem_of_mem_take hc)
  have hfraction : Digits (ds.drop (ds.length - k)) := fun c hc => hd c (List.mem_of_mem_drop hc)
  have hne : ds.take (ds.length - k) ≠ [] := by
    apply List.ne_nil_of_length_pos
    rw [List.length_take]
    omega
  refine ⟨Grammar.isNumeral_pointed hwhole hfraction (.inl hne), naturalOf ds, -k, by simp, rfl, ?_⟩
  rw [Grammar.read_pointed hwhole hfraction (.inl hne), nearestOf, List.take_append_drop,
    List.length_drop, Nat.sub_sub_self hk.le, zero_sub]

lemma denotes_digits (n : ℕ) : Denotes (digits n) n := by
  have hdenotes := denotes_whole (digits_digits n) (Decimal.digits_ne_nil n)
  rwa [Decimal.naturalOf_digits] at hdenotes

lemma denotes_positional_whole {d : Decimal} (h : 0 ≤ d.exponent) :
    Denotes (positional false d) (d.coefficient * 10 ^ d.exponent) := by
  generalize hk : (if d.coefficient = 0 then 0 else d.exponent.toNat) = k
  have hvalue : (d.coefficient * 10 ^ k : ℚ) = d.coefficient * 10 ^ d.exponent := by
    split_ifs at hk with hzero
    · simp [hzero]
    · rw [← zpow_natCast, ← hk, Int.toNat_of_nonneg h]
  have htext : positional false d = digits d.coefficient ++ List.replicate k '0' := by
    simp only [positional, if_pos h, hk, Bool.false_eq_true, if_false, List.append_nil]
  have hdenotes := denotes_whole
    (List.forall_mem_append.mpr ⟨digits_digits d.coefficient, digits_zeros k⟩)
    (List.append_ne_nil_of_left_ne_nil (Decimal.digits_ne_nil _) _)
  rw [naturalOf_append_zeros, Decimal.naturalOf_digits] at hdenotes
  push_cast at hdenotes
  rwa [htext, ← hvalue]

lemma denotes_positional_places {d : Decimal} (h : ¬0 ≤ d.exponent) :
    Denotes (positional false d) (d.coefficient * 10 ^ d.exponent) := by
  generalize hk : (-d.exponent).toNat = k
  have hplaces : (-k : ℤ) = d.exponent := by omega
  generalize hds : List.replicate (k + 1 - (digits d.coefficient).length) '0' ++
    digits d.coefficient = ds
  have hd : Digits ds :=
    hds ▸ List.forall_mem_append.mpr ⟨digits_zeros _, digits_digits d.coefficient⟩
  have hlength : k < ds.length := by
    rw [← hds, List.length_append, List.length_replicate]
    omega
  have hvalue : naturalOf ds = d.coefficient := by
    rw [← hds, naturalOf_zeros_append, Decimal.naturalOf_digits]
  have htext : positional false d = ds.take (ds.length - k) ++ '.' :: ds.drop (ds.length - k) := by
    simp only [positional, if_neg h, hk, hds]
  have hdenotes := denotes_places hd hlength
  rwa [hvalue, hplaces, ← htext] at hdenotes

lemma denotes_positional (d : Decimal) :
    Denotes (positional false d) (d.coefficient * 10 ^ d.exponent) := by
  by_cases h : 0 ≤ d.exponent
  · exact denotes_positional_whole h
  · exact denotes_positional_places h

end

def signText (negative : Bool) : List Char := if negative then ['-'] else []

section

variable {cs : List Char} {r : ℚ} {x : Float}

lemma constant_of_numeral {y : Float} (hn : IsNumeral cs)
    (hread : Decimal.read (String.ofList cs) = some y) (negative : Bool) :
    Constant (String.ofList (signText negative ++ cs)) (if negative then 0 - y else y) := by
  have hoperand := Grammar.isOperand_number hread
  have hspelled := Grammar.spelled_number hn
  cases negative with
  | false =>
    have htext : (String.ofList (signText false ++ cs)).toList = cs := String.toList_ofList
    exact ⟨_, hoperand.compile_eq (by rwa [htext]), rfl, fun _ _ => rfl⟩
  | true => exact ⟨_, hoperand.compile_minus hspelled, rfl, fun _ _ => rfl⟩

lemma Denotes.constant (h : Denotes cs r) (hfinite : x.isFinite) (hpos : 0 < magnitudeBits x)
    (hrounds : Rounds r (magnitudeBits x)) :
    Constant (String.ofList (signText (isNegative x) ++ cs)) x := by
  obtain ⟨hnumeral, c, e, he, rfl, hread⟩ := h
  have hbits := Decimal.isFinite_iff.mp hfinite
  have hc : 0 < c := by
    have hvalue := hrounds.pos hpos
    refine Nat.pos_of_ne_zero fun hzero => ?_
    rw [hzero, Nat.cast_zero, zero_mul] at hvalue
    exact lt_irrefl _ hvalue
  rw [Decimal.nearest_eq hc (by omega) hrounds hbits] at hread
  have hconstant := constant_of_numeral hnumeral hread (isNegative x)
  cases hsign : isNegative x with
  | false =>
    rw [hsign, if_neg Bool.false_ne_true, Decimal.ofBits_magnitudeBits hfinite hsign] at hconstant
    exact hconstant
  | true =>
    -- The minus sign is a difference from zero, which is the float with the other sign.
    rw [hsign, if_pos rfl, Decimal.zero_sub_ofBits hfinite hsign hpos] at hconstant
    exact hconstant

lemma Denotes.constant_zero (h : Denotes cs 0) (negative : Bool) :
    Constant (String.ofList (signText negative ++ cs)) 0 := by
  obtain ⟨hnumeral, c, e, he, hzero, hread⟩ := h
  obtain rfl : c = 0 := by
    rw [mul_eq_zero, Nat.cast_eq_zero] at hzero
    exact hzero.resolve_right (zpow_ne_zero _ (by norm_num))
  have hnearest : nearest 0 e = 0 := if_pos rfl
  have hconstant := constant_of_numeral hnumeral hread negative
  rw [hnearest, show (0 : Float) - 0 = 0 by decide, ite_self] at hconstant
  exact hconstant

end

section

variable {x : Float} {n : ℤ}

lemma toString_eq (n : ℤ) :
    toString n = String.ofList (signText (n < 0) ++ digits n.natAbs) := by
  apply String.toList_inj.mp
  rw [String.toList_ofList, Decimal.toList_toString, signText]
  simp only [decide_eq_true_eq]

lemma constant_integer (hn : n.natAbs < 2 ^ 64) :
    ∃ y, IsNearest n y ∧ Constant (toString n) y := by
  have hdenotes := denotes_digits n.natAbs
  rw [toString_eq]
  rcases eq_or_ne n 0 with rfl | hzero
  · have hrounds : Rounds 0 (magnitudeBits 0) := Decimal.rounds_zero (by positivity)
    have hnearest := Decimal.isNearest_of_rounds (by decide : (0 : Float).isFinite) le_rfl hrounds
    rw [neg_zero, ite_self] at hnearest
    exact ⟨0, hnearest, hdenotes.constant_zero _⟩
  · have hrounds := Decimal.ratioBits_rounds (Int.natAbs_pos.mpr hzero) Nat.one_pos
    rw [Nat.cast_one, div_one] at hrounds
    have hone : (1 : ℚ) ≤ n.natAbs := by exact_mod_cast Int.natAbs_pos.mpr hzero
    have hsize : (n.natAbs : ℚ) < 2 ^ 64 := by exact_mod_cast hn
    obtain ⟨x, hfinite, hsign, hbits⟩ :=
      Decimal.exists_float (n < 0) (hrounds.lt_infinityBits hsize)
    have hpos := hrounds.pos_of_one_le hone
    rw [← hbits] at hrounds hpos
    have hvalue : (if isNegative x then -(n.natAbs : ℚ) else n.natAbs) = n := by
      rw [hsign, Nat.cast_natAbs]
      by_cases hneg : n < 0
      · rw [if_pos (by simpa using hneg), abs_of_neg hneg, Int.cast_neg, neg_neg]
      · rw [if_neg (by simpa using hneg), abs_of_nonneg (not_lt.mp hneg)]
    refine ⟨x, hvalue ▸ Decimal.isNearest_of_rounds hfinite (Nat.cast_nonneg _) hrounds, ?_⟩
    rw [← hsign]
    exact hdenotes.constant hfinite hpos hrounds

lemma write_plain (x : Float) : Decimal.plain.write x =
    signText (isNegative x) ++ positional false (Decimal.shortest .up x) :=
  congrArg _ (if_pos (.inr rfl))

lemma plainText_eq (hfinite : x.isFinite) : Decimal.plainText x =
    String.ofList (signText (isNegative x) ++ positional false (Decimal.shortest .up x)) := by
  obtain ⟨hnan, hinf⟩ := Decimal.not_nan_of_isFinite hfinite
  rw [Decimal.plainText, hnan, hinf, write_plain]
  rfl

lemma constant_plainText (hfinite : x.isFinite) :
    ∃ y, (y = x ∨ x = -0 ∧ y = 0) ∧ Constant (Decimal.plainText x) y := by
  have hdenotes := denotes_positional (Decimal.shortest .up x)
  rw [plainText_eq hfinite]
  rcases Nat.eq_zero_or_pos (magnitudeBits x) with hzero | hpos
  · have hshortest : Decimal.shortest .up x = ⟨0, 0⟩ := by
      rw [Decimal.shortest, Decimal.ofFloat_eq, hzero]
      rfl
    rw [hshortest, Nat.cast_zero, zero_mul] at hdenotes
    have hconstant := hdenotes.constant_zero (isNegative x)
    rw [← hshortest] at hconstant
    exact ⟨0, (Decimal.zero_of_magnitudeBits hzero).imp Eq.symm fun h => ⟨h, rfl⟩, hconstant⟩
  · have hrounds := @Decimal.shortest_rounds _ .up x hpos (Decimal.ofFloat_eq x)
    exact ⟨x, .inl rfl, hdenotes.constant hfinite hpos hrounds⟩

lemma not_constant {text : String} {e : Expr} (he : compile text = .ok e) (hne : e.variables ≠ [])
    (y : Float) : ¬Constant text y := by
  rintro ⟨e', he', hvariables, -⟩
  rw [he, Except.ok.injEq] at he'
  exact hne (he' ▸ hvariables)

lemma spelled_infinity : Grammar.Spelled [.name "inf".toList] "inf".toList :=
  Grammar.spelled_name (by decide) (by decide)

lemma not_constant_plainText (hfinite : x.isFinite = false) (y : Float) :
    ¬Constant (Decimal.plainText x) y := by
  have hnan : Grammar.Spelled [.name "NaN".toList] "NaN".toList :=
    Grammar.spelled_name (by decide) (by decide)
  rw [Decimal.plainText]
  split_ifs with hnumber hinfinite hsign
  · exact not_constant ((Grammar.isOperand_name _).compile_eq hnan) (List.cons_ne_nil _ _) y
  · have hcompile := (Grammar.isOperand_name _).compile_minus spelled_infinity
    exact not_constant hcompile (List.cons_ne_nil _ _) y
  · have hcompile := (Grammar.isOperand_name _).compile_eq spelled_infinity
    exact not_constant hcompile (List.cons_ne_nil _ _) y
  · exact ((Decimal.nan_or_inf_of_not_isFinite hfinite).elim hnumber hinfinite).elim

end

end DerivedStats.Formula
