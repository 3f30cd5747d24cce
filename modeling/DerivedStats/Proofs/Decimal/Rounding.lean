import DerivedStats.Proofs.Decimal.Magnitude

/-! The quotient of two numbers is rounded to the nearest float. -/

namespace DerivedStats.Decimal

section

variable {num den : ℕ}

lemma roundDiv_bounds (hden : 0 < den) :
    2 * num ≤ den * (2 * roundDiv num den + 1) ∧ den * (2 * roundDiv num den) ≤ 2 * num + den ∧
      (2 * num = den * (2 * roundDiv num den + 1) ∨ den * (2 * roundDiv num den) = 2 * num + den →
        roundDiv num den % 2 = 0) := by
  have hnum := Nat.div_add_mod num den
  have hrest := Nat.mod_lt num hden
  simp only [roundDiv]
  generalize num / den = q at hnum
  generalize num % den = r at hnum hrest
  subst hnum
  split_ifs with hup
  all_goals
    simp only [Nat.mul_add, Nat.mul_left_comm den 2]
    omega

lemma div_le_roundDiv (num : ℕ) (hden : 0 < den) : (num : ℚ) / den ≤ roundDiv num den + 1 / 2 := by
  have hpos : (0 : ℚ) < den := by exact_mod_cast hden
  have hbound : (2 * num : ℚ) ≤ den * (2 * roundDiv num den + 1) := by
    exact_mod_cast (roundDiv_bounds hden).1
  rw [div_le_iff₀ hpos]
  linarith

lemma roundDiv_le_div (num : ℕ) (hden : 0 < den) : (roundDiv num den : ℚ) - 1 / 2 ≤ num / den := by
  have hpos : (0 : ℚ) < den := by exact_mod_cast hden
  have hbound : (den * (2 * roundDiv num den) : ℚ) ≤ 2 * num + den := by
    exact_mod_cast (roundDiv_bounds hden).2.1
  rw [le_div_iff₀ hpos]
  linarith

lemma even_roundDiv (num : ℕ) (hden : 0 < den) (h : (num : ℚ) / den = roundDiv num den + 1 / 2 ∨
    (num : ℚ) / den = roundDiv num den - 1 / 2) : roundDiv num den % 2 = 0 := by
  have hpos : (den : ℚ) ≠ 0 := by exact_mod_cast hden.ne'
  apply (roundDiv_bounds hden).2.2
  refine h.imp (fun h => ?_) (fun h => ?_)
  · rw [div_eq_iff hpos] at h
    have : (2 * num : ℚ) = den * (2 * roundDiv num den + 1) := by linarith
    exact_mod_cast this
  · rw [div_eq_iff hpos] at h
    have : (den * (2 * roundDiv num den) : ℚ) = 2 * num + den := by linarith
    exact_mod_cast this

lemma shifted_den_pos (num : ℕ) (hden : 0 < den) (e : ℤ) : 0 < (shifted num den e).2 := by
  simp only [shifted, Nat.shiftLeft_eq]
  exact Nat.mul_pos hden (Nat.two_pow_pos _)

lemma pow_toNat_div (x : ℚ) (e : ℤ) : x ^ e.toNat / x ^ (-e).toNat = x ^ e := by
  rcases le_total 0 e with he | he
  · obtain ⟨k, rfl⟩ := Int.eq_ofNat_of_zero_le he
    simp
  · obtain ⟨k, hk⟩ := Int.eq_ofNat_of_zero_le (Int.neg_nonneg_of_nonpos he)
    obtain rfl : e = -(k : ℤ) := by omega
    simp

lemma shifted_div (num den : ℕ) (e : ℤ) :
    ((shifted num den e).1 : ℚ) / (shifted num den e).2 = num / den / 2 ^ e := by
  rw [← pow_toNat_div]
  simp only [shifted, Nat.shiftLeft_eq]
  push_cast
  field_simp

lemma log2_bounds {n : ℕ} (hn : 0 < n) :
    (2 : ℚ) ^ (n.log2 : ℤ) ≤ n ∧ (n : ℚ) < 2 ^ ((n.log2 : ℤ) + 1) := by
  constructor
  · rw [zpow_natCast]
    exact_mod_cast Nat.log2_self_le hn.ne'
  · rw [← Nat.cast_succ, zpow_natCast]
    exact_mod_cast Nat.lt_log2_self

lemma ratio_log2_bounds (hnum : 0 < num) (hden : 0 < den) :
    (2 : ℚ) ^ ((num.log2 : ℤ) - den.log2 - 53 + 52) ≤ num / den ∧
      (num / den : ℚ) < 2 ^ ((num.log2 : ℤ) - den.log2 - 53 + 54) := by
  obtain ⟨hnum_low, hnum_high⟩ := log2_bounds hnum
  obtain ⟨hden_low, hden_high⟩ := log2_bounds hden
  have hpos : (0 : ℚ) < den := by exact_mod_cast hden
  constructor
  · rw [le_div_iff₀ hpos]
    calc (2 : ℚ) ^ ((num.log2 : ℤ) - den.log2 - 53 + 52) * den
        ≤ 2 ^ ((num.log2 : ℤ) - den.log2 - 53 + 52) * 2 ^ ((den.log2 : ℤ) + 1) := by gcongr
      _ = 2 ^ (num.log2 : ℤ) := by
        rw [← zpow_add₀ two_ne_zero]
        ring_nf
      _ ≤ num := hnum_low
  · rw [div_lt_iff₀ hpos]
    calc (num : ℚ) < 2 ^ ((num.log2 : ℤ) + 1) := hnum_high
      _ = 2 ^ ((num.log2 : ℤ) - den.log2 - 53 + 54) * 2 ^ (den.log2 : ℤ) := by
        rw [← zpow_add₀ two_ne_zero]
        ring_nf
      _ ≤ 2 ^ ((num.log2 : ℤ) - den.log2 - 53 + 54) * den := by gcongr

lemma quotient_lt_iff (hden : 0 < den) (e : ℤ) :
    (shifted num den e).1 / (shifted num den e).2 < 2 * leastFull ↔
      (num / den : ℚ) < 2 ^ (e + 53) := by
  have hpos : (0 : ℚ) < (shifted num den e).2 := by exact_mod_cast shifted_den_pos num hden e
  rw [Nat.div_lt_iff_lt_mul (shifted_den_pos num hden e), ← @Nat.cast_lt ℚ, Nat.cast_mul,
    ← div_lt_iff₀ hpos, shifted_div, div_lt_iff₀ (by positivity), zpow_add₀ two_ne_zero,
    leastFull_eq]
  norm_num [mul_comm]

lemma placeOf_spec (hnum : 0 < num) (hden : 0 < den) :
    -1074 ≤ placeOf num den ∧ (num / den : ℚ) < 2 ^ (placeOf num den + 53) ∧
      (placeOf num den = -1074 ∨ (2 : ℚ) ^ (placeOf num den + 52) ≤ num / den) := by
  obtain ⟨hlow, hhigh⟩ := ratio_log2_bounds hnum hden
  have hplace : ∃ e : ℤ, placeOf num den = max (-1074) e ∧ (2 : ℚ) ^ (e + 52) ≤ num / den ∧
      (num / den : ℚ) < 2 ^ (e + 53) := by
    by_cases hless : (num / den : ℚ) < 2 ^ ((num.log2 : ℤ) - den.log2 - 53 + 53)
    · refine ⟨_, ?_, hlow, hless⟩
      simp only [placeOf, (quotient_lt_iff hden _).mpr hless, if_true]
    · refine ⟨(num.log2 : ℤ) - den.log2 - 53 + 1, ?_, ?_, ?_⟩
      · simp only [placeOf, mt (quotient_lt_iff hden _).mp hless, if_false]
      · rw [add_assoc]
        exact not_lt.mp hless
      · rw [add_assoc]
        exact hhigh
  obtain ⟨e, hmax, hlow, hhigh⟩ := hplace
  rw [hmax]
  refine ⟨le_max_left _ _, hhigh.trans_le ?_, ?_⟩
  · exact zpow_le_zpow_right₀ one_le_two (by omega)
  · rcases le_total e (-1074) with he | he
    · exact .inl (max_eq_left he)
    · rw [max_eq_right he]
      exact .inr hlow

section

variable {k m : ℕ}

lemma bound_of_multiple (hfull : k = 0 ∨ leastFull ≤ m) (hmost : m ≤ 2 * leastFull) :
    bound (k * leastFull + m) = (m + 1 / 2) * 2 ^ ((k : ℤ) - 1074) ∨
      2 * leastFull * 2 ^ ((k : ℤ) - 1074) < bound (k * leastFull + m) := by
  rcases hmost.lt_or_eq with hm | rfl
  · exact .inl (bound_eq hm hfull)
  · -- One digit longer than a significand, it starts the next octave.
    right
    have hnext : k * leastFull + 2 * leastFull = (k + 1) * leastFull + leastFull := by ring
    have hlt : leastFull < 2 * leastFull := by decide
    refine (le_of_eq ?_).trans_lt (magnitude_lt_bound _)
    rw [hnext, magnitude_eq hlt (.inr le_rfl), Nat.cast_succ, add_sub_right_comm,
      zpow_add_one₀ two_ne_zero]
    ring

lemma bound_before_multiple (hfull : k = 0 ∨ leastFull ≤ m) (hmost : m ≤ 2 * leastFull) {b : ℕ}
    (hb : b + 1 = k * leastFull + m) :
    bound b = (m - 1 / 2) * 2 ^ ((k : ℤ) - 1074) ∨
      k ≠ 0 ∧ bound b < leastFull * 2 ^ ((k : ℤ) - 1074) := by
  by_cases hm : m ≠ 0 ∧ (k = 0 ∨ leastFull ≤ m - 1)
  · left
    have hlt : m - 1 < 2 * leastFull := by omega
    obtain rfl : b = k * leastFull + (m - 1) := by omega
    rw [bound_eq hlt hm.2, Nat.cast_pred (Nat.pos_of_ne_zero hm.1)]
    ring
  · -- Below the least significand of an octave the floats are denser.
    right
    have hleast : k ≠ 0 ∧ m = leastFull := by
      simp only [leastFull] at *
      omega
    have hlt : m < 2 * leastFull := by
      rw [hleast.2]
      decide
    refine ⟨hleast.1, (bound_lt_magnitude_succ b).trans_le ?_⟩
    rw [hb, magnitude_eq hlt hfull, hleast.2]

lemma rounds_of_multiple {r : ℚ} (hup : r ≤ (m + 1 / 2) * 2 ^ ((k : ℤ) - 1074))
    (hdown : (m - 1 / 2) * 2 ^ ((k : ℤ) - 1074) ≤ r)
    (heven : (r = (m + 1 / 2) * 2 ^ ((k : ℤ) - 1074) ∨ r = (m - 1 / 2) * 2 ^ ((k : ℤ) - 1074)) →
      m % 2 = 0)
    (hlow : k = 0 ∨ leastFull * 2 ^ ((k : ℤ) - 1074) ≤ r)
    (hhigh : r < 2 * leastFull * 2 ^ ((k : ℤ) - 1074)) : Rounds r (k * leastFull + m) := by
  have hpos : (0 : ℚ) < 2 ^ ((k : ℤ) - 1074) := by positivity
  have hfull : k = 0 ∨ leastFull ≤ m := by
    refine hlow.imp_right fun hlow => ?_
    have : (leastFull : ℚ) ≤ m + 1 / 2 := le_of_mul_le_mul_right (hlow.trans hup) hpos
    have : (leastFull : ℚ) < m + 1 := by linarith
    exact Nat.lt_succ_iff.mp (by exact_mod_cast this)
  have hmost : m ≤ 2 * leastFull := by
    have : (m - 1 / 2 : ℚ) < 2 * leastFull := lt_of_mul_lt_mul_right (hdown.trans_lt hhigh) hpos.le
    have : (m : ℚ) < 2 * leastFull + 1 := by linarith
    exact Nat.lt_succ_iff.mp (by exact_mod_cast this)
  have hparity : (k * leastFull + m) % 2 = m % 2 := by
    simp only [leastFull]
    omega
  have habove := (bound_of_multiple hfull hmost).imp_right hhigh.trans
  have hbelow : ∀ b, b + 1 = k * leastFull + m →
      bound b = (m - 1 / 2) * 2 ^ ((k : ℤ) - 1074) ∨ bound b < r := fun b hb =>
    (bound_before_multiple hfull hmost hb).imp_right fun h => h.2.trans_le (hlow.resolve_left h.1)
  constructor
  · rcases habove with h | h
    · rwa [h]
    · exact h.le
  · intro b hb
    rcases hbelow b hb with h | h
    · rwa [h]
    · exact h.le
  · intro htie
    rw [Nat.even_iff, hparity]
    apply heven
    rcases htie with rfl | ⟨b, hb, rfl⟩
    · exact .inl (habove.resolve_right (lt_irrefl _))
    · exact .inr ((hbelow b hb).resolve_right (lt_irrefl _))

end

lemma ratioBits_rounds (hnum : 0 < num) (hden : 0 < den) :
    Rounds (num / den) (ratioBits num den) := by
  obtain ⟨hplace, hhigh, hlow⟩ := placeOf_spec hnum hden
  generalize he : placeOf num den = e at *
  obtain ⟨k, hk⟩ := Int.eq_ofNat_of_zero_le (by omega : 0 ≤ e + 1074)
  obtain rfl : e = (k : ℤ) - 1074 := by omega
  have hpos : (0 : ℚ) < 2 ^ ((k : ℤ) - 1074) := by positivity
  have hshifted := shifted_den_pos num hden ((k : ℤ) - 1074)
  have hvalue := shifted_div num den ((k : ℤ) - 1074)
  have hbits : ratioBits num den = k * leastFull +
      roundDiv (shifted num den ((k : ℤ) - 1074)).1 (shifted num den ((k : ℤ) - 1074)).2 := by
    simp only [ratioBits, he, hk, Int.toNat_natCast]
  rw [hbits]
  have hup := div_le_roundDiv (shifted num den ((k : ℤ) - 1074)).1 hshifted
  have hdown := roundDiv_le_div (shifted num den ((k : ℤ) - 1074)).1 hshifted
  have heven := even_roundDiv (shifted num den ((k : ℤ) - 1074)).1 hshifted
  rw [hvalue] at hup hdown heven
  rw [div_le_iff₀ hpos] at hup
  rw [le_div_iff₀ hpos] at hdown
  rw [div_eq_iff hpos.ne', div_eq_iff hpos.ne'] at heven
  apply rounds_of_multiple hup hdown heven
  · refine hlow.imp (fun h => by omega) fun h => ?_
    rw [zpow_add₀ two_ne_zero, mul_comm] at h
    norm_num [leastFull_eq] at h ⊢
    exact h
  · rw [zpow_add₀ two_ne_zero, mul_comm] at hhigh
    norm_num [leastFull_eq] at hhigh ⊢
    exact hhigh

lemma tenths_div (c : ℕ) (e : ℤ) :
    ((c * Nat.pow 10 e.toNat : ℕ) : ℚ) / (Nat.pow 10 (-e).toNat : ℕ) = c * 10 ^ e := by
  rw [← pow_toNat_div, mul_div_assoc']
  simp only [Nat.pow_eq]
  push_cast
  rfl

lemma bound_zero : bound 0 = 2 ^ (-1075 : ℤ) := by
  have hplace : place 0 = -1075 + 1 := rfl
  have hsignificand : significand 0 = 0 := rfl
  rw [bound, hplace, hsignificand, zpow_add_one₀ two_ne_zero]
  ring

lemma rounds_zero {r : ℚ} (h : r < 2 ^ (-1075 : ℤ)) : Rounds r 0 where
  le_bound := bound_zero ▸ h.le
  bound_le _ hb := nomatch hb
  even _ := Even.zero

lemma tenth_le_eighth (k : ℕ) : (10 : ℚ) ^ (-(k : ℤ)) ≤ 2 ^ (3 * -(k : ℤ)) := by
  rw [zpow_mul, zpow_neg, zpow_neg, zpow_natCast, zpow_natCast]
  gcongr
  norm_num

lemma far_below {c : ℕ} {e : ℤ} (hc : 0 < c) (h : 3 * e + c.log2 < -1200) :
    (c * 10 ^ e : ℚ) < 2 ^ (-1075 : ℤ) := by
  obtain ⟨k, hk⟩ := Int.eq_ofNat_of_zero_le (by omega : 0 ≤ -e)
  obtain rfl : e = -(k : ℤ) := by omega
  calc (c * 10 ^ (-(k : ℤ)) : ℚ) ≤ 2 ^ ((c.log2 : ℤ) + 1) * 2 ^ (3 * -(k : ℤ)) := by
        gcongr
        · exact (log2_bounds hc).2.le
        · exact tenth_le_eighth k
    _ = 2 ^ ((c.log2 : ℤ) + 1 + 3 * -(k : ℤ)) := (zpow_add₀ two_ne_zero _ _).symm
    _ < 2 ^ (-1075 : ℤ) := zpow_lt_zpow_right₀ one_lt_two (by omega)

def infinityBits : ℕ := 0x7ff0000000000000

lemma Rounds.pos_of_one_le {r : ℚ} {bits : ℕ} (h : Rounds r bits) (hr : 1 ≤ r) : 0 < bits := by
  refine Nat.pos_of_ne_zero fun hzero => ?_
  subst hzero
  have hbound := h.le_bound
  rw [bound_zero] at hbound
  have hlt : (2 : ℚ) ^ (-1075 : ℤ) < 1 := zpow_lt_one_of_neg₀ one_lt_two (by decide)
  linarith

lemma Rounds.lt_infinityBits {r : ℚ} {bits : ℕ} (h : Rounds r bits) (hr : r < 2 ^ 64) :
    bits < infinityBits := by
  by_contra hlarge
  have hpos : 0 < bits := Nat.lt_of_lt_of_le (by decide : 0 < infinityBits) (not_lt.mp hlarge)
  obtain ⟨b, rfl⟩ := Nat.exists_eq_add_one_of_ne_zero hpos.ne'
  have hpower : magnitude (1086 * leastFull + leastFull) = 2 ^ 64 := by
    rw [magnitude_eq (by decide) (.inr le_rfl)]
    norm_num [leastFull_eq]
  have hle : 1086 * leastFull + leastFull ≤ b := by
    simp only [infinityBits, leastFull] at *
    omega
  have hmono := magnitude_strictMono.monotone hle
  have hbelow := magnitude_lt_bound b
  have hbound := h.bound_le b rfl
  linarith

lemma nearest_eq {c bits : ℕ} {e : ℤ} (hc : 0 < c) (he : e ≤ 400) (h : Rounds (c * 10 ^ e) bits)
    (hbits : bits < infinityBits) : nearest c e = Float.ofBits (UInt64.ofNat bits) := by
  rw [nearest, if_neg hc.ne', if_neg (not_lt.mpr he)]
  split_ifs with hfar
  · obtain rfl := h.unique (rounds_zero (far_below hc hfar))
    decide
  · have hnum : 0 < c * Nat.pow 10 e.toNat := Nat.mul_pos hc (Nat.pow_pos (by decide))
    have hden : 0 < Nat.pow 10 (-e).toNat := Nat.pow_pos (by decide)
    have hrounds := ratioBits_rounds hnum hden
    rw [tenths_div] at hrounds
    rw [nearestRatio, hrounds.unique h]
    exact if_pos hbits

end

end DerivedStats.Decimal
