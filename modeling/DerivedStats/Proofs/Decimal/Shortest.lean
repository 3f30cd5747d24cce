import DerivedStats.Proofs.Decimal.Rounding
import Mathlib.Data.Nat.Cast.Order.Field

/-! The shortest decimal of a float is rounded back to it: a point that is found on a grid lies between
the bounds of the float, and so does the point below the float on the last grid. -/

namespace DerivedStats.Decimal

def binary (bits : ℕ) : Binary := ⟨significand bits, place bits⟩

lemma ratio_den_pos (a : ℕ) (b e : ℤ) : 0 < (ratio a b e).2 := by
  simp only [ratio, Nat.shiftLeft_eq, Nat.pow_eq, Nat.one_mul]
  exact Nat.mul_pos (Nat.two_pow_pos _) (Nat.pow_pos (by decide))

lemma ratio_div (a : ℕ) (b e : ℤ) :
    ((ratio a b e).1 : ℚ) / (ratio a b e).2 = a * 2 ^ b / 10 ^ e := by
  rw [← pow_toNat_div, ← pow_toNat_div]
  simp only [ratio, Nat.shiftLeft_eq, Nat.pow_eq]
  push_cast
  field_simp

structure Neighbourhood.Within (n : Neighbourhood) (r : ℚ) : Prop where
  low_le : n.low * 2 ^ n.exponent ≤ r
  le_high : r ≤ n.high * 2 ^ n.exponent
  closed : (r = n.low * 2 ^ n.exponent ∨ r = n.high * 2 ^ n.exponent) → n.closed

namespace Neighbourhood.Within

variable {n : Neighbourhood} {tie : Tie} {e : ℤ}

lemma of_lt {r : ℚ} (hlow : n.low * 2 ^ n.exponent < r) (hhigh : r < n.high * 2 ^ n.exponent) :
    n.Within r where
  low_le := hlow.le
  le_high := hhigh.le
  closed h := (h.elim hlow.ne' hhigh.ne).elim

end Neighbourhood.Within

section

variable {n : Neighbourhood} {tie : Tie} {e : ℤ} {c : ℕ}

lemma ratio_lt {a a' : ℕ} (h : a < a') (b e : ℤ) : (ratio a b e).1 < (ratio a' b e).1 := by
  simp only [ratio, Nat.shiftLeft_eq, Nat.pow_eq]
  gcongr

lemma pointOn_bounds (hlow : n.low < n.middle) (hhigh : n.middle < n.high)
    (h : n.pointOn tie e = some c) :
    let den := (ratio n.middle n.exponent e).2
    (ratio n.low n.exponent e).1 ≤ c * den ∧ c * den ≤ (ratio n.high n.exponent e).1 ∧
      ((ratio n.low n.exponent e).1 = c * den ∨ c * den = (ratio n.high n.exponent e).1 →
        n.closed) := by
  have hnear := ratio_lt hlow n.exponent e
  have hfar := ratio_lt hhigh n.exponent e
  have hden := ratio_den_pos n.middle n.exponent e
  simp only [Neighbourhood.pointOn] at h ⊢
  generalize (ratio n.middle n.exponent e).2 = den at *
  generalize (ratio n.low n.exponent e).1 = low at *
  generalize (ratio n.middle n.exponent e).1 = middle at *
  generalize (ratio n.high n.exponent e).1 = high at *
  have hbelow : middle / den * den ≤ middle := Nat.div_mul_le_self middle den
  have habove : middle < (middle / den + 1) * den := Nat.lt_mul_of_div_lt (Nat.lt_succ_self _) hden
  generalize middle / den = below at *
  -- Either neighbour is on the one side of the float for certain, and is tested on the other.
  have hlower : (low < below * den || (n.closed && low == below * den)) = true →
      low ≤ below * den ∧ below * den ≤ high ∧
        (low = below * den ∨ below * den = high → n.closed) := by
    intro hhas
    simp only [Bool.or_eq_true, Bool.and_eq_true, decide_eq_true_eq, beq_iff_eq] at hhas
    refine ⟨by omega, by omega, ?_⟩
    rintro (heq | heq)
    · exact (hhas.resolve_left (by omega)).1
    · omega
  have hupper : ((below + 1) * den < high || (n.closed && (below + 1) * den == high)) = true →
      low ≤ (below + 1) * den ∧ (below + 1) * den ≤ high ∧
        (low = (below + 1) * den ∨ (below + 1) * den = high → n.closed) := by
    intro hhas
    simp only [Bool.or_eq_true, Bool.and_eq_true, decide_eq_true_eq, beq_iff_eq] at hhas
    refine ⟨by omega, by omega, ?_⟩
    rintro (heq | heq)
    · omega
    · exact (hhas.resolve_left (by omega)).1
  split at h
  · contradiction
  · next hhas _ =>
    obtain rfl := Option.some.inj h
    exact hlower hhas
  · next _ hhas =>
    obtain rfl := Option.some.inj h
    exact hupper hhas
  · next hhas hhas' =>
    split_ifs at h
    · obtain rfl := Option.some.inj h
      exact hupper hhas'
    · obtain rfl := Option.some.inj h
      exact hlower hhas

lemma pointOn_within (hlow : n.low < n.middle) (hhigh : n.middle < n.high)
    (h : n.pointOn tie e = some c) : n.Within (c * 10 ^ e) := by
  obtain ⟨hle, hge, hclosed⟩ := pointOn_bounds hlow hhigh h
  have hden : (0 : ℚ) < (ratio n.middle n.exponent e).2 := by
    exact_mod_cast ratio_den_pos n.middle n.exponent e
  have hten : (0 : ℚ) < 10 ^ e := by positivity
  -- In units of the common denominator the bounds are natural numbers.
  have hvalue : ∀ a : ℕ, (a * 2 ^ n.exponent : ℚ) =
      (ratio a n.exponent e).1 / (ratio n.middle n.exponent e).2 * 10 ^ e := by
    intro a
    have hdiv := ratio_div a n.exponent e
    rw [show (ratio a n.exponent e).2 = (ratio n.middle n.exponent e).2 from rfl] at hdiv
    rw [hdiv, div_mul_cancel₀ _ hten.ne']
  constructor
  · rw [hvalue]
    apply mul_le_mul_of_nonneg_right _ hten.le
    rw [div_le_iff₀ hden]
    exact_mod_cast hle
  · rw [hvalue]
    apply mul_le_mul_of_nonneg_right _ hten.le
    rw [le_div_iff₀ hden]
    exact_mod_cast hge
  · rw [hvalue, hvalue]
    intro htie
    apply hclosed
    rcases htie with htie | htie
    · have hlow := mul_right_cancel₀ hten.ne' htie
      rw [eq_div_iff hden.ne'] at hlow
      exact .inl (by exact_mod_cast hlow.symm)
    · have hhigh := mul_right_cancel₀ hten.ne' htie
      rw [eq_div_iff hden.ne'] at hhigh
      exact .inr (by exact_mod_cast hhigh)

lemma floor_within (hlow : n.low < n.middle) (hhigh : n.middle < n.high)
    (hfine : (10 : ℚ) ^ e < 2 ^ n.exponent) :
    n.Within (((ratio n.middle n.exponent e).1 / (ratio n.middle n.exponent e).2 : ℕ) * 10 ^ e) := by
  have hten : (0 : ℚ) < 10 ^ e := by positivity
  have htwo : (0 : ℚ) < 2 ^ n.exponent := by positivity
  have hvalue : (n.middle * 2 ^ n.exponent : ℚ) =
      (ratio n.middle n.exponent e).1 / (ratio n.middle n.exponent e).2 * 10 ^ e := by
    rw [ratio_div, div_mul_cancel₀ _ hten.ne']
  have hden := ratio_den_pos n.middle n.exponent e
  generalize (ratio n.middle n.exponent e).1 = num at hvalue ⊢
  generalize (ratio n.middle n.exponent e).2 = den at hvalue hden ⊢
  have hbelow : ((num / den : ℕ) : ℚ) ≤ num / den := Nat.cast_div_le
  have habove : (num / den : ℚ) < (num / den : ℕ) + 1 := by
    rw [div_lt_iff₀ (by exact_mod_cast hden)]
    exact_mod_cast Nat.lt_mul_of_div_lt (Nat.lt_succ_self _) hden
  have hlow' : (n.low + 1 : ℚ) ≤ n.middle := by exact_mod_cast hlow
  have hhigh' : (n.middle : ℚ) < n.high := by exact_mod_cast hhigh
  apply Neighbourhood.Within.of_lt
  · calc (n.low * 2 ^ n.exponent : ℚ) ≤ n.middle * 2 ^ n.exponent - 2 ^ n.exponent := by nlinarith
      _ < num / den * 10 ^ e - 10 ^ e := by linarith
      _ < (num / den : ℕ) * 10 ^ e := by nlinarith
  · calc ((num / den : ℕ) * 10 ^ e : ℚ) ≤ num / den * 10 ^ e := by gcongr
      _ = n.middle * 2 ^ n.exponent := hvalue.symm
      _ < n.high * 2 ^ n.exponent := by gcongr

lemma firstPoint_within (hlow : n.low < n.middle) (hhigh : n.middle < n.high) {more : ℕ}
    (hfine : (10 : ℚ) ^ (e - more) < 2 ^ n.exponent) :
    n.Within ((firstPoint n tie e more).coefficient * 10 ^ (firstPoint n tie e more).exponent) := by
  induction more generalizing e with
  | zero => exact floor_within hlow hhigh (by simpa using hfine)
  | succ more ih =>
    rw [firstPoint]
    split
    · next c hc => exact pointOn_within hlow hhigh hc
    · apply ih
      rwa [sub_sub, add_comm 1, ← Nat.cast_succ]

end

lemma stripZeros_value (d : Decimal) (fuel : ℕ) :
    ((stripZeros d fuel).coefficient * 10 ^ (stripZeros d fuel).exponent : ℚ) =
      d.coefficient * 10 ^ d.exponent := by
  induction fuel generalizing d with
  | zero => rfl
  | succ fuel ih =>
    rw [stripZeros]
    split_ifs with hzero
    · have hten : d.coefficient = d.coefficient / 10 * 10 := by omega
      rw [ih]
      conv_rhs => rw [hten]
      rw [zpow_add_one₀ (by norm_num)]
      push_cast
      ring
    · rfl

lemma pow_length_digits_le {n : ℕ} (hn : 0 < n) : 10 ^ ((Nat.toDigits 10 n).length - 1) ≤ n := by
  by_cases hone : (Nat.toDigits 10 n).length = 1
  · rw [hone]
    exact hn
  · have hpos : 0 < (Nat.toDigits 10 n).length := Nat.length_toDigits_pos
    refine not_lt.mp fun hless => ?_
    have := (Nat.length_toDigits_le_iff (by decide) (by omega)).mpr hless
    omega

lemma le_tenfolds (num den fuel : ℕ) :
    den ≤ 10 ^ tenfolds num den fuel * num ∨ tenfolds num den fuel = fuel := by
  induction fuel generalizing num with
  | zero => exact .inr rfl
  | succ fuel ih =>
    rw [tenfolds]
    split_ifs with hle
    · exact .inl (by simpa using hle)
    · refine (ih (10 * num)).imp (fun h => ?_) (congrArg (· + 1))
      rwa [pow_succ, mul_assoc]

lemma leadingExponent_le {num den : ℕ} (hden : 0 < den)
    (hleast : (10 : ℚ) ^ (-400 : ℤ) ≤ num / den) :
    (10 : ℚ) ^ leadingExponent num den ≤ num / den := by
  have hpos : (0 : ℚ) < den := by exact_mod_cast hden
  rw [leadingExponent]
  split_ifs with hle
  · have hlength : 0 < (Nat.toDigits 10 (num / den)).length := Nat.length_toDigits_pos
    have hpow := pow_length_digits_le (Nat.div_pos hle hden)
    rw [← Nat.cast_one, ← Nat.cast_sub hlength, zpow_natCast]
    calc (10 ^ ((Nat.toDigits 10 (num / den)).length - 1) : ℚ) ≤ (num / den : ℕ) := by
          exact_mod_cast hpow
      _ ≤ num / den := Nat.cast_div_le
  · rcases le_tenfolds num den 400 with hten | hten
    · rw [zpow_neg, zpow_natCast, inv_le_iff_one_le_mul₀' (by positivity), ← mul_div_assoc,
        le_div_iff₀ hpos, one_mul]
      exact_mod_cast hten
    · rw [hten]
      exact hleast

section

variable {bits : ℕ}

lemma neighbourhood_low_lt {b : Binary} (h : 0 < b.significand) :
    b.neighbourhood.low < b.neighbourhood.middle := by
  rw [Binary.neighbourhood]
  dsimp only
  split_ifs
  · omega
  · omega

lemma neighbourhood_lt_high (b : Binary) : b.neighbourhood.middle < b.neighbourhood.high := by
  rw [Binary.neighbourhood]
  exact Nat.lt_add_of_pos_right (by decide)

lemma quarter (a : ℚ) (q : ℤ) : a * 2 ^ (q - 2) = a / 4 * 2 ^ q := by
  rw [zpow_sub₀ two_ne_zero]
  norm_num
  ring

lemma neighbourhood_high (bits : ℕ) :
    ((binary bits).neighbourhood.high * 2 ^ (binary bits).neighbourhood.exponent : ℚ) =
      bound bits := by
  simp only [Binary.neighbourhood, binary, quarter, bound]
  push_cast
  ring

lemma neighbourhood_low {b : ℕ} (h : b + 1 = bits) :
    ((binary bits).neighbourhood.low * 2 ^ (binary bits).neighbourhood.exponent : ℚ) = bound b := by
  have hpos : 0 < significand bits := significand_pos (by omega)
  have hbits := octave_mul_add_significand bits
  have hlt := significand_lt bits
  by_cases hleast : significand bits = leastFull ∧ octave bits ≠ 0
  · obtain ⟨k, hk⟩ := Nat.exists_eq_add_one_of_ne_zero hleast.2
    have hlow : (binary bits).neighbourhood.low = 4 * leastFull - 1 := by
      have hplace : place bits ≠ -1074 := by
        rw [place]
        omega
      rw [Binary.neighbourhood]
      exact (if_pos ⟨hleast.1, hplace⟩).trans (by rw [binary, hleast.1])
    have hb : b = k * leastFull + (2 * leastFull - 1) := by
      rw [hk, hleast.1, Nat.add_mul] at hbits
      simp only [leastFull] at *
      omega
    rw [hlow, hb, bound_eq (by decide) (.inr (by decide))]
    simp only [Binary.neighbourhood, binary, quarter, place, hk]
    push_cast
    rw [add_sub_right_comm, zpow_add_one₀ two_ne_zero]
    norm_num [leastFull_eq]
    ring
  · have hlow : (binary bits).neighbourhood.low = 4 * significand bits - 2 := by
      rw [Binary.neighbourhood]
      refine if_neg fun hle => hleast ⟨hle.1, fun hzero => hle.2 ?_⟩
      rw [binary, place, hzero]
      rfl
    have hfull : octave bits = 0 ∨ leastFull ≤ significand bits - 1 := by
      by_contra! hnot
      have := leastFull_le_significand hnot.1
      exact hleast ⟨by omega, hnot.1⟩
    have hb : b = octave bits * leastFull + (significand bits - 1) := by omega
    rw [hlow, hb, bound_eq (by omega) hfull]
    simp only [Binary.neighbourhood, binary, quarter, place]
    rw [Nat.cast_sub (by omega), Nat.cast_sub (by omega)]
    push_cast
    ring

lemma closed_iff (bits : ℕ) : (binary bits).neighbourhood.closed ↔ Even bits := by
  rw [Nat.even_iff, mod_two_eq_significand]
  exact beq_iff_eq

lemma Neighbourhood.Within.rounds {r : ℚ} (h : (binary bits).neighbourhood.Within r) :
    Rounds r bits where
  le_bound := neighbourhood_high bits ▸ h.le_high
  bound_le b hb := neighbourhood_low hb ▸ h.low_le
  even htie := by
    rw [← closed_iff]
    apply h.closed
    rw [neighbourhood_high]
    refine htie.symm.imp_left ?_
    rintro ⟨b, hb, hr⟩
    rw [hr, neighbourhood_low hb]

lemma shortest_rounds {tie : Tie} {x : Float} (hpos : 0 < bits)
    (hx : Binary.ofFloat x = binary bits) :
    Rounds ((shortest tie x).coefficient * 10 ^ (shortest tie x).exponent) bits := by
  have hsignificand := significand_pos hpos
  have hratio := ratio_div (significand bits) (place bits) 0
  rw [zpow_zero, div_one] at hratio
  have hleast : (10 : ℚ) ^ (-400 : ℤ) ≤ significand bits * 2 ^ place bits := by
    have hone : (1 : ℚ) ≤ significand bits := by exact_mod_cast hsignificand
    calc (10 : ℚ) ^ (-400 : ℤ) ≤ 2 ^ (3 * -(400 : ℕ) : ℤ) := tenth_le_eighth 400
      _ ≤ 2 ^ place bits := zpow_le_zpow_right₀ one_le_two (by rw [place]; omega)
      _ ≤ significand bits * 2 ^ place bits := le_mul_of_one_le_left (by positivity) hone
  rw [← hratio] at hleast
  have hlead := leadingExponent_le (ratio_den_pos _ _ _) hleast
  rw [hratio] at hlead
  generalize hl : leadingExponent _ _ = l at hlead
  have hfine : (10 : ℚ) ^ (l - 17) < 2 ^ (place bits - 2) := by
    have hfull : (significand bits : ℚ) < 2 * leastFull := by exact_mod_cast significand_lt bits
    have hplace := zpow_place_pos bits
    calc (10 : ℚ) ^ (l - 17) = 10 ^ l / 10 ^ 17 := by
          rw [zpow_sub₀ (by norm_num)]
          rfl
      _ ≤ significand bits * 2 ^ place bits / 10 ^ 17 := by gcongr
      _ ≤ 2 * leastFull * 2 ^ place bits / 10 ^ 17 := by gcongr
      _ < 2 ^ place bits / 4 := by
          norm_num [leastFull_eq]
          linarith
      _ = 2 ^ (place bits - 2) := by
          rw [zpow_sub₀ two_ne_zero]
          norm_num
  simp only [shortest, hx, binary, if_neg hsignificand.ne']
  rw [stripZeros_value]
  apply Neighbourhood.Within.rounds
  rw [hl]
  exact firstPoint_within (neighbourhood_low_lt hsignificand) (neighbourhood_lt_high _) hfine

end

end DerivedStats.Decimal
