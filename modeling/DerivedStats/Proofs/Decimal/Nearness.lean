import DerivedStats.Proofs.Decimal.Bits
import Mathlib.Algebra.Order.Group.Abs

/-! The number that a float is, and the float nearest to a number. -/

namespace DerivedStats.Decimal

def value (x : Float) : ℚ :=
  if isNegative x then -magnitude (magnitudeBits x) else magnitude (magnitudeBits x)

/-- No finite float is nearer to the number, and if another is as near then this one is even. -/
structure IsNearest (r : ℚ) (x : Float) : Prop where
  finite : x.isFinite
  le : ∀ y : Float, y.isFinite → |value x - r| ≤ |value y - r|
  even : ∀ y : Float, y.isFinite → |value y - r| = |value x - r| →
    value y = value x ∨ Even (magnitudeBits x)

section

variable {r : ℚ} {bits b c : ℕ}

lemma nearer_above (hr : bound c ≤ r) (hb : b ≤ c) :
    |magnitude (c + 1) - r| ≤ |magnitude b - r| ∧
      (|magnitude b - r| = |magnitude (c + 1) - r| → r = bound c) := by
  have hmono := magnitude_strictMono.monotone hb
  have hhalf := bound_sub_magnitude c
  have hbelow := magnitude_lt_bound c
  have hdistance : |magnitude b - r| = r - magnitude b := by
    rw [abs_sub_comm, abs_of_nonneg]
    linarith
  rw [hdistance]
  rcases abs_cases (magnitude (c + 1) - r) with ⟨habs, -⟩ | ⟨habs, -⟩
  · rw [habs]
    exact ⟨by linarith, fun heq => by linarith⟩
  · rw [habs]
    exact ⟨by linarith, fun heq => by linarith⟩

lemma nearer_below (hr : r ≤ bound c) (hb : c < b) :
    |magnitude c - r| ≤ |magnitude b - r| ∧
      (|magnitude b - r| = |magnitude c - r| → r = bound c) := by
  have hmono : magnitude (c + 1) ≤ magnitude b := magnitude_strictMono.monotone hb
  have hhalf := bound_sub_magnitude c
  have habove := bound_lt_magnitude_succ c
  have hdistance : |magnitude b - r| = magnitude b - r := by
    rw [abs_of_nonneg]
    linarith
  rw [hdistance]
  rcases abs_cases (magnitude c - r) with ⟨habs, -⟩ | ⟨habs, -⟩
  · rw [habs]
    exact ⟨by linarith, fun heq => by linarith⟩
  · rw [habs]
    exact ⟨by linarith, fun heq => by linarith⟩

lemma Rounds.nearest (h : Rounds r bits) (b : ℕ) :
    |magnitude bits - r| ≤ |magnitude b - r| ∧
      (|magnitude b - r| = |magnitude bits - r| → b = bits ∨ Even bits) := by
  rcases lt_trichotomy b bits with hlt | rfl | hlt
  · obtain ⟨c, rfl⟩ := Nat.exists_eq_add_one_of_ne_zero (Nat.ne_zero_of_lt hlt)
    obtain ⟨hle, htie⟩ := nearer_above (h.bound_le c rfl) (Nat.lt_succ_iff.mp hlt)
    exact ⟨hle, fun heq => .inr (h.even (.inr ⟨c, rfl, htie heq⟩))⟩
  · exact ⟨le_rfl, fun _ => .inl rfl⟩
  · obtain ⟨hle, htie⟩ := nearer_below h.le_bound hlt
    exact ⟨hle, fun heq => .inr (h.even (.inl (htie heq)))⟩

lemma Rounds.nearer_than_zero (h : Rounds r bits) (hr : 0 ≤ r) :
    |magnitude bits - r| ≤ r ∧ (|magnitude bits - r| = r → Even bits) := by
  have hzero : |magnitude 0 - r| = r := by
    have hmagnitude : magnitude 0 = 0 := by norm_num [magnitude, significand]
    rw [hmagnitude, zero_sub, abs_neg, abs_of_nonneg hr]
  obtain ⟨hle, htie⟩ := h.nearest 0
  rw [hzero] at hle htie
  refine ⟨hle, fun heq => ?_⟩
  rcases htie heq.symm with rfl | heven
  · exact .zero
  · exact heven

end

section

variable {x y : Float} {r : ℚ}

lemma abs_value_sub (hsign : isNegative y = isNegative x) :
    |value y - (if isNegative x then -r else r)| = |magnitude (magnitudeBits y) - r| := by
  rw [value, hsign]
  split_ifs
  · rw [← neg_sub', abs_neg]
  · rfl

lemma abs_value_add (hr : 0 ≤ r) (hsign : isNegative y ≠ isNegative x) :
    |value y - (if isNegative x then -r else r)| = magnitude (magnitudeBits y) + r := by
  have hnonneg := magnitude_nonneg (magnitudeBits y)
  rw [value, Bool.eq_not_of_ne hsign]
  cases isNegative x
  · simp only [Bool.not_false, if_true, Bool.false_eq_true, if_false]
    rw [abs_of_nonpos (by linarith)]
    ring
  · simp only [Bool.not_true, if_true, Bool.false_eq_true, if_false]
    rw [abs_of_nonneg (by linarith)]
    ring

lemma isNearest_of_rounds (hfinite : x.isFinite) (hr : 0 ≤ r) (h : Rounds r (magnitudeBits x)) :
    IsNearest (if isNegative x then -r else r) x where
  finite := hfinite
  le y _ := by
    rw [abs_value_sub rfl]
    by_cases hsign : isNegative y = isNegative x
    · rw [abs_value_sub hsign]
      exact (h.nearest _).1
    · have hzero := (h.nearer_than_zero hr).1
      have hnonneg := magnitude_nonneg (magnitudeBits y)
      rw [abs_value_add hr hsign]
      linarith
  even y _ heq := by
    rw [abs_value_sub rfl] at heq
    by_cases hsign : isNegative y = isNegative x
    · rw [abs_value_sub hsign] at heq
      refine ((h.nearest _).2 heq).imp_left fun hbits => ?_
      rw [value, value, hsign, hbits]
    · obtain ⟨hzero, heven⟩ := h.nearer_than_zero hr
      have hnonneg := magnitude_nonneg (magnitudeBits y)
      rw [abs_value_add hr hsign] at heq
      exact .inr (heven (by linarith))

end

end DerivedStats.Decimal
