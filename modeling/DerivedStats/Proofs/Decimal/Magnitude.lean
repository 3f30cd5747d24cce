import DerivedStats.Decimal.Shortest
import Mathlib.Algebra.Order.Field.Power
import Mathlib.Data.Rat.Cast.Order
import Mathlib.Tactic.FieldSimp
import Mathlib.Tactic.Linarith
import Mathlib.Tactic.Positivity
import Mathlib.Tactic.Ring

/-! The floats from zero on, by their bits: they lie on the line in the order of the bits, and each of
them is what the numbers between two bounds are rounded to. -/

namespace DerivedStats.Decimal

/-- The floats whose last digit has one place fill an octave; the first two spans of bits share it. -/
def octave (bits : ℕ) : ℕ := bits / leastFull - 1

def significand (bits : ℕ) : ℕ := bits - octave bits * leastFull

def place (bits : ℕ) : ℤ := (octave bits : ℤ) - 1074

def magnitude (bits : ℕ) : ℚ := significand bits * 2 ^ place bits

def bound (bits : ℕ) : ℚ := (significand bits + 1 / 2) * 2 ^ place bits

lemma leastFull_eq : leastFull = 2 ^ 52 := rfl

lemma octave_mul_add_significand (bits : ℕ) : octave bits * leastFull + significand bits = bits := by
  simp only [significand, octave, leastFull]
  omega

lemma significand_lt (bits : ℕ) : significand bits < 2 * leastFull := by
  simp only [significand, octave, leastFull]
  omega

lemma leastFull_le_significand {bits : ℕ} (h : octave bits ≠ 0) : leastFull ≤ significand bits := by
  simp only [significand, octave, leastFull] at h ⊢
  omega

lemma significand_pos {bits : ℕ} (h : 0 < bits) : 0 < significand bits := by
  simp only [significand, octave, leastFull] at *
  omega

lemma octave_eq {k m : ℕ} (hm : m < 2 * leastFull) (hk : k = 0 ∨ leastFull ≤ m) :
    octave (k * leastFull + m) = k := by
  simp only [octave, leastFull] at hm hk ⊢
  omega

lemma significand_eq {k m : ℕ} (hm : m < 2 * leastFull) (hk : k = 0 ∨ leastFull ≤ m) :
    significand (k * leastFull + m) = m := by
  rw [significand, octave_eq hm hk, Nat.add_sub_cancel_left]

lemma magnitude_eq {k m : ℕ} (hm : m < 2 * leastFull) (hk : k = 0 ∨ leastFull ≤ m) :
    magnitude (k * leastFull + m) = m * 2 ^ ((k : ℤ) - 1074) := by
  rw [magnitude, place, significand_eq hm hk, octave_eq hm hk]

lemma bound_eq {k m : ℕ} (hm : m < 2 * leastFull) (hk : k = 0 ∨ leastFull ≤ m) :
    bound (k * leastFull + m) = (m + 1 / 2) * 2 ^ ((k : ℤ) - 1074) := by
  rw [bound, place, significand_eq hm hk, octave_eq hm hk]

lemma mod_two_eq_significand (bits : ℕ) : bits % 2 = significand bits % 2 := by
  simp only [significand, octave, leastFull]
  omega

lemma zpow_place_pos (bits : ℕ) : (0 : ℚ) < 2 ^ place bits := by positivity

lemma magnitude_succ (bits : ℕ) : magnitude (bits + 1) = (significand bits + 1) * 2 ^ place bits := by
  have hbits := octave_mul_add_significand bits
  by_cases hlast : significand bits + 1 < 2 * leastFull
  · have hk : octave bits = 0 ∨ leastFull ≤ significand bits + 1 := by
      by_contra! h
      have := leastFull_le_significand h.1
      omega
    have hsucc : bits + 1 = octave bits * leastFull + (significand bits + 1) := by omega
    rw [hsucc, magnitude_eq hlast hk, place]
    push_cast
    rfl
  · -- The significand overflows into the next octave.
    have hfull : significand bits + 1 = 2 * leastFull := by
      have := significand_lt bits
      omega
    have hsucc : bits + 1 = (octave bits + 1) * leastFull + leastFull := by
      rw [Nat.add_mul]
      omega
    have hlt : leastFull < 2 * leastFull := by decide
    rw [hsucc, magnitude_eq hlt (.inr le_rfl), place]
    have hcast : (significand bits : ℚ) + 1 = 2 * leastFull := by exact_mod_cast hfull
    have hplace : ((octave bits + 1 : ℕ) : ℤ) - 1074 = (octave bits : ℤ) - 1074 + 1 := by
      push_cast
      ring
    rw [hcast, hplace, zpow_add_one₀ (by norm_num)]
    ring

lemma magnitude_lt_bound (bits : ℕ) : magnitude bits < bound bits := by
  have := zpow_place_pos bits
  rw [magnitude, bound]
  nlinarith

lemma bound_lt_magnitude_succ (bits : ℕ) : bound bits < magnitude (bits + 1) := by
  have := zpow_place_pos bits
  rw [magnitude_succ, bound]
  nlinarith

lemma bound_sub_magnitude (bits : ℕ) :
    bound bits - magnitude bits = magnitude (bits + 1) - bound bits := by
  rw [magnitude_succ, bound, magnitude]
  ring

lemma magnitude_strictMono : StrictMono magnitude :=
  strictMono_nat_of_lt_succ fun bits =>
    (magnitude_lt_bound bits).trans (bound_lt_magnitude_succ bits)

lemma bound_strictMono : StrictMono bound :=
  strictMono_nat_of_lt_succ fun bits =>
    (bound_lt_magnitude_succ bits).trans (magnitude_lt_bound (bits + 1))

lemma magnitude_nonneg (bits : ℕ) : 0 ≤ magnitude bits := by
  rw [magnitude]
  positivity

/-- The number is rounded to the float with these bits; the bounds are rounded to it if it is even. -/
structure Rounds (r : ℚ) (bits : ℕ) : Prop where
  le_bound : r ≤ bound bits
  bound_le : ∀ b, b + 1 = bits → bound b ≤ r
  even : (r = bound bits ∨ ∃ b, b + 1 = bits ∧ r = bound b) → Even bits

lemma Rounds.pos {r : ℚ} {bits : ℕ} (h : Rounds r bits) (hbits : 0 < bits) : 0 < r := by
  obtain ⟨b, rfl⟩ := Nat.exists_eq_add_one_of_ne_zero hbits.ne'
  exact (magnitude_nonneg b).trans_lt ((magnitude_lt_bound b).trans_le (h.bound_le b rfl))

lemma Rounds.not_before {r : ℚ} {a b : ℕ} (ha : Rounds r a) (hb : Rounds r b) : ¬a < b := by
  intro hab
  obtain ⟨c, rfl⟩ := Nat.exists_eq_add_one_of_ne_zero (Nat.ne_zero_of_lt hab)
  have hac : bound a ≤ bound c := bound_strictMono.monotone (Nat.lt_succ_iff.mp hab)
  have hr : r = bound a := le_antisymm ha.le_bound (hac.trans (hb.bound_le c rfl))
  have hca : a = c := bound_strictMono.injective (le_antisymm hac (hr ▸ hb.bound_le c rfl))
  subst hca
  have heven := ha.even (.inl hr)
  have hodd := hb.even (.inr ⟨a, rfl, hr⟩)
  rw [Nat.even_iff] at heven hodd
  omega

lemma Rounds.unique {r : ℚ} {a b : ℕ} (ha : Rounds r a) (hb : Rounds r b) : a = b :=
  le_antisymm (not_lt.mp (hb.not_before ha)) (not_lt.mp (ha.not_before hb))

end DerivedStats.Decimal
