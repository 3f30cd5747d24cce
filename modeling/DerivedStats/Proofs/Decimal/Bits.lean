import DerivedStats.Decimal.Layout
import DerivedStats.Proofs.Decimal.Rounding
import DerivedStats.Proofs.Decimal.Shortest

/-! The floats themselves: a finite one is its sign and the bits of its magnitude, and zero minus a
float turns the sign. -/

namespace DerivedStats.Decimal

open Float.Model (UnpackedFloat)
open Float.Model.UnpackedFloat (Sign pack packComponents unpack unpackExponent unpackMantissa
  unpackSign)
open Float.Model.Format (binary64)

def unsigned (b : BitVec 64) : ℕ := b.toNat % 2 ^ 63

section

variable {b : BitVec 64} {s : Sign} {bits : ℕ}

lemma unpackMantissa_eq (b : BitVec 64) :
    @unpackMantissa binary64 b = BitVec.ofNat 52 (unsigned b) := by
  apply BitVec.eq_of_toNat_eq
  simp only [unpackMantissa, unsigned, BitVec.toNat_cast, BitVec.extractLsb_toNat,
    BitVec.toNat_ofNat]
  omega

lemma unpackExponent_eq (b : BitVec 64) :
    @unpackExponent binary64 b = BitVec.ofNat 11 (unsigned b / leastFull) := by
  apply BitVec.eq_of_toNat_eq
  simp only [unpackExponent, unsigned, BitVec.toNat_cast, BitVec.extractLsb_toNat,
    BitVec.toNat_ofNat, Nat.shiftRight_eq_div_pow, leastFull]
  omega

lemma unpackSign_eq (b : BitVec 64) : @unpackSign binary64 b = BitVec.cast rfl (b.extractLsb 63 63) :=
  rfl

lemma packComponents_unpack (b : BitVec 64) :
    packComponents binary64 (Sign.ofBitVec (@unpackSign binary64 b))
      (BitVec.ofNat 11 (unsigned b / leastFull)) (BitVec.ofNat 52 (unsigned b)) = b := by
  have hsign : ∀ v : BitVec 1, (Sign.ofBitVec v).toBitVec = v := by decide
  rw [← unpackMantissa_eq, ← unpackExponent_eq]
  simp only [packComponents, hsign, unpackSign_eq, unpackExponent, unpackMantissa,
    BitVec.extractLsb]
  ext i hi
  grind

lemma quotient_lt (h : bits < infinityBits) : bits / leastFull < 2047 := by
  simp only [infinityBits, leastFull] at *
  omega

lemma exponent_ne (h : unsigned b < infinityBits) : @unpackExponent binary64 b ≠ -1#11 := by
  have hlt := quotient_lt h
  rw [unpackExponent_eq]
  intro heq
  have hnat := congrArg BitVec.toNat heq
  rw [BitVec.toNat_ofNat, Nat.mod_eq_of_lt (by omega)] at hnat
  rw [hnat] at hlt
  exact absurd hlt (by decide)

lemma unpack_of_zero (h : unsigned b = 0) :
    unpack binary64 b = .zero (Sign.ofBitVec (@unpackSign binary64 b)) := by
  have hexponent : @unpackExponent binary64 b = 0#11 := by
    rw [unpackExponent_eq, h]
    rfl
  have hmantissa : @unpackMantissa binary64 b = 0#52 := by rw [unpackMantissa_eq, h]
  have hfinite : unsigned b < infinityBits := h ▸ (by decide)
  exact (if_neg (exponent_ne hfinite)).trans ((if_pos hexponent).trans (dif_pos hmantissa))

lemma unpack_of_pos (hpos : 0 < unsigned b) (hfinite : unsigned b < infinityBits) :
    unpack binary64 b = .finite (Sign.ofBitVec (@unpackSign binary64 b))
      (significand (unsigned b)) (place (unsigned b)) (significand_pos hpos) := by
  have hlt := quotient_lt hfinite
  have hexponent : (@unpackExponent binary64 b).toNat = unsigned b / leastFull := by
    rw [unpackExponent_eq, BitVec.toNat_ofNat]
    exact Nat.mod_eq_of_lt (hlt.trans (by decide))
  have hmantissa : (@unpackMantissa binary64 b).toNat = unsigned b % leastFull := by
    rw [unpackMantissa_eq, BitVec.toNat_ofNat]
    rfl
  refine (if_neg (exponent_ne hfinite)).trans ?_
  by_cases hsub : unsigned b / leastFull = 0
  · have hzero : @unpackExponent binary64 b = 0#11 := BitVec.eq_of_toNat_eq (hexponent.trans hsub)
    have hne : @unpackMantissa binary64 b ≠ 0#52 := by
      intro heq
      rw [heq] at hmantissa
      change 0 = _ at hmantissa
      simp only [leastFull] at *
      omega
    refine (if_pos hzero).trans ((dif_neg hne).trans ?_)
    rw [UnpackedFloat.finite.injEq]
    refine ⟨rfl, ?_, ?_⟩
    · rw [hmantissa]
      simp only [significand, octave, leastFull] at *
      omega
    · rw [hexponent, place, octave, hsub]
      rfl
  · have hne : @unpackExponent binary64 b ≠ 0#11 := by
      intro heq
      rw [heq] at hexponent
      exact hsub hexponent.symm
    refine (if_neg hne).trans ?_
    rw [UnpackedFloat.finite.injEq]
    refine ⟨rfl, ?_, ?_⟩
    · rw [BitVec.toNat_append, ← Nat.shiftLeft_add_eq_or_of_lt (BitVec.isLt _), hmantissa]
      change 1 <<< 52 + _ = _
      simp only [significand, octave, leastFull] at *
      omega
    · rw [hexponent, place, octave]
      change ((unsigned b / leastFull : ℕ) : ℤ) - (1023 + 52) = _
      omega

lemma pack_finite (hfinite : bits < infinityBits) (h : 0 < significand bits) :
    pack binary64 (.finite s (significand bits) (place bits) h) =
      packComponents binary64 s (BitVec.ofNat 11 (bits / leastFull)) (BitVec.ofNat 52 bits) := by
  have hlt := quotient_lt hfinite
  have hbiased : (place bits + binary64.exponentBias + binary64.mantissaBitsWithoutImplicit).toNat =
      octave bits + 1 := by
    change (place bits + 1023 + 52).toNat = _
    rw [place]
    omega
  have hfits : ¬2 ^ binary64.exponentBits ≤
      (place bits + binary64.exponentBias + binary64.mantissaBitsWithoutImplicit).toNat + 1 := by
    rw [hbiased]
    change ¬2048 ≤ octave bits + 1 + 1
    rw [octave]
    omega
  have hmantissa : BitVec.ofNat 52 (significand bits) = BitVec.ofNat 52 bits := by
    apply BitVec.eq_of_toNat_eq
    simp only [BitVec.toNat_ofNat, significand, octave, leastFull]
    omega
  refine (if_neg hfits).trans ?_
  by_cases hsub : bits / leastFull = 0
  · have hless : (significand bits).log2 < 52 := by
      rw [Nat.log2_lt h.ne']
      simp only [significand, octave, leastFull] at *
      omega
    have hnormal : ¬(significand bits).log2 + 1 = binary64.mantissaBits := by
      change ¬_ = 53
      omega
    refine (if_neg hnormal).trans ?_
    rw [hsub]
    exact congrArg _ hmantissa
  · have hfull : (significand bits).log2 = 52 := by
      rw [Nat.log2_eq_iff h.ne']
      simp only [significand, octave, leastFull] at *
      omega
    have hnormal : (significand bits).log2 + 1 = binary64.mantissaBits := by
      rw [hfull]
      rfl
    have hoctave : octave bits + 1 = bits / leastFull :=
      Nat.sub_add_cancel (Nat.one_le_iff_ne_zero.mpr hsub)
    refine (if_pos hnormal).trans ?_
    rw [hbiased, hoctave]
    exact congrArg _ hmantissa

lemma pack_unpack (hfinite : unsigned b < infinityBits) :
    pack binary64 (unpack binary64 b) = b := by
  conv_rhs => rw [← packComponents_unpack b]
  rcases Nat.eq_zero_or_pos (unsigned b) with hzero | hpos
  · rw [unpack_of_zero hzero, hzero]
    rfl
  · rw [unpack_of_pos hpos hfinite, pack_finite hfinite]

lemma isFinite_unpack (h : unsigned b < infinityBits) : (unpack binary64 b).isFinite = true := by
  rcases Nat.eq_zero_or_pos (unsigned b) with hzero | hpos
  · rw [unpack_of_zero hzero]
    rfl
  · rw [unpack_of_pos hpos h]
    rfl

lemma unpack_of_infinityBits_le (h : infinityBits ≤ unsigned b) :
    (unpack binary64 b).isFinite = false := by
  have hexponent : @unpackExponent binary64 b = -1#11 := by
    rw [unpackExponent_eq]
    have hquotient : unsigned b / leastFull = 2047 := by
      simp only [unsigned, infinityBits, leastFull] at *
      omega
    rw [hquotient]
    rfl
  have hunpack : unpack binary64 b = if @unpackMantissa binary64 b = 0#52 then
      .infinity (Sign.ofBitVec (@unpackSign binary64 b)) else .notANumber := if_pos hexponent
  rw [hunpack]
  split_ifs
  · rfl
  · rfl

end

def magnitudeBits (x : Float) : ℕ := unsigned x.toBits.toBitVec

section

variable {x : Float} {bits : ℕ}

lemma isFinite_iff : x.isFinite ↔ magnitudeBits x < infinityBits := by
  change (unpack binary64 x.toBits.toBitVec).isFinite = true ↔ _
  refine ⟨fun h => ?_, isFinite_unpack⟩
  by_contra hnot
  rw [unpack_of_infinityBits_le (not_lt.mp hnot)] at h
  contradiction

lemma float_ext {x y : Float} (h : x.toBits = y.toBits) : x = y := by
  obtain ⟨⟨b, hb⟩⟩ := x
  obtain ⟨⟨c, hc⟩⟩ := y
  obtain rfl : b = c := h
  rfl

lemma toBits_ofBits {w : UInt64} (h : unsigned w.toBitVec < infinityBits) :
    (Float.ofBits w).toBits = w :=
  congrArg UInt64.ofBitVec (pack_unpack h)

lemma toNat_toBits (x : Float) :
    x.toBits.toNat = (if isNegative x then 2 ^ 63 else 0) + magnitudeBits x := by
  have hlt : x.toBits.toNat < 2 ^ 64 := x.toBits.toNat_lt
  have hsign : isNegative x ↔ x.toBits.toNat / 2 ^ 63 = 1 := by
    rw [isNegative, beq_iff_eq, ← UInt64.toNat_inj, UInt64.toNat_shiftRight,
      Nat.shiftRight_eq_div_pow]
    rfl
  change _ = _ + x.toBits.toNat % 2 ^ 63
  split_ifs with hx
  · have := hsign.mp hx
    omega
  · have := mt hsign.mpr hx
    omega

lemma zero_of_magnitudeBits (h : magnitudeBits x = 0) : x = 0 ∨ x = -0 := by
  have hbits := toNat_toBits x
  rw [h] at hbits
  split_ifs at hbits
  · exact .inr (float_ext (UInt64.toNat_inj.mp hbits))
  · exact .inl (float_ext (UInt64.toNat_inj.mp hbits))

lemma exists_float (negative : Bool) (h : bits < infinityBits) :
    ∃ x : Float, x.isFinite ∧ isNegative x = negative ∧ magnitudeBits x = bits := by
  generalize hw : UInt64.ofNat ((if negative then 2 ^ 63 else 0) + bits) = w
  have hword : w.toNat = (if negative then 2 ^ 63 else 0) + bits := by
    rw [← hw, UInt64.toNat_ofNat']
    simp only [infinityBits] at h
    split_ifs
    all_goals omega
  have hunsigned : unsigned w.toBitVec = bits := by
    change w.toNat % 2 ^ 63 = bits
    simp only [infinityBits] at h
    split_ifs at hword
    all_goals omega
  have hbits : (Float.ofBits w).toBits = w := toBits_ofBits (hunsigned ▸ h)
  have hmagnitude : magnitudeBits (Float.ofBits w) = bits := by rw [magnitudeBits, hbits, hunsigned]
  refine ⟨Float.ofBits w, isFinite_iff.mpr (hmagnitude ▸ h), ?_, hmagnitude⟩
  have hnat := toNat_toBits (Float.ofBits w)
  rw [hbits, hword, hmagnitude, Nat.add_right_cancel_iff] at hnat
  by_contra hne
  rw [Bool.eq_not_of_ne hne] at hnat
  cases negative
  all_goals simp at hnat

lemma ofBits_toBits (hfinite : x.isFinite) : Float.ofBits x.toBits = x :=
  float_ext (toBits_ofBits (isFinite_iff.mp hfinite))

lemma ofBits_magnitudeBits (hfinite : x.isFinite) (hsign : isNegative x = false) :
    Float.ofBits (UInt64.ofNat (magnitudeBits x)) = x := by
  have hbits := toNat_toBits x
  rw [hsign, if_neg Bool.false_ne_true, Nat.zero_add] at hbits
  rw [← hbits, UInt64.ofNat_toNat, ofBits_toBits hfinite]

lemma sign_eq (x : Float) : Sign.ofBitVec (@unpackSign binary64 x.toBits.toBitVec) =
    if isNegative x then .negative else .positive := by
  have hbits := toNat_toBits x
  have hlt : magnitudeBits x < 2 ^ 63 := Nat.mod_lt _ (by decide)
  have hvalue : @unpackSign binary64 x.toBits.toBitVec = BitVec.ofNat 1 (x.toBits.toNat / 2 ^ 63) := by
    apply BitVec.eq_of_toNat_eq
    rw [unpackSign_eq, BitVec.toNat_cast, BitVec.extractLsb_toNat, BitVec.toNat_ofNat,
      Nat.shiftRight_eq_div_pow]
    rfl
  rw [hvalue]
  split_ifs with hx
  · rw [if_pos hx] at hbits
    rw [show x.toBits.toNat / 2 ^ 63 = 1 by omega]
    rfl
  · rw [if_neg hx] at hbits
    rw [show x.toBits.toNat / 2 ^ 63 = 0 by omega]
    rfl

lemma unpack_toBits (hmagnitude : magnitudeBits x = bits) (hpos : 0 < bits)
    (hfinite : bits < infinityBits) :
    unpack binary64 x.toBits.toBitVec =
      .finite (if isNegative x then .negative else .positive) (significand bits) (place bits)
        (significand_pos hpos) := by
  subst hmagnitude
  rw [← sign_eq]
  exact unpack_of_pos hpos hfinite

lemma toBits_sub (x y : Float) : (x - y).toBits.toBitVec =
    pack binary64 (.sub binary64 (unpack binary64 x.toBits.toBitVec)
      (unpack binary64 y.toBits.toBitVec)) := rfl

lemma zero_sub_ofBits (hfinite : x.isFinite) (hsign : isNegative x)
    (hpos : 0 < magnitudeBits x) :
    0 - Float.ofBits (UInt64.ofNat (magnitudeBits x)) = x := by
  have hbits := isFinite_iff.mp hfinite
  obtain ⟨y, hy, hpositive, hmagnitude⟩ := exists_float false hbits
  have hzero : unpack binary64 (0 : Float).toBits.toBitVec = .zero .positive := rfl
  rw [← hmagnitude, ofBits_magnitudeBits hy hpositive]
  apply float_ext
  apply UInt64.toBitVec_inj.mp
  rw [toBits_sub, hzero, unpack_toBits hmagnitude hpos hbits, hpositive,
    ← pack_unpack (b := x.toBits.toBitVec) hbits, unpack_toBits rfl hpos hbits, hsign]
  rfl

lemma ofFloat_eq (x : Float) : Binary.ofFloat x = binary (magnitudeBits x) := by
  have hbits : x.toBits.toNat % leastFull = magnitudeBits x % leastFull ∧
      x.toBits.toNat / leastFull % 2048 = magnitudeBits x / leastFull := by
    change _ ∧ _ = x.toBits.toNat % 2 ^ 63 / leastFull
    rw [magnitudeBits, unsigned]
    change _ = x.toBits.toNat % 2 ^ 63 % leastFull ∧ _
    simp only [leastFull]
    omega
  simp only [Binary.ofFloat, hbits, binary, significand, place, octave]
  generalize magnitudeBits x = bits
  split
  · next hzero =>
    rw [hzero]
    simp only [leastFull] at *
    rw [Binary.mk.injEq]
    omega
  · next hone =>
    rw [hone]
    simp only [leastFull] at *
    rw [Binary.mk.injEq]
    omega
  · next hzero hone =>
    have hlarge : 2 ≤ bits / leastFull := Nat.two_le_iff _ |>.mpr ⟨hzero, hone⟩
    simp only [leastFull] at *
    rw [Binary.mk.injEq]
    omega

lemma not_nan_of_isFinite (hfinite : x.isFinite) : x.isNaN = false ∧ x.isInf = false := by
  change (unpack binary64 x.toBits.toBitVec).isFinite = true at hfinite
  change (unpack binary64 x.toBits.toBitVec).isNaN = false ∧
    (unpack binary64 x.toBits.toBitVec).isInf = false
  cases hx : unpack binary64 x.toBits.toBitVec with
  | notANumber | infinity s =>
    rw [hx] at hfinite
    contradiction
  | zero s | finite s m e h => exact ⟨rfl, rfl⟩

lemma nan_or_inf_of_not_isFinite (h : x.isFinite = false) : x.isNaN = true ∨ x.isInf = true := by
  change (unpack binary64 x.toBits.toBitVec).isFinite = false at h
  change (unpack binary64 x.toBits.toBitVec).isNaN = true ∨
    (unpack binary64 x.toBits.toBitVec).isInf = true
  cases hx : unpack binary64 x.toBits.toBitVec with
  | notANumber => exact .inl rfl
  | infinity s => exact .inr rfl
  | zero s | finite s m e hm =>
    rw [hx] at h
    contradiction

end

end DerivedStats.Decimal
