import DerivedStats.Attribute.Key
import DerivedStats.Proofs.Text.Trimming
import Mathlib.Tactic.Lemma

/-! A canonical key is its own canonical key, whatever text it was made of. -/

namespace DerivedStats.Attribute

open Text (isBlank)

lemma toLower_eq_self {c : Char} (h : c.toNat < 0x41 ∨ 0x5a < c.toNat) : c.toLower = c := by
  unfold Char.toLower
  split
  · next hupper =>
    simp only [UInt32.le_iff_toNat_le, ge_iff_le] at hupper
    have hlow : 0x41 ≤ c.toNat := hupper.1
    have hhigh : c.toNat ≤ 0x5a := hupper.2
    omega
  · rfl

lemma toLower_cases (c : Char) :
    c.toLower = c ∨ 0x61 ≤ c.toLower.toNat ∧ c.toLower.toNat ≤ 0x7a := by
  by_cases h : c.toNat < 0x41 ∨ 0x5a < c.toNat
  · exact .inl (toLower_eq_self h)
  · right
    have hlow : 0x41 ≤ c.val.toNat := by change 0x41 ≤ c.toNat; omega
    have hhigh : c.val.toNat ≤ 0x5a := by change c.toNat ≤ 0x5a; omega
    unfold Char.toLower
    rw [dif_pos ⟨UInt32.le_iff_toNat_le.mpr hlow, UInt32.le_iff_toNat_le.mpr hhigh⟩]
    change 0x61 ≤ (c.val + ('a'.val - 'A'.val)).toNat ∧ (c.val + ('a'.val - 'A'.val)).toNat ≤ 0x7a
    have hgap : ('a'.val - 'A'.val).toNat = 32 := by decide
    rw [UInt32.toNat_add]
    omega

lemma toLower_toLower (c : Char) : c.toLower.toLower = c.toLower := by
  obtain h | h := toLower_cases c
  · rw [h, h]
  · exact toLower_eq_self (.inr (by omega))

lemma isBlank_toLower {c : Char} (h : isBlank c = false) : isBlank c.toLower = false := by
  obtain hself | hletter := toLower_cases c
  · rw [hself, h]
  · simp [isBlank]
    omega

lemma toLower_ne_hyphen {c : Char} (h : c ≠ '-') : c.toLower ≠ '-' := by
  obtain hself | hletter := toLower_cases c
  · rwa [hself]
  · intro heq
    rw [heq] at hletter
    exact absurd hletter (by decide)

lemma canonicalChar_not_blank (c : Char) : isBlank (canonicalChar c) = false := by
  unfold canonicalChar
  split
  · rfl
  · next h => exact isBlank_toLower (by simpa using (not_or.mp h).2)

lemma canonicalChar_ne_hyphen (c : Char) : canonicalChar c ≠ '-' := by
  unfold canonicalChar
  split
  · decide
  · next h => exact toLower_ne_hyphen (not_or.mp h).1

lemma canonicalChar_canonicalChar (c : Char) :
    canonicalChar (canonicalChar c) = canonicalChar c := by
  have hkept : canonicalChar (canonicalChar c) = (canonicalChar c).toLower :=
    if_neg (not_or.mpr ⟨canonicalChar_ne_hyphen c, by simp [canonicalChar_not_blank c]⟩)
  rw [hkept]
  unfold canonicalChar
  split
  · rfl
  · exact toLower_toLower c

theorem canonicalKey_canonicalKey (s : String) :
    canonicalKey (canonicalKey s) = canonicalKey s := by
  have hblank : ∀ c ∈ (Text.trimmed s.toList).map canonicalChar, isBlank c = false := by
    intro c hc
    obtain ⟨d, -, rfl⟩ := List.mem_map.mp hc
    exact canonicalChar_not_blank d
  rw [canonicalKey, canonicalKey, String.toList_ofList, Text.trimmed_of_forall_not hblank,
    List.map_map]
  congr 1
  exact List.map_congr_left fun c _ => canonicalChar_canonicalChar c

lemma canonicalKey_trimmed (s : String) :
    canonicalKey (String.ofList (Text.trimmed s.toList)) = canonicalKey s := by
  simp only [canonicalKey, String.toList_ofList, Text.trimmed_trimmed]

end DerivedStats.Attribute
