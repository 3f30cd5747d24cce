import DerivedStats.Json.Reader
import DerivedStats.Json.Writer
import Mathlib.Tactic.Lemma
import Mathlib.Tactic.SplitIfs

/-! Quoted text is read as what was quoted. -/

namespace DerivedStats.Json

lemma hexValue?_hexDigit : ∀ d < 16, hexValue? (hexDigit d) = some d := by
  decide

lemma readUnit_control {c : Char} (hc : c.toNat < 0x20) (rest : List Char) :
    readUnit ('0' :: '0' :: hexDigit (c.toNat / 16) :: hexDigit (c.toNat % 16) :: rest) =
      some (some c, rest) := by
  have hhigh := hexValue?_hexDigit (c.toNat / 16) (by omega)
  have hlow := hexValue?_hexDigit (c.toNat % 16) (by omega)
  have hzero : hexValue? '0' = some 0 := by decide
  have hnumber : 0 * 4096 + 0 * 256 + c.toNat / 16 * 16 + c.toNat % 16 = c.toNat := by omega
  have hplain : c.toNat < 0xd800 ∨ 0xe000 ≤ c.toNat := by omega
  simp only [readUnit, readHex, hzero, hhigh, hlow, Option.bind_eq_bind, Option.bind_some,
    Option.pure_def, hnumber, if_pos hplain, Char.ofNat_toNat]

lemma readChars_pair (fuel : Nat) {e c : Char} (he : escape? e = some c) (hu : e ≠ 'u')
    (cs : List Char) :
    readChars (fuel + 1) ('\\' :: e :: cs) =
      (readChars fuel cs).map fun r => (r.1.map (c :: ·), r.2) := by
  rw [readChars, if_neg (by decide), if_pos rfl, he]
  · cases readChars fuel cs <;> rfl
  · exact hu

lemma readChars_escape (fuel : Nat) (c : Char) (cs : List Char) :
    readChars (fuel + 1) (escape c ++ cs) =
      (readChars fuel cs).map fun r => (r.1.map (c :: ·), r.2) := by
  unfold escape
  split_ifs with hquote hback hnew hreturn htab hbell hfeed hcontrol
  · exact hquote ▸ readChars_pair fuel (e := '"') rfl (by decide) cs
  · exact hback ▸ readChars_pair fuel (e := '\\') rfl (by decide) cs
  · exact hnew ▸ readChars_pair fuel (e := 'n') rfl (by decide) cs
  · exact hreturn ▸ readChars_pair fuel (e := 'r') rfl (by decide) cs
  · exact htab ▸ readChars_pair fuel (e := 't') rfl (by decide) cs
  · exact hbell ▸ readChars_pair fuel (e := 'b') rfl (by decide) cs
  · exact hfeed ▸ readChars_pair fuel (e := 'f') rfl (by decide) cs
  · simp only [List.cons_append, List.nil_append]
    rw [readChars, if_neg (by decide), if_pos rfl]
    simp only [readUnit_control hcontrol, Option.bind_eq_bind, Option.bind_some]
    obtain _ | ⟨_ | text, rest⟩ := readChars fuel cs <;> rfl
  · rw [List.singleton_append, readChars.eq_def]
    dsimp only
    rw [if_neg hquote, if_neg hback, if_neg hcontrol]
    cases readChars fuel cs <;> rfl

lemma length_escape (c : Char) : 1 ≤ (escape c).length := by
  unfold escape
  split_ifs <;> simp

lemma readChars_flatMap {s rest : List Char} {fuel : Nat}
    (hfuel : (s.flatMap escape).length < fuel) :
    readChars fuel (s.flatMap escape ++ '"' :: rest) = some (some s, rest) := by
  induction s generalizing fuel with
  | nil =>
    obtain ⟨fuel, rfl⟩ := Nat.exists_eq_add_one_of_ne_zero (by omega : fuel ≠ 0)
    rfl
  | cons c s ih =>
    have hlength := length_escape c
    rw [List.flatMap_cons, List.length_append] at hfuel
    obtain ⟨fuel, rfl⟩ := Nat.exists_eq_add_one_of_ne_zero (by omega : fuel ≠ 0)
    rw [List.flatMap_cons, List.append_assoc, readChars_escape, ih (by omega)]
    rfl

lemma readText_flatMap (s : String) (rest : List Char) :
    readText (s.toList.flatMap escape ++ '"' :: rest) = some (some s, rest) := by
  have hfuel : (s.toList.flatMap escape).length <
      (s.toList.flatMap escape ++ '"' :: rest).length + 1 := by
    rw [List.length_append]
    omega
  rw [readText, readChars_flatMap hfuel]
  simp

lemma toList_quote_append (s : String) (rest : List Char) :
    (quote s).toList ++ rest = '"' :: (s.toList.flatMap escape ++ '"' :: rest) := by
  simp [quote]

end DerivedStats.Json
