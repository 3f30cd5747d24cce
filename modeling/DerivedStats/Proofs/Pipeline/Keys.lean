import DerivedStats.Proofs.Pipeline.Lookups

/-! When two formulas of calculations have one key: a mode and a name are joined by a dot, but both
may contain dots. -/

namespace DerivedStats.Pipeline

lemma dotted_eq_iff (a b c d : List Char) :
    a ++ '.' :: b = c ++ '.' :: d ↔
      (a = c ∧ b = d) ∨ (∃ w, c = a ++ '.' :: w ∧ b = w ++ '.' :: d) ∨
        ∃ w, a = c ++ '.' :: w ∧ d = w ++ '.' :: b := by
  constructor
  · intro h
    rcases List.append_eq_append_iff.mp h with ⟨w, hc, hb⟩ | ⟨w, ha, hd⟩
    · cases w with
      | nil => exact .inl ⟨by simpa using hc.symm, (List.cons.inj hb).2⟩
      | cons x w =>
        obtain ⟨rfl, hrest⟩ := List.cons.inj hb
        exact .inr (.inl ⟨w, hc, hrest⟩)
    · cases w with
      | nil => exact .inl ⟨by simpa using ha, (List.cons.inj hd).2.symm⟩
      | cons x w =>
        obtain ⟨rfl, hrest⟩ := List.cons.inj hd
        exact .inr (.inr ⟨w, ha, hrest⟩)
  · rintro (⟨rfl, rfl⟩ | ⟨w, rfl, rfl⟩ | ⟨w, rfl, rfl⟩) <;> simp

/-- The second mode goes on where the first one ends, and the first name begins with the rest of
it. -/
inductive Swallows : String → String → String → String → Prop
  | plain (mode name : String) (hmode : mode ≠ "") :
    Swallows "" (mode ++ "." ++ name) mode name
  | nested (mode rest name : String) (hmode : mode ≠ "") :
    Swallows mode (rest ++ "." ++ name) (mode ++ "." ++ rest) name

lemma calculationKey_empty (name : String) : calculationKey "" name = name := rfl

lemma calculationKey_of_ne {mode : String} (h : mode ≠ "") (name : String) :
    calculationKey mode name = mode ++ "." ++ name := by
  have hempty : mode.isEmpty = false := by simpa using h
  simp [calculationKey, hempty]

lemma Swallows.key_eq {mode name mode' name' : String} (h : Swallows mode name mode' name') :
    calculationKey mode name = calculationKey mode' name' := by
  cases h with
  | plain _ _ hmode => rw [calculationKey_empty, calculationKey_of_ne hmode]
  | nested _ rest _ hmode =>
    rw [calculationKey_of_ne hmode, calculationKey_of_ne (by simp)]
    simp [String.append_assoc]

lemma Swallows.mode_ne {mode name mode' name' : String} (h : Swallows mode name mode' name') :
    mode ≠ mode' := by
  cases h with
  | plain _ _ hmode => exact hmode.symm
  | nested _ rest _ _ =>
    intro heq
    have hlength := congrArg String.length heq
    have hdot : ".".length = 1 := rfl
    rw [String.length_append, String.length_append, hdot] at hlength
    omega

lemma swallows_of_dotted {mode name mode' name' : String} (hmode : mode ≠ "") {w : List Char}
    (hmode' : mode'.toList = mode.toList ++ '.' :: w)
    (hname : name.toList = w ++ '.' :: name'.toList) : Swallows mode name mode' name' := by
  obtain rfl : mode' = mode ++ "." ++ String.ofList w := String.toList_injective (by simp [hmode'])
  obtain rfl : name = String.ofList w ++ "." ++ name' := String.toList_injective (by simp [hname])
  exact .nested mode _ name' hmode

theorem calculationKey_eq_iff (mode name mode' name' : String) :
    calculationKey mode name = calculationKey mode' name' ↔
      (mode = mode' ∧ name = name') ∨ Swallows mode name mode' name' ∨
        Swallows mode' name' mode name := by
  constructor
  · intro h
    by_cases hmode : mode = "" <;> by_cases hmode' : mode' = ""
    · subst hmode hmode'
      exact .inl ⟨rfl, h⟩
    · subst hmode
      rw [calculationKey_empty, calculationKey_of_ne hmode'] at h
      subst h
      exact .inr (.inl (.plain mode' name' hmode'))
    · subst hmode'
      rw [calculationKey_empty, calculationKey_of_ne hmode] at h
      subst h
      exact .inr (.inr (.plain mode name hmode))
    · rw [calculationKey_of_ne hmode, calculationKey_of_ne hmode'] at h
      have hlists : mode.toList ++ '.' :: name.toList = mode'.toList ++ '.' :: name'.toList := by
        simpa using congrArg String.toList h
      rcases (dotted_eq_iff _ _ _ _).mp hlists with ⟨hm, hn⟩ | ⟨w, hm, hn⟩ | ⟨w, hm, hn⟩
      · exact .inl ⟨String.toList_injective hm, String.toList_injective hn⟩
      · exact .inr (.inl (swallows_of_dotted hmode hm hn))
      · exact .inr (.inr (swallows_of_dotted hmode' hm hn))
  · rintro (⟨rfl, rfl⟩ | h | h)
    · rfl
    · exact h.key_eq
    · exact h.key_eq.symm

end DerivedStats.Pipeline
