import DerivedStats.Proofs.Formula.SoundPrimaries

/-! What the compiler accepts is derived by the grammar. -/

namespace DerivedStats.Formula.Grammar

def inside : ℕ → Option (Parser Expr)
  | 0 => none
  | n + 1 => some (levels (signed n))

lemma signed_succ (n : ℕ) (s : Cursor) : signed (n + 1) s =
    match s.skipBlanks.rest with
    | '+' :: _ => signed n (s.skipBlanks.drop 1)
    | '-' :: _ => do
      let d ← (s.skipBlanks.drop 1).grow
      let (x, d) ← signed n d
      .ok (.binary .sub (.number 0) x, d)
    | _ => primary (inside n) s.skipBlanks := by
  rw [signed.eq_def]
  cases n <;> rfl

lemma signed_succ_sound {n : ℕ} (hs : Sound n .signed (signed n)) (hi : SoundInner n (inside n)) :
    Sound (n + 1) .signed (signed (n + 1)) := by
  intro s x t h
  rw [signed_succ] at h
  split at h
  · rename_i cs hcs
    obtain ⟨ts, hts, hpass⟩ := hs _ _ _ h
    have hplus : Passes [.operator .add] 0 s (s.skipBlanks.drop 1) :=
      .first hcs (.symbol (by simp))
    exact ⟨_, .plus hts, by simpa using hplus.trans hpass⟩
  · rename_i cs hcs
    obtain ⟨d, hd, h⟩ := bind_eq_ok.mp h
    obtain ⟨⟨y, e⟩, hy, h⟩ := bind_eq_ok.mp h
    obtain ⟨rfl, rfl⟩ := by simpa using h
    obtain ⟨ts, hts, hpass⟩ := hs _ _ _ hy
    have hminus : Passes [.operator .sub] 0 s (s.skipBlanks.drop 1) :=
      .first hcs (.symbol (by simp))
    refine ⟨_, .minus hts, ?_⟩
    simpa [Expr.operatorCount, Nat.add_comm] using (hminus.trans (.grow hd)).trans hpass
  · obtain ⟨ts, hts, hpass⟩ := primary_sound hi _ _ _ h
    exact ⟨ts, .unsigned hts, hpass.blanks⟩

lemma signed_sound (n : ℕ) : Sound n .signed (signed n) ∧ SoundInner n (inside n) := by
  induction n with
  | zero => exact ⟨fun s x t h => by contradiction, fun p hp => by contradiction⟩
  | succ n ih =>
    refine ⟨signed_succ_sound ih.1 ih.2, fun p hp => ?_⟩
    obtain rfl := Option.some.inj hp
    exact ⟨n, rfl, levels_sound ih.1⟩

lemma expression_sound : Sound nestingLimit (.joined .or) expression :=
  levels_sound (signed_sound nestingLimit).1

lemma compile_sound {text : String} {e : Expr} (h : compile text = .ok e) :
    ∃ ts, Spelled ts text.toList ∧ Derives nestingLimit (.joined .or) ts e ∧
      e.operatorCount ≤ operatorLimit := by
  obtain ⟨⟨x, t⟩, hx, h⟩ := bind_eq_ok.mp h
  simp only at h
  split at h
  · rename_i hrest
    obtain rfl := Except.ok.inj h
    obtain ⟨ts, hts, hpass⟩ := expression_sound _ _ _ hx
    have hend : Spelled [] t.rest := by
      apply Spelled.of_skipped
      rw [← Cursor.skipBlanks_rest, List.isEmpty_iff.mp hrest]
      exact .done (by simp)
    refine ⟨ts, by simpa [Cursor.start] using hpass.spelled [] hend, hts, ?_⟩
    have hbound := hpass.bounded (Nat.zero_le _)
    rwa [hpass.counted, Cursor.start, Nat.zero_add] at hbound
  · rw [Cursor.failHere, Cursor.fail] at h
    split at h <;> contradiction

end DerivedStats.Formula.Grammar
