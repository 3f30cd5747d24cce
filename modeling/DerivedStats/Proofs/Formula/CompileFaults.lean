import DerivedStats.Proofs.Formula.CompileComplete
import DerivedStats.Proofs.Formula.FaultPrimaries

/-! A text that is no formula is a formula up to the place of the fault. -/

namespace DerivedStats.Formula

lemma utf8ByteSize_ofList (cs : List Char) : (String.ofList cs).utf8ByteSize = byteSize cs := by
  induction cs with
  | nil => rfl
  | cons c cs ih =>
    rw [String.ofList_cons, String.utf8ByteSize_append, ih, String.utf8ByteSize_singleton, byteSize]

namespace Grammar

open Cursor (Leads)

section

variable {n k : ℕ} {pre ts : List Token} {x : Expr} {s t : Cursor} {err : CompileError}

lemma signed_succ_points (hp : Points n .signed (signed n)) (hsi : SoundInner n (inside n))
    (hpi : PointsInner n (inside n)) : Points (n + 1) .signed (signed (n + 1)) := by
  intro s err h
  rw [signed_succ] at h
  split at h
  · next cs hcs =>
    have hplus : Passes [.operator .add] 0 s (s.skipBlanks.drop 1) :=
      .first hcs (.symbol (by simp))
    exact (hp _ _ h).within hplus fun ts x hx => ⟨x, by simpa using hx.plus, (Nat.zero_add _).symm⟩
  · next cs hcs =>
    have hminus : Passes [.operator .sub] 0 s (s.skipBlanks.drop 1) :=
      .first hcs (.symbol (by simp))
    rcases bind_eq_error.mp h with h | ⟨d, hd, h⟩
    · obtain rfl := grow_eq_error h
      obtain ⟨front, hleads, -⟩ := hminus.read
      exact .tooDeep hleads
    · rcases bind_eq_error.mp h with h | ⟨_, _, h⟩
      · refine (hp _ _ h).within (hminus.trans (.grow hd)) fun ts x hx => ?_
        refine ⟨_, by simpa using hx.minus, ?_⟩
        simp only [Expr.operatorCount]
        omega
      · contradiction
  · refine (primary_points hsi hpi _ _ h).within (.skipBlanks s) fun ts x hx => ?_
    exact ⟨x, by simpa using hx.unsigned, (Nat.zero_add _).symm⟩

lemma signed_points (n : ℕ) : Points n .signed (signed n) ∧ PointsInner n (inside n) := by
  induction n with
  | zero =>
    refine ⟨fun s err h => ?_, fun p hp => by contradiction⟩
    obtain rfl := Except.error.inj h
    exact .tooDeep (.refl s)
  | succ n ih =>
    obtain ⟨hs, hsi⟩ := signed_sound n
    refine ⟨signed_succ_points ih.1 hsi ih.2, fun p hp m hm => ?_⟩
    obtain rfl := Option.some.inj hp
    obtain rfl := Nat.succ.inj hm
    exact levels_points hs ih.1

lemma expression_points : Points nestingLimit (.joined .or) expression :=
  levels_points (signed_sound nestingLimit).1 (signed_points nestingLimit).1

lemma compile_faultAhead {text : String} (h : compile text = .error err) :
    FaultAhead nestingLimit (.joined .or) (Cursor.start text.toList) err := by
  rcases bind_eq_error.mp h with h | ⟨⟨x, t⟩, hx, h⟩
  · exact expression_points _ _ h
  · obtain ⟨ts, hts, hpass⟩ := expression_sound _ _ _ hx
    simp only at h
    split at h
    · contradiction
    · obtain ⟨hposition, hshows⟩ := failHere_eq_error h
      have hskipped := hpass.trans (.skipBlanks t)
      exact .here hskipped .nil (by simpa using hts) hposition hshows

lemma Viable.compile {front text : List Char}
    (hviable : Viable nestingLimit (.joined .or) (Cursor.start text) t)
    (hleads : Leads front (Cursor.start text) t) :
    ∃ more e, Formula.compile (String.ofList front ++ more) = .ok e := by
  obtain ⟨ts, us, x, hus, hx, ⟨front', hleads', hspells⟩, hcounted, hbounded⟩ := hviable
  obtain rfl : front = front' := List.append_cancel_right (hleads.rest.symm.trans hleads'.rest)
  obtain ⟨cs, hcs⟩ := hus.spelled
  have hboundary : Boundary (' ' :: cs) := by
    intro c hc
    obtain rfl := Option.some.inj hc
    decide
  have hlimit := hbounded (Nat.zero_le _)
  rw [hcounted, Cursor.start, Nat.zero_add] at hlimit
  refine ⟨String.ofList (' ' :: cs), x, compile_complete ?_ hx hlimit⟩
  rw [String.toList_append, String.toList_ofList, String.toList_ofList]
  exact hspells us _ (fun _ => hboundary) hcs

/-- A compile error stands between two characters, shows what is found there, and unless a limit is
exceeded, the text in front of it is the beginning of a formula. -/
theorem compile_error_points {text : String} (h : compile text = .error err) :
    ∃ front rest : String, text = front ++ rest ∧ err.position = front.utf8ByteSize ∧
      err.fault.Shows rest.toList ∧
      (err.fault ≠ .tooDeep → ∃ more e, compile (front ++ more) = .ok e) := by
  obtain ⟨t, front, hleads, hposition, hshows, hviable⟩ := compile_faultAhead h
  refine ⟨String.ofList front, String.ofList t.rest, ?_, ?_, ?_, fun hdeep => ?_⟩
  · rw [← String.ofList_append, ← hleads.rest, Cursor.start, String.ofList_toList]
  · rw [hposition, hleads.position, utf8ByteSize_ofList, Cursor.start, Nat.zero_add]
  · rwa [String.toList_ofList]
  · exact (hviable hdeep).compile hleads

def fault? (text : String) : Option CompileError :=
  match compile text with
  | .error err => some err
  | .ok _ => none

lemma compile_eq_error {text : String} (h : fault? text = some err) : compile text = .error err := by
  rw [fault?] at h
  split at h
  · next herror => rwa [← Option.some.inj h]
  · contradiction

theorem compile_error_points_nested :
    compile "max(1, (2 + level() == 3" = .error ⟨.unknownFunction "level", 12⟩ ∧
      ∃ front rest : String, "max(1, (2 + level() == 3" = front ++ rest ∧
        12 = front.utf8ByteSize ∧ (Fault.unknownFunction "level").Shows rest.toList ∧
        (Fault.unknownFunction "level" ≠ .tooDeep → ∃ more e, compile (front ++ more) = .ok e) := by
  have herror : compile "max(1, (2 + level() == 3" = .error ⟨.unknownFunction "level", 12⟩ :=
    compile_eq_error (by decide +kernel)
  exact ⟨herror, compile_error_points herror⟩

end

end Grammar

end DerivedStats.Formula
