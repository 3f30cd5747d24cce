import DerivedStats.Text.Blank
import Mathlib.Data.List.DropRight
import Mathlib.Data.List.TakeWhile

/-! What trimming takes away. -/

namespace DerivedStats.Text

lemma trimLeft_append (cs : List Char) :
    ∃ front, (∀ c ∈ front, isBlank c) ∧ cs = front ++ trimLeft cs :=
  ⟨cs.takeWhile isBlank, fun _ hc => List.mem_takeWhile_imp hc,
    List.takeWhile_append_dropWhile.symm⟩

lemma trimRight_append (cs : List Char) :
    ∃ back, (∀ c ∈ back, isBlank c) ∧ cs = trimRight cs ++ back := by
  obtain ⟨front, hfront, hreverse⟩ := trimLeft_append cs.reverse
  refine ⟨front.reverse, fun c hc => hfront c (List.mem_reverse.mp hc), ?_⟩
  rw [trimRight, ← List.reverse_append]
  exact List.reverse_eq_iff.mp hreverse

lemma trimmed_append (cs : List Char) :
    ∃ front back, (∀ c ∈ front, isBlank c) ∧ (∀ c ∈ back, isBlank c) ∧
      cs = front ++ (trimmed cs ++ back) := by
  obtain ⟨front, hfront, hleft⟩ := trimLeft_append cs
  obtain ⟨back, hback, hright⟩ := trimRight_append (trimLeft cs)
  refine ⟨front, back, hfront, hback, ?_⟩
  rw [trimmed, ← hright]
  exact hleft

lemma isBlank_of_trimmed_eq_nil {cs : List Char} (h : trimmed cs = []) : ∀ c ∈ cs, isBlank c := by
  obtain ⟨front, back, hfront, hback, hcs⟩ := trimmed_append cs
  intro c hc
  rw [hcs, h, List.nil_append] at hc
  rcases List.mem_append.mp hc with hc | hc
  · exact hfront c hc
  · exact hback c hc

lemma trimmed_of_forall_not {cs : List Char} (h : ∀ c ∈ cs, isBlank c = false) :
    trimmed cs = cs := by
  have hleft : trimLeft cs = cs := List.dropWhile_eq_self_iff.mpr fun hlength => by
    simpa using h _ (List.getElem_mem hlength)
  have hright : trimRight cs = cs := by
    rw [trimRight, List.reverse_eq_iff]
    refine List.dropWhile_eq_self_iff.mpr fun hlength => ?_
    simpa using h _ (List.mem_reverse.mp (List.getElem_mem hlength))
  rw [trimmed, hleft, hright]

lemma trimRight_append_cons {c : Char} (hc : isBlank c = false) (front back : List Char) :
    trimRight (front ++ c :: back) = front ++ c :: trimRight back := by
  have hnot : ¬ isBlank c = true := by simp [hc]
  simp only [trimRight, List.reverse_append, List.reverse_cons, List.append_assoc,
    List.singleton_append]
  rw [List.dropWhile_append]
  split
  · next hnone =>
    rw [List.isEmpty_iff] at hnone
    simp [hnone, hnot]
  · simp

lemma trimRight_of_forall {cs : List Char} (h : ∀ c ∈ cs, isBlank c) : trimRight cs = [] := by
  simpa [trimRight] using h

lemma trimRight_trimRight (cs : List Char) : trimRight (trimRight cs) = trimRight cs :=
  List.rdropWhile_idempotent isBlank cs

lemma trimmed_trimRight (cs : List Char) : trimmed (trimRight cs) = trimmed cs := by
  obtain ⟨front, hfront, hcs⟩ := trimLeft_append cs
  cases hrest : trimLeft cs with
  | nil =>
    rw [hrest, List.append_nil] at hcs
    have hnone : trimRight cs = [] := trimRight_of_forall (hcs ▸ hfront)
    rw [hnone, trimmed, trimmed, hrest]
    rfl
  | cons c rest =>
    have hc : isBlank c = false := by
      have hhead := List.head?_dropWhile_not isBlank cs
      rw [trimLeft] at hrest
      simpa [hrest] using hhead
    have hcut : ∀ ds, trimRight (c :: ds) = c :: trimRight ds := trimRight_append_cons hc []
    have hleft : trimLeft (front ++ c :: trimRight rest) = c :: trimRight rest := by
      rw [trimLeft, List.dropWhile_append_of_pos hfront, List.dropWhile_cons_of_neg (by simp [hc])]
    have hright : trimRight cs = front ++ c :: trimRight rest := by
      rw [hcs, hrest, trimRight_append_cons hc]
    rw [trimmed, hright, hleft, hcut, trimRight_trimRight, trimmed, hrest, hcut]

lemma trimmed_trimmed (cs : List Char) : trimmed (trimmed cs) = trimmed cs := by
  have hleft : trimLeft (trimLeft cs) = trimLeft cs := List.dropWhile_idempotent isBlank cs
  calc
    trimmed (trimmed cs) = trimmed (trimLeft cs) := trimmed_trimRight (trimLeft cs)
    _ = trimmed cs := by rw [trimmed, trimmed, hleft]

end DerivedStats.Text
