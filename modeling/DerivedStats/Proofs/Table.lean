import DerivedStats.Table
import Mathlib.Tactic.Lemma

/-! Keys that a table does not have yet. -/

namespace DerivedStats.Table

variable {κ α : Type} [DecidableEq κ]

lemma get?_eq_none_of_not_mem {t : Table κ α} {key : κ} (h : key ∉ t.keys) :
    t.get? key = none := by
  induction t with
  | nil => rfl
  | cons p t ih =>
    obtain ⟨hfirst, hrest⟩ := not_or.mp (mt List.mem_cons.mpr h)
    rw [get?_cons, if_neg hfirst]
    exact ih hrest

lemma put_of_not_mem {t : Table κ α} {key : κ} (h : key ∉ t.keys) (value : α) :
    t.put key value = t ++ [(key, value)] := by
  induction t with
  | nil => rfl
  | cons p t ih =>
    obtain ⟨hfirst, hrest⟩ := not_or.mp (mt List.mem_cons.mpr h)
    rw [put, if_neg (Ne.symm hfirst), ih hrest]
    rfl

lemma get?_append_cons {front back : Table κ α} {key : κ} (h : key ∉ front.keys) (value : α) :
    get? (front ++ (key, value) :: back) key = some value := by
  induction front with
  | nil => rw [List.nil_append, get?_cons, if_pos rfl]
  | cons p t ih =>
    obtain ⟨hfirst, hrest⟩ := not_or.mp (mt List.mem_cons.mpr h)
    rw [List.cons_append, get?_cons, if_neg hfirst, ih hrest]

lemma put_append_cons {front back : Table κ α} {key : κ} (h : key ∉ front.keys) (old value : α) :
    put (front ++ (key, old) :: back) key value = front ++ (key, value) :: back := by
  induction front with
  | nil => rw [List.nil_append, put, if_pos rfl, List.nil_append]
  | cons p t ih =>
    obtain ⟨hfirst, hrest⟩ := not_or.mp (mt List.mem_cons.mpr h)
    rw [List.cons_append, put, if_neg (Ne.symm hfirst), ih hrest, List.cons_append]

lemma erase_of_not_mem {t : Table κ α} {key : κ} (h : key ∉ t.keys) : t.erase key = t := by
  refine List.filter_eq_self.mpr fun p hp => ?_
  have hne : p.1 ≠ key := fun heq => h (heq ▸ List.mem_map_of_mem hp)
  simpa using hne

lemma erase_append_cons {front back : Table κ α} {key : κ} (hfront : key ∉ front.keys)
    (hback : key ∉ back.keys) (value : α) :
    erase (front ++ (key, value) :: back) key = front ++ back := by
  rw [erase, List.filter_append, List.filter_cons_of_neg (by simp)]
  change erase front key ++ erase back key = front ++ back
  rw [erase_of_not_mem hfront, erase_of_not_mem hback]

omit [DecidableEq κ] in
lemma not_mem_of_nodup {front back : Table κ α} {key : κ} {value : α}
    (h : (keys (front ++ (key, value) :: back)).Nodup) : key ∉ front.keys ∧ key ∉ back.keys := by
  rw [keys, List.map_append, List.map_cons, List.nodup_append, List.nodup_cons] at h
  obtain ⟨-, ⟨hback, -⟩, hapart⟩ := h
  exact ⟨fun hmem => hapart _ hmem _ List.mem_cons_self rfl, hback⟩

lemma find?_put_of_find? (test : κ → Bool) {t : Table κ α} {key : κ} {old : α}
    (h : t.find? (fun p => test p.1) = some (key, old)) (value : α) :
    (t.put key value).find? (fun p => test p.1) = some (key, value) := by
  induction t with
  | nil => cases h
  | cons p t ih =>
    obtain ⟨k, v⟩ := p
    rw [List.find?_cons] at h
    rw [put]
    split at h
    · next htest =>
      cases h
      rw [if_pos rfl]
      exact List.find?_cons_of_pos htest
    · next htest =>
      have hne : k ≠ key := by
        rintro rfl
        have := List.find?_some h
        simp_all
      rw [if_neg hne, List.find?_cons_of_neg (by simpa using htest), ih h]

lemma find?_put_eq_none (test : κ → Bool) {t : Table κ α} {key : κ} (hkey : test key = false)
    (h : t.find? (fun p => test p.1) = none) (value : α) :
    (t.put key value).find? (fun p => test p.1) = none := by
  induction t with
  | nil => simpa [put] using hkey
  | cons p t ih =>
    obtain ⟨k, v⟩ := p
    rw [List.find?_cons] at h
    split at h
    · cases h
    · next htest =>
      rw [put]
      split
      · rw [List.find?_cons_of_neg (by simpa using hkey), h]
      · rw [List.find?_cons_of_neg (by simpa using htest), ih h]

end DerivedStats.Table
