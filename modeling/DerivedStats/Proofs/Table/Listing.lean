import DerivedStats.Proofs.Table
import Mathlib.Data.List.Perm.Basic
import Mathlib.Data.String.Basic
import Mathlib.Data.List.Induction
import Mathlib.Data.List.Nodup

/-! Tables made of lists, and lists made of tables. -/

namespace DerivedStats.Table

variable {κ α : Type} [DecidableEq κ]

lemma get?_append (t u : Table κ α) (key : κ) :
    get? (t ++ u) key = (t.get? key).or (u.get? key) :=
  List.lookup_append

lemma get?_eq_none_iff {t : Table κ α} {key : κ} : t.get? key = none ↔ key ∉ t.keys := by
  refine ⟨fun h hmem => ?_, get?_eq_none_of_not_mem⟩
  obtain ⟨p, hp, rfl⟩ := List.mem_map.mp hmem
  simpa using List.lookup_eq_none_iff.mp h p hp

lemma has_iff_mem {t : Table κ α} {key : κ} : t.has key = true ↔ key ∈ t.keys := by
  rw [has, Option.isSome_iff_ne_none, ne_eq, get?_eq_none_iff, not_not]

lemma get?_eq_some_iff {t : Table κ α} (h : t.keys.Nodup) {key : κ} {value : α} :
    t.get? key = some value ↔ (key, value) ∈ t := by
  constructor
  · intro hget
    obtain ⟨front, back, rfl, -⟩ := List.lookup_eq_some_iff.mp hget
    simp
  · intro hmem
    obtain ⟨front, back, rfl⟩ := List.append_of_mem hmem
    exact get?_append_cons (not_mem_of_nodup h).1 value

lemma get?_perm {t u : Table κ α} (h : t.Perm u) (hnodup : t.keys.Nodup) (key : κ) :
    t.get? key = u.get? key := by
  have hkeys : u.keys.Nodup := (h.map Prod.fst).nodup_iff.mp hnodup
  ext value
  rw [get?_eq_some_iff hnodup, get?_eq_some_iff hkeys]
  exact h.mem_iff

lemma mem_of_get? {t : Table κ α} {key : κ} {value : α} (h : t.get? key = some value) :
    (key, value) ∈ t := by
  obtain ⟨front, back, rfl, -⟩ := List.lookup_eq_some_iff.mp h
  simp

lemma split_of_get? {t : Table κ α} {key : κ} {value : α} (h : t.get? key = some value) :
    ∃ front back, t = front ++ (key, value) :: back ∧ key ∉ front.keys := by
  obtain ⟨front, back, hsplit, hfront⟩ := List.lookup_eq_some_iff.mp h
  refine ⟨front, back, hsplit, fun hmem => ?_⟩
  obtain ⟨p, hp, rfl⟩ := List.mem_map.mp hmem
  simpa using hfront p hp

lemma get?_map_values {β : Type} (f : α → β) (t : Table κ α) (key : κ) :
    get? (t.map fun p => (p.1, f p.2)) key = (t.get? key).map f := by
  induction t with
  | nil => rfl
  | cons p t ih =>
    rw [List.map_cons, get?_cons, get?_cons, ih]
    split
    · rfl
    · rfl

lemma get?_filter (test : κ → Bool) {key : κ} (h : test key = true) (t : Table κ α) :
    get? (t.filter fun p => test p.1) key = t.get? key := by
  induction t with
  | nil => rfl
  | cons p t ih =>
    by_cases hp : test p.1 = true
    · rw [List.filter_cons, if_pos hp, get?_cons, get?_cons, ih]
    · have hne : key ≠ p.1 := by
        rintro rfl
        exact hp h
      rw [List.filter_cons, if_neg hp, ih, get?_cons, if_neg hne]

lemma get?_erase (t : Table κ α) (key other : κ) :
    (t.erase key).get? other = if other = key then none else t.get? other := by
  induction t with
  | nil => exact (ite_self _).symm
  | cons p t ih =>
    obtain ⟨k, v⟩ := p
    by_cases hk : k = key
    · rw [erase, List.filter_cons_of_neg (by simpa using hk)]
      change (erase t key).get? other = _
      rw [ih, get?_cons, hk]
      split
      · rfl
      · rfl
    · rw [erase, List.filter_cons_of_pos (by simpa using hk)]
      change get? ((k, v) :: erase t key) other = _
      rw [get?_cons, get?_cons, ih]
      split
      · next h => rw [if_neg (h ▸ hk)]
      · rfl

lemma nodup_keys_erase {t : Table κ α} (h : t.keys.Nodup) (key : κ) : (t.erase key).keys.Nodup :=
  (List.filter_sublist.map Prod.fst).nodup h

lemma mem_put {t : Table κ α} {key : κ} {value : α} {p : κ × α} (h : p ∈ t.put key value) :
    p = (key, value) ∨ p ∈ t := by
  induction t with
  | nil => exact .inl (List.mem_singleton.mp h)
  | cons q t ih =>
    rw [put] at h
    split at h
    · exact (List.mem_cons.mp h).imp_right (List.mem_cons_of_mem _)
    · obtain rfl | h := List.mem_cons.mp h
      · exact .inr List.mem_cons_self
      · exact (ih h).imp_right (List.mem_cons_of_mem _)

lemma keys_put (t : Table κ α) (key : κ) (value : α) :
    (t.put key value).keys = if key ∈ t.keys then t.keys else t.keys ++ [key] := by
  induction t with
  | nil => rfl
  | cons p t ih =>
    obtain ⟨k, v⟩ := p
    change _ = if key ∈ k :: keys t then k :: keys t else k :: (keys t ++ [key])
    rw [put]
    by_cases h : k = key
    · rw [if_pos h, if_pos (h ▸ List.mem_cons_self), ← h]
      rfl
    · rw [if_neg h]
      change k :: keys (put t key value) = _
      simp only [ih, List.mem_cons, Ne.symm h, false_or]
      split <;> rfl

lemma mem_keys_put {t : Table κ α} {key other : κ} {value : α} :
    other ∈ (t.put key value).keys ↔ other = key ∨ other ∈ t.keys := by
  rw [keys_put]
  split
  · exact ⟨.inr, fun h => h.elim (fun heq => heq ▸ ‹_›) id⟩
  · rw [List.mem_append, List.mem_singleton, or_comm]

lemma nodup_keys_put {t : Table κ α} (h : t.keys.Nodup) (key : κ) (value : α) :
    (t.put key value).keys.Nodup := by
  rw [keys_put]
  split
  · exact h
  · rw [← List.concat_eq_append]
    exact h.concat ‹_›

lemma nodup_keys_foldl_put {t : Table κ α} (h : t.keys.Nodup) (pairs : List (κ × α)) :
    (pairs.foldl (fun t p => t.put p.1 p.2) t).keys.Nodup := by
  induction pairs generalizing t with
  | nil => exact h
  | cons p pairs ih => exact ih (nodup_keys_put h p.1 p.2)

lemma nodup_keys_ofPairs (pairs : List (κ × α)) : (ofPairs pairs).keys.Nodup :=
  nodup_keys_foldl_put (t := []) List.nodup_nil pairs

lemma mem_keys_foldl_put {pairs : List (κ × α)} {t : Table κ α} {key : κ} :
    key ∈ (pairs.foldl (fun t p => t.put p.1 p.2) t).keys ↔
      key ∈ t.keys ∨ key ∈ pairs.map Prod.fst := by
  induction pairs generalizing t with
  | nil => simp
  | cons p pairs ih =>
    rw [List.foldl_cons, ih, mem_keys_put, List.map_cons, List.mem_cons, or_assoc, or_left_comm]

lemma get?_foldl_put (pairs : List (κ × α)) (t : Table κ α) (key : κ) :
    (pairs.foldl (fun t p => t.put p.1 p.2) t).get? key =
      (get? pairs.reverse key).or (t.get? key) := by
  induction pairs generalizing t with
  | nil => rfl
  | cons p pairs ih =>
    rw [List.foldl_cons, ih, get?_put, List.reverse_cons, get?_append, Option.or_assoc, get?_cons]
    split <;> rfl

lemma get?_ofPairs (pairs : List (κ × α)) (key : κ) :
    (ofPairs pairs).get? key = get? pairs.reverse key := by
  rw [ofPairs, get?_foldl_put]
  exact Option.or_none

omit [DecidableEq κ] in
lemma eraseDups_concat [DecidableEq α] (l : List α) (a : α) :
    (l ++ [a]).eraseDups = if a ∈ l then l.eraseDups else l.eraseDups ++ [a] := by
  rw [List.eraseDups_append]
  by_cases h : a ∈ l
  · simp [List.removeAll, h]
  · simp [List.removeAll, h, List.eraseDups_cons]

lemma keys_ofPairs (pairs : List (κ × α)) :
    (ofPairs pairs).keys = (pairs.map Prod.fst).eraseDups := by
  induction pairs using List.reverseRecOn with
  | nil => rfl
  | append_singleton pairs p ih =>
    rw [ofPairs, List.foldl_append, List.foldl_cons, List.foldl_nil]
    change ((ofPairs pairs).put p.1 p.2).keys = _
    rw [keys_put, List.map_append, List.map_singleton, eraseDups_concat, ih]
    simp only [List.mem_eraseDups]

lemma ofPairs_of_nodup {pairs : List (κ × α)} (h : (pairs.map Prod.fst).Nodup) :
    ofPairs pairs = pairs := by
  induction pairs using List.reverseRecOn with
  | nil => rfl
  | append_singleton pairs p ih =>
    rw [List.map_append, List.map_singleton] at h
    have hfirst : (pairs.map Prod.fst).Nodup := (List.nodup_append.mp h).1
    have hnew : p.1 ∉ keys pairs := fun hmem =>
      (List.nodup_append.mp h).2.2 p.1 hmem p.1 (by simp) rfl
    rw [ofPairs, List.foldl_append, List.foldl_cons, List.foldl_nil]
    change put (ofPairs pairs) p.1 p.2 = _
    rw [ih hfirst, put_of_not_mem hnew]

omit [DecidableEq κ] in
lemma sorted_perm (t : Table String α) : t.sorted.Perm t := List.mergeSort_perm t _

omit [DecidableEq κ] in
lemma nodup_keys_sorted {t : Table String α} (h : t.keys.Nodup) : (t.sorted.map Prod.fst).Nodup :=
  (t.sorted_perm.map Prod.fst).nodup_iff.mpr h

omit [DecidableEq κ] in
lemma sorted_sorted (t : Table String α) : sorted t.sorted = t.sorted := by
  refine List.mergeSort_of_pairwise
    (List.pairwise_mergeSort (fun a b c hab hbc => ?_) (fun a b => ?_) t)
  · simp only [Bool.not_eq_true', decide_eq_false_iff_not, not_lt] at *
    exact hab.trans hbc
  · simp only [Bool.or_eq_true, Bool.not_eq_true', decide_eq_false_iff_not, not_lt]
    exact le_total a.1 b.1

lemma sorted_ofPairs_sorted {t : Table String α} (h : t.keys.Nodup) :
    (ofPairs t.sorted).sorted = t.sorted := by
  rw [ofPairs_of_nodup (nodup_keys_sorted h), sorted_sorted]

end DerivedStats.Table
