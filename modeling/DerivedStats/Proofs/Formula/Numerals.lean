import DerivedStats.Proofs.Formula.Positions
import Mathlib.Data.List.TakeDrop
import Mathlib.Tactic.ByContra

/-! Number literals: what the compiler takes for one, and the value it gives it. -/

namespace DerivedStats.Formula.Grammar

open Decimal (isDigit nearestOf)

def Digits (ds : List Char) : Prop := ∀ c ∈ ds, isDigit c

lemma isDigit_ne_point {c : Char} (h : isDigit c) : c ≠ '.' := by
  rintro rfl
  contradiction

lemma Digits.count_point {ds : List Char} (h : Digits ds) : ds.count '.' = 0 :=
  List.count_eq_zero.mpr fun hm => isDigit_ne_point (h _ hm) rfl

lemma isNumeral_whole {ds : List Char} (hd : Digits ds) (hne : ds ≠ []) : IsNumeral ds := by
  refine ⟨fun c hc => .inl (hd c hc), by simp [hd.count_point], hne, ?_⟩
  rintro rfl
  exact isDigit_ne_point (hd '.' (by simp)) rfl

lemma isNumeral_pointed {ds es : List Char} (hd : Digits ds) (he : Digits es)
    (hne : ds ≠ [] ∨ es ≠ []) : IsNumeral (ds ++ '.' :: es) := by
  refine ⟨?_, by simp [hd.count_point, he.count_point], by simp, ?_⟩
  · intro c hc
    rcases List.mem_append.mp hc with hc | hc
    · exact .inl (hd c hc)
    · rcases List.mem_cons.mp hc with rfl | hc
      · exact .inr rfl
      · exact .inl (he c hc)
  · intro h
    have hlen := congrArg List.length h
    simp only [List.length_append, List.length_cons, List.length_nil] at hlen
    have hds : ds = [] := List.eq_nil_of_length_eq_zero (by omega)
    have hes : es = [] := List.eq_nil_of_length_eq_zero (by omega)
    exact hne.elim (· hds) (· hes)

lemma IsNumeral.shape {cs : List Char} (h : IsNumeral cs) :
    (Digits cs ∧ cs ≠ []) ∨ ∃ ds es, cs = ds ++ '.' :: es ∧ Digits ds ∧ Digits es ∧
      (ds ≠ [] ∨ es ≠ []) := by
  obtain ⟨hc, hcount, hne, hpoint⟩ := h
  by_cases hm : '.' ∈ cs
  · obtain ⟨ds, es, rfl, hds⟩ := List.eq_append_cons_of_mem hm
    have hes : '.' ∉ es := by
      intro hes
      have := List.count_pos_iff.mpr hes
      simp only [List.count_append, List.count_cons_self] at hcount
      omega
    have digits : ∀ c ∈ ds ++ '.' :: es, c ≠ '.' → isDigit c :=
      fun c hm hne => (hc c hm).resolve_right hne
    refine .inr ⟨ds, es, rfl, ?_, ?_, ?_⟩
    · exact fun c hm => digits c (by simp [hm]) (ne_of_mem_of_not_mem hm hds)
    · exact fun c hm => digits c (by simp [hm]) (ne_of_mem_of_not_mem hm hes)
    · by_contra! hnil
      obtain ⟨rfl, rfl⟩ := hnil
      exact hpoint rfl
  · exact .inl ⟨fun c hc' => (hc c hc').resolve_right (ne_of_mem_of_not_mem hc' hm), hne⟩

lemma toLower_of_low {c : Char} (h : c.toNat < 0x41) : c.toLower = c := by
  unfold Char.toLower
  rw [dif_neg]
  intro hc
  have := UInt32.le_iff_toNat_le.mp hc.1
  change 65 ≤ c.toNat at this
  omega

lemma lower_ne {c : Char} {cs : List Char} {word : String} (hc : c.toNat < 0x41)
    (hw : c ∉ word.toList.head?) : Text.lower (String.ofList (c :: cs)) ≠ word := by
  rintro rfl
  simp [Text.lower, toLower_of_low hc] at hw

lemma readUnsigned_whole {ds : List Char} (hd : Digits ds) (hne : ds ≠ []) :
    Decimal.readUnsigned ds = some (nearestOf ds [] 0) := by
  have ht : ds.takeWhile isDigit = ds := List.takeWhile_eq_self_iff.mpr hd
  have hr : ds.dropWhile isDigit = [] := List.dropWhile_eq_nil_iff.mpr hd
  simp [Decimal.readUnsigned, List.span_eq_takeWhile_dropWhile, ht, hr, Decimal.splitFraction, hne]

lemma readUnsigned_pointed {ds es : List Char} (hd : Digits ds) (he : Digits es)
    (hne : ds ≠ [] ∨ es ≠ []) :
    Decimal.readUnsigned (ds ++ '.' :: es) = some (nearestOf ds es 0) := by
  have hp : ∀ c ∈ ('.' :: es).head?, ¬isDigit c := by simp; decide
  have ht := takeWhile_append hd hp
  have hr := dropWhile_append hd hp
  have ht' : es.takeWhile isDigit = es := List.takeWhile_eq_self_iff.mpr he
  have hr' : es.dropWhile isDigit = [] := List.dropWhile_eq_nil_iff.mpr he
  simp [Decimal.readUnsigned, List.span_eq_takeWhile_dropWhile, ht, hr, Decimal.splitFraction, ht', hr']
  tauto

lemma read_unsigned {c : Char} {cs : List Char} (h : isDigit c ∨ c = '.') :
    Decimal.read (String.ofList (c :: cs)) = Decimal.readUnsigned (c :: cs) := by
  have hlow : 46 ≤ c.toNat ∧ c.toNat < 0x41 := by
    rcases h with h | rfl
    · have := isDigit_toNat h
      omega
    · decide
  have hs : Decimal.splitSign (c :: cs) = (false, c :: cs) := by
    simp only [Decimal.splitSign]
    split <;> simp_all
  have word : ∀ w : String, c ∉ w.toList.head? → Text.lower (String.ofList (c :: cs)) ≠ w :=
    fun w hw => lower_ne hlow.2 hw
  have hi : 'i' ≠ c := by
    rintro rfl
    contradiction
  have hn : 'n' ≠ c := by
    rintro rfl
    contradiction
  have inf := word "inf" (by simpa using hi)
  have infinity := word "infinity" (by simpa using hi)
  have nan := word "nan" (by simpa using hn)
  simp only [Decimal.read, String.toList_ofList, hs, beq_eq_false_iff_ne.mpr inf,
    beq_eq_false_iff_ne.mpr infinity, beq_eq_false_iff_ne.mpr nan, Bool.or_self,
    Bool.false_eq_true, if_false, Option.map_id']

lemma digits_takeWhile (cs : List Char) : Digits (cs.takeWhile isDigit) :=
  fun _ hc => List.mem_takeWhile_imp hc

lemma read_whole {ds : List Char} (hd : Digits ds) (hne : ds ≠ []) :
    Decimal.read (String.ofList ds) = some (nearestOf ds [] 0) := by
  cases ds with
  | nil => contradiction
  | cons d ds => rw [read_unsigned (.inl (hd d (by simp))), readUnsigned_whole hd hne]

lemma read_pointed {ds es : List Char} (hd : Digits ds) (he : Digits es)
    (hne : ds ≠ [] ∨ es ≠ []) :
    Decimal.read (String.ofList (ds ++ '.' :: es)) = some (nearestOf ds es 0) := by
  rw [← readUnsigned_pointed hd he hne]
  cases ds with
  | nil => exact read_unsigned (.inr rfl)
  | cons d ds => exact read_unsigned (.inl (hd d (by simp)))

def behindPoint (s : Cursor) : Cursor := (((s.span isDigit).2.drop 1).span isDigit).2

lemma numeral_pointed {s : Cursor} {cs : List Char} (h : s.rest.dropWhile isDigit = '.' :: cs) :
    numeral s = if (s.rest.takeWhile isDigit).isEmpty && (cs.takeWhile isDigit).isEmpty then
        s.fail (.invalidNumber ".")
      else .ok (.number (nearestOf (s.rest.takeWhile isDigit) (cs.takeWhile isDigit) 0),
        behindPoint s) := by
  have hrest := Cursor.span_rest isDigit s
  rw [h] at hrest
  simp only [numeral, behindPoint, hrest, Cursor.span_fst, Cursor.drop_rest, List.drop_one,
    List.tail_cons]

lemma numeral_whole {s : Cursor} (h : (s.rest.dropWhile isDigit).head? ≠ some '.') :
    numeral s = if (s.rest.takeWhile isDigit).isEmpty then s.fail (.invalidNumber ".")
      else .ok (.number (nearestOf (s.rest.takeWhile isDigit) [] 0), (s.span isDigit).2) := by
  have hrest := Cursor.span_rest isDigit s
  rw [numeral]
  simp only
  split
  · rename_i hp
    simp_all
  · simp

lemma numeral_sound {s t : Cursor} {x : Expr} (h : numeral s = .ok (x, t)) :
    ∃ cs value, x = .number value ∧ IsNumeral cs ∧ Decimal.read (String.ofList cs) = some value ∧
      s.rest = cs ++ t.rest ∧ t.operators = s.operators := by
  have hsplit := (List.takeWhile_append_dropWhile (p := isDigit) (l := s.rest)).symm
  have hd := digits_takeWhile s.rest
  by_cases hpoint : (s.rest.dropWhile isDigit).head? = some '.'
  · obtain ⟨cs, hcs⟩ := List.head?_eq_some_iff.mp hpoint
    have he := digits_takeWhile cs
    rw [numeral_pointed hcs] at h
    split at h
    · contradiction
    · rename_i hne
      obtain ⟨rfl, rfl⟩ := by simpa using h
      have hne : s.rest.takeWhile isDigit ≠ [] ∨ cs.takeWhile isDigit ≠ [] := by
        by_contra! hnil
        simp [hnil] at hne
      refine ⟨_, _, rfl, isNumeral_pointed hd he hne, read_pointed hd he hne, ?_, rfl⟩
      simp only [behindPoint, Cursor.span_rest, Cursor.drop_rest, hcs, List.drop_one,
        List.tail_cons]
      rw [List.append_assoc, List.cons_append, List.takeWhile_append_dropWhile, ← hcs]
      exact hsplit
  · rw [numeral_whole hpoint] at h
    split at h
    · contradiction
    · rename_i hne
      obtain ⟨rfl, rfl⟩ := by simpa using h
      have hne : s.rest.takeWhile isDigit ≠ [] := by simpa using hne
      refine ⟨_, _, rfl, isNumeral_whole hd hne, read_whole hd hne, ?_, rfl⟩
      rw [Cursor.span_rest]
      exact hsplit

lemma numeral_leads {s t : Cursor} {x : Expr} (h : numeral s = .ok (x, t)) :
    ∃ front, Cursor.Leads front s t := by
  by_cases hpoint : (s.rest.dropWhile isDigit).head? = some '.'
  · obtain ⟨cs, hcs⟩ := List.head?_eq_some_iff.mp hpoint
    rw [numeral_pointed hcs] at h
    split at h
    · contradiction
    · obtain ⟨rfl, rfl⟩ := by simpa using h
      exact ⟨_, ((Cursor.Leads.span isDigit s).trans (.drop 1 _)).trans (.span isDigit _)⟩
  · rw [numeral_whole hpoint] at h
    split at h
    · contradiction
    · obtain ⟨rfl, rfl⟩ := by simpa using h
      exact ⟨_, .span isDigit s⟩

lemma numeral_complete {s : Cursor} {cs rest : List Char} {value : Float} (hn : IsNumeral cs)
    (hv : Decimal.read (String.ofList cs) = some value) (hs : s.rest = cs ++ rest)
    (hr : ∀ c ∈ rest.head?, ¬isDigit c ∧ c ≠ '.') :
    ∃ t, numeral s = .ok (.number value, t) ∧ t.rest = rest ∧ t.operators = s.operators := by
  have hr' : ∀ c ∈ rest.head?, ¬isDigit c := fun c hc => (hr c hc).1
  rcases hn.shape with ⟨hd, hne⟩ | ⟨ds, es, rfl, hd, he, hne⟩
  · have ht := takeWhile_append hd hr'
    have hw := dropWhile_append hd hr'
    rw [← hs] at ht hw
    refine ⟨(s.span isDigit).2, ?_, by simp [hw], rfl⟩
    rw [numeral_whole, ht, if_neg (by simpa using hne)]
    · rw [read_whole hd hne] at hv
      obtain rfl := Option.some.inj hv
      rfl
    · rw [hw]
      exact fun hp => (hr '.' hp).2 rfl
  · have hp : ∀ c ∈ ('.' :: (es ++ rest)).head?, ¬isDigit c := by simp; decide
    rw [List.append_assoc, List.cons_append] at hs
    have ht := takeWhile_append hd hp
    have hw := dropWhile_append hd hp
    rw [← hs] at ht hw
    refine ⟨behindPoint s, ?_, ?_, rfl⟩
    · rw [numeral_pointed hw, ht, takeWhile_append he hr', if_neg]
      · rw [read_pointed hd he hne] at hv
        obtain rfl := Option.some.inj hv
        rfl
      · simp only [Bool.and_eq_true, List.isEmpty_iff]
        exact fun hnil => hne.elim (· hnil.1) (· hnil.2)
    · simp only [behindPoint, Cursor.span_rest, Cursor.drop_rest, hw, List.drop_one, List.tail_cons]
      exact dropWhile_append he hr'

end DerivedStats.Formula.Grammar
