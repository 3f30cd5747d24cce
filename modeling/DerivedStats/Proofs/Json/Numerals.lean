import DerivedStats.Json.Reader
import DerivedStats.Json.Writer
import DerivedStats.Proofs.Decimal.Digits
import Mathlib.Data.List.TakeDrop

/-! Numbers in JSON text: every written number is a numeral, and a numeral is read as far as it
goes. -/

namespace DerivedStats.Json

open Decimal (Layout digits isDigit naturalOf splitSign)

namespace Numeral

structure WellFormed (n : Numeral) : Prop where
  whole : ∀ c ∈ n.whole, isDigit c = true
  whole_ne_nil : n.whole ≠ []
  leading : n.whole.head? = some '0' → n.whole = ['0']
  fraction : ∀ ds ∈ n.fraction, (∀ c ∈ ds, isDigit c = true) ∧ ds ≠ []

def exponentText (e : Int) : List Char :=
  'e' :: (if e < 0 then '-' else '+') :: digits e.natAbs

def magnitude (n : Numeral) : List Char :=
  n.whole ++ (n.fraction.elim [] ('.' :: ·) ++ n.exponent.elim [] exponentText)

def text (n : Numeral) : List Char := (if n.negative then ['-'] else []) ++ n.magnitude

end Numeral

def EndsNumeral (rest : List Char) : Prop :=
  ∀ c ∈ rest.head?, isDigit c = false ∧ c ≠ '.' ∧ c ≠ 'e' ∧ c ≠ 'E'

lemma span_digits {ds rest : List Char} (hds : ∀ c ∈ ds, isDigit c = true)
    (hrest : ∀ c ∈ rest.head?, isDigit c = false) :
    (ds ++ rest).span isDigit = (ds, rest) := by
  induction ds with
  | nil =>
    rw [List.nil_append, List.span_eq_takeWhile_dropWhile]
    cases rest with
    | nil => rfl
    | cons c rest => simp [hrest c rfl]
  | cons d ds ih =>
    obtain ⟨hd, hds⟩ := List.forall_mem_cons.mp hds
    rw [List.span_eq_takeWhile_dropWhile] at ih ⊢
    simp_all

lemma readWhole_append {ds rest : List Char} (hds : ∀ c ∈ ds, isDigit c = true) (hne : ds ≠ [])
    (hleading : ds.head? = some '0' → ds = ['0']) (hrest : ∀ c ∈ rest.head?, isDigit c = false) :
    readWhole (ds ++ rest) = some (ds, rest) := by
  rw [readWhole, span_digits hds hrest]
  split
  · next heq => exact absurd (congrArg Prod.fst heq) hne
  · next heq =>
    cases heq
    cases hleading rfl
  · rfl

lemma readDigits_append {ds rest : List Char} (hds : ∀ c ∈ ds, isDigit c = true) (hne : ds ≠ [])
    (hrest : ∀ c ∈ rest.head?, isDigit c = false) : readDigits (ds ++ rest) = some (ds, rest) := by
  rw [readDigits, span_digits hds hrest]
  split
  · next heq => exact absurd (congrArg Prod.fst heq) hne
  · rfl

lemma readFraction_append {fraction : Option (List Char)} {rest : List Char}
    (hfraction : ∀ ds ∈ fraction, (∀ c ∈ ds, isDigit c = true) ∧ ds ≠ [])
    (hrest : ∀ c ∈ rest.head?, isDigit c = false ∧ c ≠ '.') :
    readFraction (fraction.elim [] ('.' :: ·) ++ rest) = some (fraction, rest) := by
  cases fraction with
  | none =>
    rw [Option.elim_none, List.nil_append, readFraction]
    intro cs hcs
    rw [hcs] at hrest
    exact (hrest '.' rfl).2 rfl
  | some ds =>
    obtain ⟨hds, hne⟩ := hfraction ds rfl
    rw [Option.elim_some, List.cons_append, readFraction,
      readDigits_append hds hne fun c hc => (hrest c hc).1]
    rfl

lemma readExponent_append (exponent : Option Int) {rest : List Char} (hrest : EndsNumeral rest) :
    readExponent (exponent.elim [] Numeral.exponentText ++ rest) = some (exponent, rest) := by
  cases exponent with
  | none =>
    rw [Option.elim_none, List.nil_append]
    cases rest with
    | nil => rfl
    | cons c rest =>
      obtain ⟨-, -, hlower, hupper⟩ := hrest c rfl
      exact if_neg (not_or.mpr ⟨hlower, hupper⟩)
  | some e =>
    have hread : readDigits (digits e.natAbs ++ rest) = some (digits e.natAbs, rest) :=
      readDigits_append (fun c hc => Decimal.isDigit_of_mem_digits hc) (Decimal.digits_ne_nil _)
        fun c hc => (hrest c hc).1
    rw [Option.elim_some, Numeral.exponentText, List.cons_append, List.cons_append, readExponent,
      if_pos (Or.inl rfl)]
    by_cases hsign : e < 0
    · have hvalue : -(e.natAbs : Int) = e := by omega
      simp only [hsign, if_true, splitSign, hread, Option.map_some, Decimal.naturalOf_digits,
        hvalue]
    · have hvalue : (e.natAbs : Int) = e := by omega
      simp only [hsign, if_false, splitSign, hread, Option.map_some, Bool.false_eq_true,
        Decimal.naturalOf_digits, hvalue]

lemma head_exponent (exponent : Option Int) {rest : List Char} (hrest : EndsNumeral rest) :
    ∀ c ∈ (exponent.elim [] Numeral.exponentText ++ rest).head?, isDigit c = false ∧ c ≠ '.' := by
  cases exponent with
  | none => exact fun c hc => ⟨(hrest c hc).1, (hrest c hc).2.1⟩
  | some e =>
    intro c hc
    cases hc
    exact ⟨rfl, by decide⟩

lemma head_fraction (fraction : Option (List Char)) {rest : List Char}
    (hrest : ∀ c ∈ rest.head?, isDigit c = false ∧ c ≠ '.') :
    ∀ c ∈ (fraction.elim [] ('.' :: ·) ++ rest).head?, isDigit c = false := by
  cases fraction with
  | none => exact fun c hc => (hrest c hc).1
  | some ds =>
    intro c hc
    cases hc
    rfl

lemma readNumeral_append {n : Numeral} (hn : n.WellFormed) {rest : List Char}
    (hrest : EndsNumeral rest) : readNumeral (n.text ++ rest) = some (n, rest) := by
  obtain ⟨negative, whole, fraction, exponent⟩ := n
  have hexponent := readExponent_append exponent hrest
  have hfraction := readFraction_append hn.fraction (head_exponent exponent hrest)
  have hwhole := readWhole_append hn.whole hn.whole_ne_nil hn.leading
    (head_fraction fraction (head_exponent exponent hrest))
  simp only [Numeral.text, Numeral.magnitude, List.append_assoc] at hfraction hwhole ⊢
  cases negative with
  | true =>
    simp only [if_true, List.singleton_append, readNumeral, hwhole, hfraction, hexponent,
      Option.bind_eq_bind, Option.bind_some, Option.pure_def]
  | false =>
    obtain ⟨d, ds, rfl⟩ := List.exists_cons_of_ne_nil hn.whole_ne_nil
    have hd : d ≠ '-' := by
      rintro rfl
      exact absurd (hn.whole '-' (by simp)) (by decide)
    simp only [Bool.false_eq_true, if_false, List.nil_append, List.cons_append] at hwhole ⊢
    rw [readNumeral]
    · simp only [hwhole, hfraction, hexponent, Option.bind_eq_bind, Option.bind_some,
        Option.pure_def]
    · exact fun cs hcs => hd (List.cons.inj hcs).1

def wholeNumeral (negative : Bool) (n : Nat) : Numeral := ⟨negative, digits n, none, none⟩

lemma leading_digits {n : Nat} (h : (digits n).head? = some '0') : digits n = ['0'] := by
  by_cases hn : n = 0
  · rw [hn, Decimal.digits_zero]
  · exact absurd h (Decimal.digits_head_ne_zero hn)

lemma wholeNumeral_wellFormed (negative : Bool) (n : Nat) :
    (wholeNumeral negative n).WellFormed where
  whole _ hc := Decimal.isDigit_of_mem_digits hc
  whole_ne_nil := Decimal.digits_ne_nil n
  leading := leading_digits
  fraction _ hds := by cases hds

lemma compact_integer (n : Int) :
    (Value.integer n).compact.toList = (wholeNumeral (n < 0) n.natAbs).text := by
  change (toString n).toList = _
  rw [Decimal.toList_toString]
  simp [Numeral.text, Numeral.magnitude, wholeNumeral]

def Fits (n : Int) : Prop := -0x8000000000000000 ≤ n ∧ n < 0x10000000000000000

lemma wholeNumeral_value {n : Int} (hn : Fits n) :
    (wholeNumeral (n < 0) n.natAbs).value = .integer n := by
  obtain ⟨hlow, hhigh⟩ := hn
  have hsize : UInt64.size = 0x10000000000000000 := rfl
  by_cases hsign : n < 0
  · have hpositive : 0 < n.natAbs := by omega
    have hfits : n.natAbs ≤ 0x8000000000000000 := by omega
    have hvalue : -(n.natAbs : Int) = n := by omega
    simp only [Numeral.value, wholeNumeral, Decimal.naturalOf_digits, hsign, hpositive, hfits,
      hvalue, Option.isNone_none, decide_true, Bool.not_true, Bool.and_true, Bool.and_false,
      Bool.false_and, Bool.false_eq_true, if_true, if_false]
  · have hfits : n.natAbs < UInt64.size := by omega
    have hvalue : (n.natAbs : Int) = n := by omega
    simp only [Numeral.value, wholeNumeral, Decimal.naturalOf_digits, hsign, hfits, hvalue,
      Option.isNone_none, decide_false, decide_true, Bool.not_false, Bool.and_true, if_true]

def padded (places n : Nat) : List Char :=
  List.replicate (places + 1 - (digits n).length) '0' ++ digits n

lemma isDigit_of_mem_padded {places n : Nat} {c : Char} (hc : c ∈ padded places n) :
    isDigit c = true := by
  obtain hc | hc := List.mem_append.mp hc
  · rw [List.eq_of_mem_replicate hc]
    rfl
  · exact Decimal.isDigit_of_mem_digits hc

lemma lt_length_padded (places n : Nat) : places < (padded places n).length := by
  rw [padded, List.length_append, List.length_replicate]
  omega

def beforePlaces (places n : Nat) : List Char :=
  (padded places n).take ((padded places n).length - places)

def inPlaces (places n : Nat) : List Char :=
  (padded places n).drop ((padded places n).length - places)

lemma leading_beforePlaces {places n : Nat} (hplaces : 1 ≤ places)
    (h : (beforePlaces places n).head? = some '0') : beforePlaces places n = ['0'] := by
  have hne : 1 ≤ (digits n).length := List.length_pos_iff.mpr (Decimal.digits_ne_nil n)
  by_cases hfew : (digits n).length ≤ places
  · have hzeros : places + 1 - (digits n).length = (places - (digits n).length) + 1 := by omega
    have hwhole : (padded places n).length - places = 1 := by
      rw [padded, List.length_append, List.length_replicate]
      omega
    rw [beforePlaces, hwhole, padded, hzeros, List.replicate_succ]
    rfl
  · have hall : padded places n = digits n := by
      rw [padded, Nat.sub_eq_zero_of_le (by omega)]
      rfl
    rw [beforePlaces, hall] at h ⊢
    rw [List.head?_take, if_neg (by omega)] at h
    have hone := leading_digits h
    rw [hone] at hfew
    simp at hfew
    omega

lemma positional_eq_magnitude (negative : Bool) (d : Decimal) :
    ∃ n : Numeral, n.WellFormed ∧ n.negative = negative ∧ n.fraction.isSome ∧
      Decimal.positional true d = n.magnitude := by
  have hds : ∀ c ∈ digits d.coefficient, isDigit c = true :=
    fun c hc => Decimal.isDigit_of_mem_digits hc
  have hne := Decimal.digits_ne_nil d.coefficient
  rw [Decimal.positional]
  split
  · generalize hzeros :
      List.replicate (if d.coefficient = 0 then 0 else d.exponent.toNat) '0' = zeros
    refine ⟨⟨negative, digits d.coefficient ++ zeros, some ['0'], none⟩, ⟨?_, ?_, ?_, ?_⟩, rfl, rfl,
      ?_⟩
    · intro c hc
      obtain hc | hc := List.mem_append.mp hc
      · exact hds c hc
      · rw [← hzeros] at hc
        rw [List.eq_of_mem_replicate hc]
        rfl
    · exact List.append_ne_nil_of_left_ne_nil hne zeros
    · intro hleading
      rw [List.head?_append, Option.or_of_isSome (List.isSome_head?.mpr hne)] at hleading
      have hzero : d.coefficient = 0 := by
        by_contra hn
        exact Decimal.digits_head_ne_zero hn hleading
      rw [← hzeros, if_pos hzero, hzero]
      rfl
    · rintro fraction hfraction
      cases hfraction
      exact ⟨List.forall_mem_singleton.mpr rfl, List.cons_ne_nil _ _⟩
    · simp [Numeral.magnitude]
  · next hexponent =>
    have hplaces : 1 ≤ (-d.exponent).toNat := by omega
    generalize (-d.exponent).toNat = places at hplaces
    have hlength := lt_length_padded places d.coefficient
    refine ⟨⟨negative, beforePlaces places d.coefficient, some (inPlaces places d.coefficient),
      none⟩, ⟨?_, ?_, leading_beforePlaces hplaces, ?_⟩, rfl, rfl, ?_⟩
    · exact fun c hc => isDigit_of_mem_padded (List.mem_of_mem_take hc)
    · refine List.ne_nil_of_length_pos ?_
      rw [beforePlaces, List.length_take]
      omega
    · rintro fraction hfraction
      cases hfraction
      refine ⟨fun c hc => isDigit_of_mem_padded (List.mem_of_mem_drop hc),
        List.ne_nil_of_length_pos ?_⟩
      rw [inPlaces, List.length_drop]
      omega
    · rw [Numeral.magnitude, Option.elim_some, Option.elim_none, List.append_nil]
      rfl

lemma scientific_eq_magnitude (negative : Bool) (d : Decimal) :
    ∃ n : Numeral, n.WellFormed ∧ n.negative = negative ∧ n.exponent.isSome ∧
      Decimal.scientific d = n.magnitude := by
  have hds : ∀ c ∈ digits d.coefficient, isDigit c = true :=
    fun c hc => Decimal.isDigit_of_mem_digits hc
  have hne := Decimal.digits_ne_nil d.coefficient
  rw [Decimal.scientific]
  generalize digits d.coefficient = ds at hds hne
  obtain ⟨c, ds, rfl⟩ := List.exists_cons_of_ne_nil hne
  refine ⟨⟨negative, [c], if ds = [] then none else some ds,
    some (d.exponent + ((c :: ds).length - 1 : Nat))⟩, ⟨?_, by simp, ?_, ?_⟩, rfl, rfl, ?_⟩
  · exact fun e he => hds e (by simp_all)
  · simp
  · intro fraction hfraction
    by_cases hnil : ds = []
    · simp [hnil] at hfraction
    · simp only [if_neg hnil, Option.mem_some_iff] at hfraction
      subst hfraction
      exact ⟨fun e he => hds e (List.mem_cons_of_mem _ he), hnil⟩
  · cases ds with
    | nil => simp [Numeral.magnitude, Numeral.exponentText]
    | cons e ds => simp [Numeral.magnitude, Numeral.exponentText]

lemma write_eq_text (x : Float) :
    ∃ n : Numeral, n.WellFormed ∧ (n.fraction.isSome ∨ n.exponent.isSome) ∧
      layout.write x = n.text := by
  have hwrite : layout.write x = (if Decimal.isNegative x then ['-'] else []) ++
      Decimal.positional true (Decimal.shortest .even x) ∨
      layout.write x = (if Decimal.isNegative x then ['-'] else []) ++
        Decimal.scientific (Decimal.shortest .even x) := by
    rw [Layout.write]
    split_ifs <;> simp [layout]
  obtain hwrite | hwrite := hwrite
  · obtain ⟨n, hn, hnegative, hfraction, hpositional⟩ :=
      positional_eq_magnitude (Decimal.isNegative x) (Decimal.shortest .even x)
    exact ⟨n, hn, .inl hfraction, by rw [hwrite, hpositional, Numeral.text, hnegative]⟩
  · obtain ⟨n, hn, hnegative, hexponent, hscientific⟩ :=
      scientific_eq_magnitude (Decimal.isNegative x) (Decimal.shortest .even x)
    exact ⟨n, hn, .inr hexponent, by rw [hwrite, hscientific, Numeral.text, hnegative]⟩

end DerivedStats.Json
