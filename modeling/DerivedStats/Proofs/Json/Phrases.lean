import DerivedStats.Proofs.Json.Numerals
import DerivedStats.Proofs.Json.Texts
import Mathlib.Data.List.DropRight

/-! How each kind of value is read, and lists of values one after the other. -/

namespace DerivedStats.Json

open Decimal (isDigit)

lemma skipSpaces_append {blanks : List Char} (h : ∀ c ∈ blanks, isSpace c = true) (cs : List Char) :
    skipSpaces (blanks ++ cs) = skipSpaces cs :=
  List.dropWhile_append_of_pos h

lemma skipSpaces_skipSpaces (cs : List Char) : skipSpaces (skipSpaces cs) = skipSpaces cs :=
  List.dropWhile_idempotent isSpace cs

lemma skipSpaces_cons {c : Char} (h : isSpace c = false) (cs : List Char) :
    skipSpaces (c :: cs) = c :: cs :=
  List.dropWhile_cons_of_neg (by simp [h])

lemma readValue_skipSpaces (fuel : Nat) (cs : List Char) :
    readValue fuel (skipSpaces cs) = readValue fuel cs := by
  cases fuel with
  | zero => rfl
  | succ fuel =>
    rw [readValue.eq_def, readValue.eq_def (fuel + 1) cs]
    simp only [skipSpaces_skipSpaces]

lemma readItems_skipSpaces (fuel : Nat) (cs : List Char) :
    readItems fuel (skipSpaces cs) = readItems fuel cs := by
  cases fuel with
  | zero => rfl
  | succ fuel => rw [readItems, readItems, readValue_skipSpaces]

lemma readMembers_skipSpaces (fuel : Nat) (cs : List Char) :
    readMembers fuel (skipSpaces cs) = readMembers fuel cs := by
  cases fuel with
  | zero => rfl
  | succ fuel => rw [readMembers, readMembers, skipSpaces_skipSpaces]

lemma readValue_null (fuel : Nat) (rest : List Char) :
    readValue (fuel + 1) ("null".toList ++ rest) = some (.null, rest) := by
  have hword : "null".toList = ['n', 'u', 'l', 'l'] := by decide
  rw [hword]
  rfl

lemma readValue_boolean (fuel : Nat) (b : Bool) (rest : List Char) :
    readValue (fuel + 1) ((if b then "true" else "false").toList ++ rest) =
      some (.boolean b, rest) := by
  have htrue : "true".toList = ['t', 'r', 'u', 'e'] := by decide
  have hfalse : "false".toList = ['f', 'a', 'l', 's', 'e'] := by decide
  cases b with
  | true =>
    rw [if_pos rfl, htrue]
    rfl
  | false =>
    rw [if_neg (by decide), hfalse]
    rfl

lemma readValue_text (fuel : Nat) (s : String) (rest : List Char) :
    readValue (fuel + 1) ((quote s).toList ++ rest) = some (.string s, rest) := by
  rw [toList_quote_append, readValue.eq_def]
  simp only [skipSpaces_cons (c := '"') rfl, readText_flatMap]
  rfl

lemma readValue_digits (fuel : Nat) {c : Char} (hc : c = '-' ∨ isDigit c = true) (cs : List Char) :
    readValue (fuel + 1) (c :: cs) =
      (readNumeral (c :: cs)).map fun (n, rest) => (n.value, rest) := by
  have hspace : isSpace c = false := by
    by_contra h
    simp only [isSpace, Bool.not_eq_false, Bool.or_eq_true, beq_iff_eq] at h
    obtain rfl | hc := hc
    · exact absurd h (by decide)
    · obtain ((rfl | rfl) | rfl) | rfl := h <;> exact absurd hc (by decide)
  have hother (d : Char) (hd : d ≠ '-' ∧ isDigit d = false) : c ≠ d := by
    rintro rfl
    simp_all
  rw [readValue.eq_def]
  dsimp only
  rw [skipSpaces_cons hspace]
  split
  · next heq => cases heq
  · next heq => exact absurd (List.cons.inj heq).1 (hother _ (by decide))
  · next heq => exact absurd (List.cons.inj heq).1 (hother _ (by decide))
  · next heq => exact absurd (List.cons.inj heq).1 (hother _ (by decide))
  · next heq => exact absurd (List.cons.inj heq).1 (hother _ (by decide))
  · next heq => exact absurd (List.cons.inj heq).1 (hother _ (by decide))
  · next heq => exact absurd (List.cons.inj heq).1 (hother _ (by decide))
  · rfl

lemma Numeral.text_eq_cons {n : Numeral} (hn : n.WellFormed) :
    ∃ c cs, n.text = c :: cs ∧ (c = '-' ∨ isDigit c = true) := by
  obtain ⟨d, ds, hwhole⟩ := List.exists_cons_of_ne_nil hn.whole_ne_nil
  rw [Numeral.text, Numeral.magnitude, hwhole]
  cases n.negative with
  | true => exact ⟨'-', _, rfl, .inl rfl⟩
  | false => exact ⟨d, _, rfl, .inr (hn.whole d (by simp [hwhole]))⟩

lemma readValue_numeral (fuel : Nat) {n : Numeral} (hn : n.WellFormed) {rest : List Char}
    (hrest : EndsNumeral rest) :
    readValue (fuel + 1) (n.text ++ rest) = some (n.value, rest) := by
  obtain ⟨c, cs, htext, hc⟩ := Numeral.text_eq_cons hn
  have hread := readNumeral_append hn hrest
  rw [htext, List.cons_append] at hread ⊢
  rw [readValue_digits fuel hc, hread]
  rfl

lemma readItems_last {fuel : Nat} {cs rest tail : List Char} {v : Value}
    (hv : readValue fuel cs = some (v, rest)) (hrest : skipSpaces rest = ']' :: tail) :
    readItems (fuel + 1) cs = some ([v], tail) := by
  simp only [readItems, hv, Option.bind_eq_bind, Option.bind_some, hrest, Option.pure_def]

lemma readItems_more {fuel : Nat} {cs rest more tail : List Char} {v : Value} {vs : List Value}
    (hv : readValue fuel cs = some (v, rest)) (hrest : skipSpaces rest = ',' :: more)
    (hmore : readItems fuel more = some (vs, tail)) :
    readItems (fuel + 1) cs = some (v :: vs, tail) := by
  simp only [readItems, hv, Option.bind_eq_bind, Option.bind_some, hrest, hmore, Option.pure_def]

lemma readMembers_last {fuel : Nat} {cs rest tail : List Char} (name : String) {v : Value}
    (hv : readValue fuel cs = some (v, rest)) (hrest : skipSpaces rest = '\x7d' :: tail) :
    readMembers (fuel + 1) ((quote name).toList ++ ':' :: cs) = some (some [(name, v)], tail) := by
  rw [toList_quote_append, readMembers, skipSpaces_cons (c := '"') rfl]
  simp only [readText_flatMap, Option.bind_eq_bind, Option.bind_some,
    skipSpaces_cons (c := ':') rfl, hv, hrest, Option.pure_def, Option.map_some]

lemma readMembers_more {fuel : Nat} {cs rest more tail : List Char} (name : String) {v : Value}
    {ms : List (String × Value)} (hv : readValue fuel cs = some (v, rest))
    (hrest : skipSpaces rest = ',' :: more) (hmore : readMembers fuel more = some (some ms, tail)) :
    readMembers (fuel + 1) ((quote name).toList ++ ':' :: cs) =
      some (some ((name, v) :: ms), tail) := by
  rw [toList_quote_append, readMembers, skipSpaces_cons (c := '"') rfl]
  simp only [readText_flatMap, Option.bind_eq_bind, Option.bind_some,
    skipSpaces_cons (c := ':') rfl, hv, hrest, hmore, Option.pure_def]

lemma readItems_closing (fuel : Nat) (rest : List Char) : readItems fuel (']' :: rest) = none := by
  obtain _ | _ | fuel := fuel <;> rfl

lemma readMembers_closing (fuel : Nat) (rest : List Char) :
    readMembers fuel ('\x7d' :: rest) = none := by
  cases fuel <;> rfl

lemma readValue_items {fuel : Nat} {cs rest : List Char} {items : List Value}
    (h : readItems fuel cs = some (items, rest)) :
    readValue (fuel + 1) ('[' :: cs) = some (.array items, rest) := by
  rw [readValue.eq_def]
  simp only [skipSpaces_cons (c := '[') rfl]
  rw [← readItems_skipSpaces] at h
  split
  · next heq =>
    rw [heq, readItems_closing] at h
    cases h
  · rw [h]
    rfl

lemma readValue_members {fuel : Nat} {cs rest : List Char} {members : List (String × Value)}
    (h : readMembers fuel cs = some (some members, rest)) :
    readValue (fuel + 1) ('\x7b' :: cs) = some (.object members, rest) := by
  rw [readValue.eq_def]
  simp only [skipSpaces_cons (c := '\x7b') rfl]
  rw [← readMembers_skipSpaces] at h
  split
  · next heq =>
    rw [heq, readMembers_closing] at h
    cases h
  · rw [h]
    rfl

end DerivedStats.Json
