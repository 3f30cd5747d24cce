import DerivedStats.EntityId
import DerivedStats.Proofs.Decimal.Digits
import Mathlib.Algebra.GroupWithZero.Nat
import Mathlib.Data.List.Basic

/-! An identifier is read back from its text. -/

namespace DerivedStats.EntityId

lemma digit?_digitChar : ∀ d < 16, digit? d.digitChar = some d := by decide

def digitValue (c : Char) : Nat := (digit? c).getD 0

lemma mem_digits {id : EntityId} {c : Char} (hc : c ∈ id.digits) : ∃ d < 16, c = d.digitChar := by
  obtain hc | hc := List.mem_append.mp hc
  · exact ⟨0, by omega, List.eq_of_mem_replicate hc⟩
  · exact Decimal.mem_toDigits (by omega) hc

lemma length_digits (id : EntityId) : id.digits.length = 32 := by
  have hbits : id.bits.toNat < 16 ^ 32 := id.bits.isLt
  have hlength := (Nat.length_toDigits_le_iff (by omega : 1 < 16) (by omega : 0 < 32)).mpr hbits
  simp only [digits, List.length_append, List.length_replicate]
  omega

lemma mapM_digit? {ds : List Char} (h : ∀ c ∈ ds, ∃ d < 16, c = d.digitChar) :
    ds.mapM digit? = some (ds.map digitValue) := by
  induction ds with
  | nil => rfl
  | cons c ds ih =>
    obtain ⟨⟨d, hd, rfl⟩, hds⟩ := List.forall_mem_cons.mp h
    simp [List.mapM_cons, ih hds, digitValue, digit?_digitChar d hd]

lemma foldl_zeros (n : Nat) :
    (List.replicate n '0').foldl (fun m c => 16 * m + digitValue c) 0 = 0 := by
  induction n with
  | zero => rfl
  | succ n ih => exact ih

lemma foldl_digits (id : EntityId) :
    (id.digits.map digitValue).foldl (fun n d => 16 * n + d) 0 = id.bits.toNat := by
  rw [List.foldl_map, digits, List.foldl_append, foldl_zeros]
  refine Decimal.foldl_toDigits (by omega) (fun d hd => ?_) _
  rw [digitValue, digit?_digitChar d hd]
  rfl

lemma ofDigits?_digits (id : EntityId) : ofDigits? id.digits = some id := by
  rw [ofDigits?, mapM_digit? fun c hc => mem_digits hc, length_digits]
  simp [foldl_digits]

lemma length_hyphenate (n : Nat) (ns : List Nat) (ds : List Char) :
    (hyphenate (n :: ns) ds).length = ds.length + ns.length := by
  induction ns generalizing n ds with
  | nil => rfl
  | cons m ns ih =>
    change (ds.take n ++ '-' :: hyphenate (m :: ns) (ds.drop n)).length = _
    rw [List.length_append, List.length_cons, ih, List.length_take, List.length_drop,
      List.length_cons]
    omega

lemma unhyphenate_hyphenate {n : Nat} {ns : List Nat} {ds : List Char}
    (h : ds.length = (n :: ns).sum) : unhyphenate (n :: ns) (hyphenate (n :: ns) ds) = some ds := by
  induction ns generalizing n ds with
  | nil => exact if_pos (h.trans (Nat.add_zero n))
  | cons m ns ih =>
    rw [List.sum_cons] at h
    have htake : (ds.take n).length = n := by
      rw [List.length_take]
      omega
    have hdrop : unhyphenate (m :: ns) (hyphenate (m :: ns) (ds.drop n)) = some (ds.drop n) := by
      refine ih ?_
      rw [List.length_drop]
      omega
    change unhyphenate (n :: m :: ns) (ds.take n ++ '-' :: hyphenate (m :: ns) (ds.drop n)) = _
    rw [unhyphenate, List.drop_left' htake]
    · change (unhyphenate (m :: ns) (hyphenate (m :: ns) (ds.drop n))).map _ = _
      rw [hdrop, Option.map_some, List.take_left' htake, List.take_append_drop]
    · exact List.cons_ne_nil m ns

lemma ofHyphenated?_hyphenate (id : EntityId) :
    ofHyphenated? (hyphenate groups id.digits) = some id := by
  rw [ofHyphenated?, groups, unhyphenate_hyphenate (length_digits id), Option.bind_some,
    ofDigits?_digits]

theorem ofText?_text (id : EntityId) : ofText? id.text = some id := by
  obtain ⟨c, cs, hcs⟩ := List.exists_cons_of_length_pos
    (by rw [length_digits]; omega : 0 < id.digits.length)
  have hmem : c ∈ id.digits := by
    rw [hcs]
    exact List.mem_cons_self
  obtain ⟨d, hd, hc⟩ := mem_digits hmem
  have hfirst : c.toLower ≠ 'u' ∧ c ≠ '\x7b' := by
    rw [hc]
    exact (by decide : ∀ d < 16, d.digitChar.toLower ≠ 'u' ∧ d.digitChar ≠ '\x7b') d hd
  have hlength : (hyphenate groups id.digits).length = 36 := by
    rw [groups, length_hyphenate, length_digits]
    rfl
  obtain ⟨more, hmore⟩ : ∃ more, hyphenate groups id.digits = c :: more := by
    rw [hcs]
    exact ⟨_, rfl⟩
  have hurn : ((c :: more).take urnStart.length).map Char.toLower ≠ urnStart := by
    intro heq
    have hhead := congrArg List.head? heq
    exact hfirst.1 (Option.some.inj hhead)
  rw [ofText?, text, String.toList_ofList, if_neg (by omega)]
  rw [← ofHyphenated?_hyphenate id, hmore, if_neg hurn]
  split
  · next heq => exact absurd (List.cons.inj heq).1 hfirst.2
  · rfl

end DerivedStats.EntityId
