import DerivedStats.Proofs.Formula.CompileSound

/-! Texts cut at byte offsets. -/

namespace DerivedStats.Formula

def sliceFrom : List Char → ℕ → Option (List Char)
  | cs, 0 => some cs
  | [], _ + 1 => none
  | c :: cs, n + 1 => if c.utf8Size ≤ n + 1 then sliceFrom cs (n + 1 - c.utf8Size) else none

def sliceTo : List Char → ℕ → Option (List Char)
  | _, 0 => some []
  | [], _ + 1 => none
  | c :: cs, n + 1 =>
    if c.utf8Size ≤ n + 1 then (sliceTo cs (n + 1 - c.utf8Size)).map (c :: ·) else none

def offsetOf? (ch : Char) (cs : List Char) : Option ℕ :=
  if ch ∈ cs then some (byteSize (cs.takeWhile (· != ch))) else none

lemma byteSize_eq (cs : List Char) : byteSize cs = (String.ofList cs).utf8ByteSize := by
  induction cs with
  | nil => rfl
  | cons c cs ih =>
    rw [byteSize, ih, ← List.singleton_append, String.ofList_append, String.utf8ByteSize_append]
    simp

@[simp] lemma sliceFrom_zero (cs : List Char) : sliceFrom cs 0 = some cs := by
  cases cs <;> rfl

@[simp] lemma sliceTo_zero (cs : List Char) : sliceTo cs 0 = some [] := by
  cases cs <;> rfl

section

variable (front back : List Char)

lemma byteSize_cons (c : Char) : ∃ n, byteSize (c :: front) = n + 1 ∧ c.utf8Size ≤ n + 1 ∧
    n + 1 - c.utf8Size = byteSize front := by
  have hsize := c.utf8Size_pos
  refine ⟨c.utf8Size - 1 + byteSize front, ?_, ?_, ?_⟩
  · rw [byteSize]
    omega
  · omega
  · omega

lemma sliceFrom_byteSize : sliceFrom (front ++ back) (byteSize front) = some back := by
  induction front with
  | nil => exact sliceFrom_zero back
  | cons c front ih =>
    obtain ⟨n, hsize, hle, hrest⟩ := byteSize_cons front c
    rw [List.cons_append, hsize, sliceFrom, if_pos hle, hrest, ih]

lemma sliceTo_byteSize : sliceTo (front ++ back) (byteSize front) = some front := by
  induction front with
  | nil => exact sliceTo_zero back
  | cons c front ih =>
    obtain ⟨n, hsize, hle, hrest⟩ := byteSize_cons front c
    rw [List.cons_append, hsize, sliceTo, if_pos hle, hrest, ih, Option.map_some]

end

lemma exists_of_sliceFrom {cs back : List Char} {n : ℕ} (h : sliceFrom cs n = some back) :
    ∃ front, cs = front ++ back ∧ byteSize front = n := by
  induction cs generalizing n with
  | nil =>
    cases n with
    | zero => exact ⟨[], (Option.some.inj h), rfl⟩
    | succ n => cases h
  | cons c cs ih =>
    cases n with
    | zero => exact ⟨[], (Option.some.inj h), rfl⟩
    | succ n =>
      rw [sliceFrom] at h
      split at h
      · next hle =>
        obtain ⟨front, rfl, hfront⟩ := ih h
        refine ⟨c :: front, rfl, ?_⟩
        rw [byteSize, hfront]
        omega
      · cases h

lemma offsetOf?_eq (ch : Char) (cs : List Char) : offsetOf? ch cs =
    if cs.dropWhile (· != ch) = [] then none else some (byteSize (cs.takeWhile (· != ch))) := by
  have hnone : cs.dropWhile (· != ch) = [] ↔ ch ∉ cs := by
    rw [List.dropWhile_eq_nil_iff]
    constructor
    · exact fun h hm => by simpa using h ch hm
    · exact fun h x hm => by simpa using ne_of_mem_of_not_mem hm h
  by_cases h : ch ∈ cs
  · rw [offsetOf?, if_pos h, if_neg fun hnil => hnone.mp hnil h]
  · rw [offsetOf?, if_neg h, if_pos (hnone.mpr h)]

lemma isValid_iff_sliceFrom {text : String} {n : ℕ} :
    (⟨n⟩ : String.Pos.Raw).IsValid text ↔ ∃ rest, sliceFrom text.toList n = some rest := by
  rw [String.Pos.Raw.isValid_iff_exists_append]
  constructor
  · rintro ⟨front, back, rfl, hn⟩
    have hsize : n = byteSize front.toList := by
      rw [byteSize_eq, String.ofList_toList]
      exact congrArg String.Pos.Raw.byteIdx hn
    rw [hsize, String.toList_append]
    exact ⟨_, sliceFrom_byteSize _ _⟩
  · rintro ⟨back, h⟩
    obtain ⟨front, htext, hsize⟩ := exists_of_sliceFrom h
    refine ⟨String.ofList front, String.ofList back, ?_, ?_⟩
    · exact String.toList_injective (by simpa using htext)
    · rw [← hsize, byteSize_eq]
      rfl

end DerivedStats.Formula
