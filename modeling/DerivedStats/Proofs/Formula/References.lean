import DerivedStats.Formula.Reference
import DerivedStats.Proofs.Text.Trimming

/-! Names of stats. Blanks behind the name do not change which stat it stands for. -/

namespace DerivedStats.Formula.Reference

open Text (isBlank trimLeft trimRight trimmed)

def ofBody? (body : List Char) : Option Reference :=
  let key := trimmed (body.takeWhile (· != '#'))
  if key.isEmpty then none
  else
    let role := match body.dropWhile (· != '#') with
      | [] => .primary
      | _ :: suffix => Role.ofText (String.ofList suffix)
    some ⟨String.ofList key, role⟩

lemma dynamic?_ofList (name : List Char) :
    dynamic? (String.ofList name) = (afterStart? dynamicStarts name).bind ofBody? := by
  rw [dynamic?, String.toList_ofList]
  rfl

lemma afterStart?_eq_some_iff {cs body : List Char} :
    afterStart? dynamicStarts cs = some body ↔ ∃ start ∈ dynamicStarts, cs = start ++ body := by
  have hapart : ∀ start ∈ dynamicStarts, ∀ other ∈ dynamicStarts,
      other.length = start.length := by decide
  constructor
  · intro h
    obtain ⟨start, hfound, rfl⟩ := Option.map_eq_some_iff.mp h
    have hstart : start <+: cs := by simpa using List.find?_some hfound
    exact ⟨start, List.mem_of_find?_eq_some hfound, (List.prefix_iff_eq_append.mp hstart).symm⟩
  · rintro ⟨start, hmem, rfl⟩
    have hfound : (dynamicStarts.find? (·.isPrefixOf (start ++ body))).isSome := by
      simp only [List.find?_isSome, List.isPrefixOf_iff_prefix]
      exact ⟨start, hmem, List.prefix_append start body⟩
    obtain ⟨other, hother⟩ := Option.isSome_iff_exists.mp hfound
    have hlength := hapart start hmem other (List.mem_of_find?_eq_some hother)
    rw [afterStart?, hother, Option.map_some, hlength, List.drop_left]

lemma role_trimRight (suffix : List Char) :
    Role.ofText (String.ofList (trimRight suffix)) = Role.ofText (String.ofList suffix) := by
  simp only [Role.ofText, Text.trim, String.toList_ofList, Text.trimmed_trimRight]

lemma ofBody?_trimRight (body : List Char) : ofBody? (trimRight body) = ofBody? body := by
  by_cases hmark : '#' ∈ body
  · obtain ⟨key, suffix, rfl, hkey⟩ := List.eq_append_cons_of_mem hmark
    have hin : ∀ c ∈ key, (c != '#') = true := fun c hc => by
      simpa using ne_of_mem_of_not_mem hc hkey
    rw [Text.trimRight_append_cons (by decide)]
    simp only [ofBody?, List.takeWhile_append_of_pos hin, List.dropWhile_append_of_pos hin]
    simp [role_trimRight]
  · obtain ⟨back, -, hbody⟩ := Text.trimRight_append body
    have hin : ∀ c ∈ body, (c != '#') = true := fun c hc => by
      simpa using ne_of_mem_of_not_mem hc hmark
    have hcut : ∀ c ∈ trimRight body, (c != '#') = true := fun c hc =>
      hin c (by rw [hbody]; exact List.mem_append_left back hc)
    simp only [ofBody?, List.takeWhile_eq_self_iff.mpr hin, List.takeWhile_eq_self_iff.mpr hcut,
      List.dropWhile_eq_nil_iff.mpr hin, List.dropWhile_eq_nil_iff.mpr hcut,
      Text.trimmed_trimRight]

lemma trimmed_start {start : List Char} (h : start ∈ dynamicStarts) (body : List Char) :
    trimmed (start ++ body) = start ++ trimRight body := by
  have hhead : ∀ s ∈ dynamicStarts, s.dropWhile isBlank = s ∧ s.isEmpty = false := by decide
  have hlast : ∀ s ∈ dynamicStarts, s.getLast? = some '#' := by decide
  obtain ⟨hkept, hne⟩ := hhead start h
  obtain ⟨ds, hds⟩ := List.getLast?_eq_some_iff.mp (hlast start h)
  have hleft : trimLeft (start ++ body) = start ++ body := by
    rw [trimLeft, List.dropWhile_append, hkept, hne]
    rfl
  rw [trimmed, hleft, hds, List.append_assoc, List.singleton_append,
    Text.trimRight_append_cons (by decide), List.append_cons]

theorem dynamic?_trimmed {name : List Char} {r : Reference}
    (h : dynamic? (String.ofList name) = some r) :
    dynamic? (String.ofList (trimmed name)) = some r := by
  rw [dynamic?_ofList] at h ⊢
  obtain ⟨body, hbody, hr⟩ := Option.bind_eq_some_iff.mp h
  obtain ⟨start, hstart, rfl⟩ := afterStart?_eq_some_iff.mp hbody
  have htrimmed : afterStart? dynamicStarts (trimmed (start ++ body)) = some (trimRight body) :=
    afterStart?_eq_some_iff.mpr ⟨start, hstart, trimmed_start hstart body⟩
  rw [htrimmed, Option.bind_some, ofBody?_trimRight, hr]

end DerivedStats.Formula.Reference
