import DerivedStats.Pipeline.WriteBack
import DerivedStats.Proofs.Formula.Literals
import DerivedStats.Proofs.Text.Trimming

/-! A definition with a target for results compiles to the name that it reads. -/

namespace DerivedStats.Pipeline

open Formula (Expr Reference compile)
open Formula.Grammar (Derives Reads Spelled Token)
open Text (isBlank trimmed)

lemma betweenPercents?_eq_some {cs name : List Char} (h : betweenPercents? cs = some name) :
    cs = '%' :: name ++ ['%'] := by
  cases cs with
  | nil => cases h
  | cons c cs =>
    by_cases hc : c = '%'
    · subst hc
      rw [betweenPercents?] at h
      split at h
      · next hlast =>
        obtain rfl := Option.some.inj h
        obtain ⟨hne, hlast⟩ := List.mem_getLast?_eq_getLast hlast
        rw [List.cons_append, hlast, List.dropLast_append_getLast]
      · cases h
    · simp [betweenPercents?, hc] at h

lemma hash_mem_dynamicStarts : ∀ start ∈ Reference.dynamicStarts, '#' ∈ start := by
  decide

lemma trimmed_ne_nil_of_dynamic {name : List Char} {r : Reference}
    (h : Reference.dynamic? (String.ofList name) = some r) : trimmed name ≠ [] := by
  intro hblank
  obtain ⟨body, hbody, -⟩ := Option.bind_eq_some_iff.mp h
  obtain ⟨start, hstart, -⟩ := Option.map_eq_some_iff.mp hbody
  have hhash := hash_mem_dynamicStarts start (List.mem_of_find?_eq_some hstart)
  have hstart : start <+: name := by
    simpa using List.find?_some hstart
  exact absurd (Text.isBlank_of_trimmed_eq_nil hblank '#' (hstart.subset hhash)) (by decide)

lemma compile_delimited {text : String} {name : List Char}
    (htext : trimmed text.toList = '%' :: name ++ ['%']) (hpercent : '%' ∉ name)
    (hname : trimmed name ≠ []) : compile text = .ok (.var (String.ofList (trimmed name))) := by
  obtain ⟨front, back, hfront, hback, hsplit⟩ := Text.trimmed_append text.toList
  have hlexeme : Reads (.delimited name) ('%' :: name ++ '%' :: back) back := .delimited hpercent
  have hspelled : Spelled [.delimited name] text.toList := by
    rw [hsplit, htext, List.append_assoc]
    exact .token hfront hlexeme (.done hback)
  exact (Formula.Grammar.isOperand_delimited hname).compile_eq hspelled

theorem writeBackTarget?_eq_some {text key : String} (h : writeBackTarget? text = some key) :
    ∃ name, Reference.dynamic? (String.ofList name) = some ⟨key, .primary⟩ ∧
      compile text = .ok (.var (String.ofList (trimmed name))) := by
  obtain ⟨name, hbetween, h⟩ := Option.bind_eq_some_iff.mp h
  split at h
  · cases h
  · next hpercent =>
    obtain ⟨⟨key', role⟩, hdynamic, hrole⟩ := Option.bind_eq_some_iff.mp h
    split at hrole
    · next hprimary =>
      cases hprimary
      cases hrole
      refine ⟨name, hdynamic, compile_delimited (betweenPercents?_eq_some hbetween) ?_
        (trimmed_ne_nil_of_dynamic hdynamic)⟩
      simpa using hpercent
    · cases hrole

lemma writeBackTarget?_zero : writeBackTarget? "0" = none := by decide

end DerivedStats.Pipeline
