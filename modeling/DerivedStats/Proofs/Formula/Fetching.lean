import DerivedStats.Formula.Cache
import Mathlib.Tactic.Lemma

/-! What a look-up can come to, and look-ups in caches that agree where it matters. -/

namespace DerivedStats.Formula.Cache

lemma fetch_cases (c : Cache) (p : Place) (text : String) :
    (∃ e, c.get? p = some e ∧ c.fetch p text = (.ok e, c)) ∨
    (∃ e, c.get? p = none ∧ compile text = .ok e ∧
      c.fetch p text = (.ok e, ⟨c.entries.put p e, c.compilations + 1⟩)) ∨
    ∃ err, c.get? p = none ∧ compile text = .error err ∧ c.fetch p text = (.error err, c) := by
  rw [fetch]
  cases hp : c.get? p with
  | some e => exact .inl ⟨e, rfl, rfl⟩
  | none =>
    cases htext : compile text with
    | ok e => exact .inr (.inl ⟨e, rfl, rfl, rfl⟩)
    | error err => exact .inr (.inr ⟨err, rfl, rfl, rfl⟩)

lemma fetch_fst_eq_error_iff {c : Cache} {p : Place} {text : String} {err : CompileError} :
    (c.fetch p text).1 = .error err ↔ c.get? p = none ∧ compile text = .error err := by
  obtain ⟨e, he, hfetch⟩ | ⟨e, hnone, he, hfetch⟩ | ⟨err, hnone, herr, hfetch⟩ :=
    c.fetch_cases p text
  · simp [hfetch, he]
  · simp [hfetch, he]
  · simp [hfetch, hnone, herr]

lemma fetch_snd_of_error {c : Cache} {p : Place} {text : String} {err : CompileError}
    (h : (c.fetch p text).1 = .error err) : (c.fetch p text).2 = c := by
  obtain ⟨hnone, herr⟩ := fetch_fst_eq_error_iff.mp h
  rw [fetch, hnone, herr]

lemma fetch_congr {c d : Cache} (out : Place → Prop) (h : ∀ p, ¬ out p → c.get? p = d.get? p)
    {p : Place} (hp : ¬ out p) (text : String) :
    (c.fetch p text).1 = (d.fetch p text).1 ∧
      ∀ q, ¬ out q → (c.fetch p text).2.get? q = (d.fetch p text).2.get? q := by
  rw [fetch, fetch, ← h p hp]
  cases c.get? p with
  | some e => exact ⟨rfl, h⟩
  | none =>
    cases compile text with
    | error err => exact ⟨rfl, h⟩
    | ok e =>
      refine ⟨rfl, fun q hq => ?_⟩
      change (c.entries.put p e).get? q = (d.entries.put p e).get? q
      rw [Table.get?_put, Table.get?_put]
      split
      · rfl
      · exact h q hq

end DerivedStats.Formula.Cache
