import DerivedStats.Proofs.Pipeline.Simulation
import Mathlib.Data.List.Flatten
import Mathlib.Data.List.Infix

/-! Sequences of calls that use every place of a configuration for one text between two clearings. -/

namespace DerivedStats.Pipeline

open Formula (Section)

/-- Between two clearings every place of a configuration comes with one text. -/
def Consistent (calls : List Call) : Prop :=
  ∀ stretch, stretch <:+: calls → Call.clear ∉ stretch →
    OneText ((stretch.flatMap Call.lookups).filter Source.configured)

lemma configured_of_mem_listed {owner : String} {part : Section} {formulas : Formulas} {x : Source}
    (hpart : part ≠ .adhoc) (hx : x ∈ listed owner part formulas) : x.configured = true := by
  obtain ⟨f, -, rfl⟩ := List.mem_map.mp hx
  exact decide_eq_true hpart

lemma configured_of_mem_calculated {owner mode : String} {formulas : Formulas} {x : Source}
    (hx : x ∈ calculated owner mode formulas) : x.configured = true := by
  obtain ⟨f, -, rfl⟩ := List.mem_map.mp hx
  rfl

lemma Spec.configured_of_mem_lookups {spec : Spec} {owner mode : String} {x : Source}
    (hx : x ∈ spec.lookups owner mode) : x.configured = true := by
  simp only [Spec.lookups, List.mem_append] at hx
  rcases hx with (hdefinition | htools) | hselected
  · exact configured_of_mem_listed (by decide) hdefinition
  · exact configured_of_mem_listed (by decide) htools
  · cases hselect : spec.calculate.select? mode with
    | none => simp [hselect] at hselected
    | some selected =>
      rw [hselect] at hselected
      exact configured_of_mem_calculated hselected

lemma Call.text_eq_key {call : Call} {x : Source} (hx : x ∈ call.lookups)
    (hadhoc : x.configured = false) : x.text = x.place.key := by
  cases call with
  | run owner spec i => simp [spec.configured_of_mem_lookups hx] at hadhoc
  | damage b attacker defender a => simp [b.spec.configured_of_mem_lookups hx] at hadhoc
  | update id systems =>
    obtain ⟨system, -, hsystem⟩ := List.mem_flatMap.mp hx
    simp [system.2.configured_of_mem_lookups hsystem] at hadhoc
  | calculate text primary secondary =>
    obtain rfl := List.mem_singleton.mp hx
    rfl
  | clear => cases hx

lemma OneText.of_configured {calls : List Call}
    (h : OneText ((calls.flatMap Call.lookups).filter Source.configured)) :
    OneText (calls.flatMap Call.lookups) := by
  intro x hx y hy hplace
  have hsame : x.configured = y.configured := by simp only [Source.configured, hplace]
  cases hconfigured : x.configured with
  | true =>
    exact h x (List.mem_filter.mpr ⟨hx, hconfigured⟩) y
      (List.mem_filter.mpr ⟨hy, hsame ▸ hconfigured⟩) hplace
  | false =>
    obtain ⟨c, -, hc⟩ := List.mem_flatMap.mp hx
    obtain ⟨d, -, hd⟩ := List.mem_flatMap.mp hy
    rw [Call.text_eq_key hc hconfigured, Call.text_eq_key hd (hsame ▸ hconfigured), hplace]

lemma Consistent.stretch {calls part : List Call} (h : Consistent calls) (hpart : part <:+: calls) :
    Consistent part :=
  fun stretch hstretch hclear => h stretch (hstretch.trans hpart) hclear

lemma Consistent.of_oneText {calls : List Call}
    (h : OneText ((calls.flatMap Call.lookups).filter Source.configured)) : Consistent calls := by
  intro stretch hstretch _ x hx y hy hplace
  have hsub := ((hstretch.sublist.flatMap Call.lookups).filter Source.configured).subset
  exact h x (hsub hx) y (hsub hy) hplace

lemma stretch_of_append_clear {stretch before after : List Call}
    (h : stretch <:+: before ++ .clear :: after) (hclear : Call.clear ∉ stretch) :
    stretch <:+: before ∨ stretch <:+: after := by
  obtain ⟨front, back, hsplit⟩ := h
  rcases List.append_eq_append_iff.mp hsplit with ⟨rest, hbefore, -⟩ | ⟨rest, hfront, hback⟩
  · exact .inl ⟨front, rest, hbefore.symm⟩
  cases rest with
  | nil => exact .inl ⟨front, [], by simpa using hfront⟩
  | cons call rest =>
    obtain ⟨rfl, rfl⟩ := List.cons.inj hback
    rcases List.append_eq_append_iff.mp hfront with ⟨part, -, hstretch⟩ | ⟨part, -, hstretch⟩
    · subst hstretch
      simp at hclear
    · cases part with
      | nil =>
        subst hstretch
        simp at hclear
      | cons call part =>
        obtain ⟨rfl, rfl⟩ := List.cons.inj hstretch
        exact .inr ⟨part, back, rfl⟩

lemma consistent_append_clear (before after : List Call) :
    Consistent (before ++ .clear :: after) ↔ Consistent before ∧ Consistent after := by
  constructor
  · intro h
    exact ⟨h.stretch (List.prefix_append _ _).isInfix,
      h.stretch ((List.suffix_cons _ _).trans (List.suffix_append _ _)).isInfix⟩
  · rintro ⟨hbefore, hafter⟩ stretch hstretch hclear
    rcases stretch_of_append_clear hstretch hclear with hpart | hpart
    · exact hbefore stretch hpart hclear
    · exact hafter stretch hpart hclear

end DerivedStats.Pipeline
