import DerivedStats.Proofs.Pipeline.Evaluation

/-! The calculation of a run, entry by entry: each is evaluated in the state that the entries before
it leave. -/

namespace DerivedStats.Pipeline

/-- The table of the wanted mode, else the one named `default`, and its name; without either,
nothing is calculated. -/
def Spec.selected (spec : Spec) (i : Invocation) : String × Formulas :=
  match spec.calculate with
  | .flat formulas => ("", formulas)
  | .byMode modes =>
    let wanted := match i.mode, i.secondary with
      | some mode, _ => mode
      | none, some _ => "adversarial"
      | none, none => "solo"
    let named (mode : String) := modes.find? fun table => Text.sameLetters table.1 mode
    ((named wanted).or (named "default")).getD ("", [])

lemma Spec.selected_eq (spec : Spec) (i : Invocation) :
    spec.selected i = (spec.calculate.select? i.resolvedMode).getD ("", []) := by
  rw [Spec.selected, Invocation.resolvedMode]
  cases spec.calculate with
  | flat formulas => rfl
  | byMode modes => cases i.mode <;> cases i.secondary <;> rfl

section

variable (setting : Setting) (owner : String) (spec : Spec) (i : Invocation)

def calculating (formulas : Formulas) : Run Progress := do
  let given := Table.ofPairs i.bindings
  let defined ← bindAll setting i owner .definition spec.definition given
  let tooled ← bindAll setting i owner .tools spec.tools defined
  calculateAll setting i owner (spec.selected i).1 spec.definition formulas ⟨tooled, [], []⟩

def Spec.entrySource (f : String × String) : Source :=
  ⟨⟨owner, .calculate, calculationKey (spec.selected i).1 f.1⟩, f.1, f.2⟩

/-- An entry of the selected table gives a value in the state that the entries before it leave. -/
def GivesAt (s : Session) (formulas : Formulas) (k : Nat) (f : String × String) (x : Float) : Prop :=
  let reached := (calculating setting owner spec i (formulas.take k)).run s
  Evaluates setting i reached.1.bindings (spec.entrySource owner i f) reached.2 x

end

lemma calculateAll_append (setting : Setting) (i : Invocation) (owner mode : String)
    (definition front back : Formulas) (p : Progress) :
    calculateAll setting i owner mode definition (front ++ back) p =
      calculateAll setting i owner mode definition front p >>=
        calculateAll setting i owner mode definition back := by
  induction front generalizing p with
  | nil => rfl
  | cons f rest ih =>
    simp only [List.cons_append, calculateAll, bind_assoc]
    refine bind_congr fun result => ?_
    cases result with
    | none => exact ih p
    | some x =>
      simp only [bind_assoc]
      exact bind_congr fun writes => ih _

variable {setting : Setting} {owner : String} {spec : Spec} {i : Invocation}

lemma calculating_append (front back : Formulas) (s : Session) :
    (calculating setting owner spec i (front ++ back)).run s =
      (calculateAll setting i owner (spec.selected i).1 spec.definition back
        ((calculating setting owner spec i front).run s).1).run
          ((calculating setting owner spec i front).run s).2 := by
  rw [← run_bind]
  simp only [calculating, bind_assoc, calculateAll_append]

lemma calculateAll_singleton (f : String × String) (p : Progress) (s : Session) :
    (calculateAll setting i owner (spec.selected i).1 spec.definition [f] p).run s =
      let r := (evaluate setting i p.bindings (spec.entrySource owner i f)).run s
      match r.1 with
      | none => (p, r.2)
      | some x =>
        let w := (writeBack setting i spec.definition f.1 x).run r.2
        (⟨p.bindings.put f.1 x, p.outputs.put f.1 x, p.writes ++ w.1⟩, w.2) := by
  obtain ⟨name, text⟩ := f
  rw [calculateAll, run_bind]
  simp only [Spec.entrySource]
  cases ((evaluate setting i p.bindings _).run s).1 with
  | none => rfl
  | some x => rfl

lemma givesAt_append {front back : Formulas} {k : Nat} (hk : k ≤ front.length) (s : Session)
    (f : String × String) (x : Float) :
    GivesAt setting owner spec i s (front ++ back) k f x ↔
      GivesAt setting owner spec i s front k f x := by
  rw [GivesAt, GivesAt, List.take_append_of_le_length hk]

lemma givesAt_length_iff (front : Formulas) (s : Session) (f : String × String) (x : Float) :
    GivesAt setting owner spec i s front front.length f x ↔
      ((evaluate setting i ((calculating setting owner spec i front).run s).1.bindings
        (spec.entrySource owner i f)).run ((calculating setting owner spec i front).run s).2).1 =
          some x := by
  rw [GivesAt, List.take_length, evaluate_eq_some_iff]

lemma entry_of_concat {front : Formulas} {f g : String × String} {k : Nat}
    (h : (front ++ [f])[k]? = some g) :
    (k < front.length ∧ front[k]? = some g) ∨ (k = front.length ∧ g = f) := by
  rw [List.getElem?_append] at h
  split at h
  · next hk => exact .inl ⟨hk, h⟩
  · next hk =>
    rw [List.getElem?_singleton] at h
    split at h
    · next hlast =>
      cases h
      exact .inr ⟨by omega, rfl⟩
    · cases h

end DerivedStats.Pipeline
