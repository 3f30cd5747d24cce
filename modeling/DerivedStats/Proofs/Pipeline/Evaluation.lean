import DerivedStats.Pipeline.Systems
import Mathlib.Tactic.Lemma

/-! What the evaluation of one formula gives, and that it changes no profile. -/

namespace DerivedStats.Pipeline

open Formula (Cache Context Expr Section compile)

lemma run_bind {α β : Type} (r : Run α) (f : α → Run β) (s : Session) :
    (r >>= f).run s = (f (r.run s).1).run (r.run s).2 := rfl

lemma toOption_eq_some_iff {ε α : Type} (r : Except ε α) (a : α) :
    r.toOption = some a ↔ r = .ok a := by
  cases r <;> simp [Except.toOption]

/-- The formula that a source stands for: the one in the cache, else the one compiled from its
text. -/
def Resolves (c : Cache) (x : Source) (e : Expr) : Prop :=
  c.get? x.place = some e ∨ c.get? x.place = none ∧ compile x.text = .ok e

def Evaluates (setting : Setting) (i : Invocation) (bindings : Table String Float) (x : Source)
    (s : Session) (value : Float) : Prop :=
  ∃ e, Resolves s.cache x e ∧
    (e.evaluate ((Context.mk setting.registry (i.entities s.profiles) bindings).scope setting.unit)
      s.drawn).1 = .ok value

lemma fetch_eq_ok_iff (c : Cache) (x : Source) (e : Expr) :
    (c.fetch x.place x.text).1 = .ok e ↔ Resolves c x e := by
  rw [Cache.fetch, Resolves]
  split
  · next found hfound => simp [hfound]
  · next hmissing =>
    split
    · next err herr => simp [hmissing, herr]
    · next compiled hcompiled => simp [hmissing, hcompiled]

lemma fetch_fst (x : Source) (s : Session) :
    ((fetch x).run s).1 = (s.cache.fetch x.place x.text).1.toOption := by
  simp only [fetch, StateT.run_bind, StateT.run_get, StateT.run_set, pure_bind]
  split
  · next e he =>
    rw [he]
    rfl
  · next err herr =>
    rw [herr]
    rfl

lemma fetch_frame (x : Source) (s : Session) :
    ((fetch x).run s).2.profiles = s.profiles ∧ ((fetch x).run s).2.drawn = s.drawn := by
  simp only [fetch, StateT.run_bind, StateT.run_get, StateT.run_set, pure_bind]
  split
  · exact ⟨rfl, rfl⟩
  · exact ⟨rfl, rfl⟩

lemma sample_fst (setting : Setting) (i : Invocation) (bindings : Table String Float) (x : Source)
    (e : Expr) (s : Session) :
    ((sample setting i bindings x e).run s).1 =
      (e.evaluate ((Context.mk setting.registry (i.entities s.profiles) bindings).scope setting.unit)
        s.drawn).1.toOption := by
  simp only [sample, StateT.run_bind, StateT.run_get, StateT.run_set, pure_bind]
  split
  · next value hvalue =>
    rw [hvalue]
    rfl
  · next err herr =>
    rw [herr]
    rfl

lemma sample_profiles (setting : Setting) (i : Invocation) (bindings : Table String Float)
    (x : Source) (e : Expr) (s : Session) :
    ((sample setting i bindings x e).run s).2.profiles = s.profiles := by
  simp only [sample, StateT.run_bind, StateT.run_get, StateT.run_set, pure_bind]
  split
  · rfl
  · rfl

lemma evaluate_profiles (setting : Setting) (i : Invocation) (bindings : Table String Float)
    (x : Source) (s : Session) :
    ((evaluate setting i bindings x).run s).2.profiles = s.profiles := by
  rw [evaluate, run_bind, ← (fetch_frame x s).1]
  cases ((fetch x).run s).1 with
  | none => rfl
  | some e => exact sample_profiles setting i bindings x e _

theorem evaluate_eq_some_iff (setting : Setting) (i : Invocation) (bindings : Table String Float)
    (x : Source) (s : Session) (value : Float) :
    ((evaluate setting i bindings x).run s).1 = some value ↔
      Evaluates setting i bindings x s value := by
  obtain ⟨hprofiles, hdrawn⟩ := fetch_frame x s
  rw [evaluate, run_bind, fetch_fst]
  cases hfetch : (s.cache.fetch x.place x.text).1 with
  | error err =>
    constructor
    · intro h
      cases h
    · rintro ⟨e, hresolves, -⟩
      rw [← fetch_eq_ok_iff, hfetch] at hresolves
      cases hresolves
  | ok e =>
    change ((sample setting i bindings x e).run _).1 = _ ↔ _
    rw [sample_fst, hprofiles, hdrawn, toOption_eq_some_iff]
    constructor
    · intro h
      exact ⟨e, (fetch_eq_ok_iff _ _ _).mp hfetch, h⟩
    · rintro ⟨e', hresolves, h⟩
      rw [← fetch_eq_ok_iff, hfetch] at hresolves
      cases hresolves
      exact h

lemma bindAll_profiles (setting : Setting) (i : Invocation) (owner : String) (part : Section)
    (formulas : Formulas) (bindings : Table String Float) (s : Session) :
    ((bindAll setting i owner part formulas bindings).run s).2.profiles = s.profiles := by
  induction formulas generalizing bindings s with
  | nil => rfl
  | cons f rest ih => rw [bindAll, run_bind, ih, evaluate_profiles]

end DerivedStats.Pipeline
