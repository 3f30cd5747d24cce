import DerivedStats.Proofs.Formula.Drawing
import DerivedStats.Proofs.Formula.Fetching
import DerivedStats.Proofs.Pipeline.Respects
import DerivedStats.Proofs.Profile.Matching

/-! Sessions in which nothing that a run gives or tells is different. -/

namespace DerivedStats

open Formula (Context Entities Expr Role SameDraws)
open Profile (AllMatch Matches)

namespace Formula

lemma resolve_eq_of_matches (r : Attribute.Registry) (bindings : Table String Float)
    {es es' : Entities} (h : ∀ role, Option.Rel Matches (es.get? role) (es'.get? role)) :
    (Context.mk r es bindings).resolve = (Context.mk r es' bindings).resolve := by
  funext name
  rw [Context.resolve, Context.resolve]
  cases Table.get? bindings name with
  | some x => rfl
  | none =>
    cases Reference.ofName? name with
    | none => rfl
    | some ref =>
      have hrole := h ref.role
      change (es.get? ref.role).elim 0 _ = (es'.get? ref.role).elim 0 _
      generalize es.get? ref.role = entity, es'.get? ref.role = entity' at hrole
      cases hrole with
      | none => rfl
      | some hmatch => exact hmatch.stat r ref.key

lemma entities_match {ps qs : Pipeline.Profiles} (h : AllMatch ps qs)
    (primary secondary : Option EntityId) (role : Role) :
    Option.Rel Matches (Entities.get? ⟨primary.bind ps.get?, secondary.bind ps.get?⟩ role)
      (Entities.get? ⟨primary.bind qs.get?, secondary.bind qs.get?⟩ role) := by
  have hbind : ∀ id : Option EntityId, Option.Rel Matches (id.bind ps.get?) (id.bind qs.get?) := by
    intro id
    cases id with
    | none => exact .none
    | some id => exact h id
  cases role with
  | primary => exact hbind primary
  | secondary => exact hbind secondary

end Formula

namespace Pipeline

structure Twins (u v : Nat → Float) (s t : Session) : Prop where
  draws : SameDraws u v s.drawn t.drawn
  profiles : AllMatch s.profiles t.profiles
  cache : ∀ p, s.cache.get? p = t.cache.get? p
  notices : s.notices = t.notices

variable {u v : Nat → Float}

lemma Twins.fetch {s t : Session} (h : Twins u v s t) (p : Formula.Place) (text : String) :
    (s.cache.fetch p text).1 = (t.cache.fetch p text).1 ∧
      Twins u v { s with cache := (s.cache.fetch p text).2 }
        { t with cache := (t.cache.fetch p text).2 } := by
  obtain ⟨hfound, hkept⟩ := Formula.Cache.fetch_congr (fun _ => False)
    (fun q _ => h.cache q) not_false text
  exact ⟨hfound, h.draws, h.profiles, fun q => hkept q not_false, h.notices⟩

lemma Twins.note {s t : Session} (h : Twins u v s t) (n : Notice) :
    Twins u v { s with notices := s.notices ++ [n] } { t with notices := t.notices ++ [n] } :=
  ⟨h.draws, h.profiles, h.cache, congrArg (· ++ [n]) h.notices⟩

lemma Twins.evaluate {s t : Session} (h : Twins u v s t) (e : Expr) (value : String → Float) :
    (e.evaluate ⟨value, u⟩ s.drawn).1 = (e.evaluate ⟨value, v⟩ t.drawn).1 ∧
      Twins u v { s with drawn := (e.evaluate ⟨value, u⟩ s.drawn).2 }
        { t with drawn := (e.evaluate ⟨value, v⟩ t.drawn).2 } := by
  obtain ⟨hresult, hdraws⟩ := Formula.sample_drawsAlike value u v e _ _ h.draws
  exact ⟨hresult, hdraws, h.profiles, h.cache, h.notices⟩

lemma Twins.setStat? {s t : Session} (h : Twins u v s t) (r : Attribute.Registry) (id : EntityId)
    (key : String) (value : Float) :
    Option.Rel Matches ((s.profiles.get? id).bind fun p => p.setStat? r key value)
      ((t.profiles.get? id).bind fun p => p.setStat? r key value) := by
  have hid := h.profiles id
  generalize s.profiles.get? id = found, t.profiles.get? id = found' at hid
  cases hid with
  | none => exact .none
  | some hmatch => exact hmatch.setStat? r key value

lemma Twins.steps (r : Attribute.Registry) :
    StepsRespect (Twins u v) ⟨r, u⟩ ⟨r, v⟩ fun _ => True where
  note n _ _ h := ⟨rfl, h.note n⟩
  fetch x _ s t h := by
    obtain ⟨hfound, hfetched⟩ := h.fetch x.place x.text
    simp only [SameEnd, Pipeline.fetch, StateT.run_bind, StateT.run_get, StateT.run_set, pure_bind,
      ← hfound]
    cases (s.cache.fetch x.place x.text).1 with
    | ok e => exact ⟨rfl, hfetched⟩
    | error err => exact ⟨rfl, hfetched.note _⟩
  sample i bindings x e s t h := by
    have hvalue : (Context.mk r (i.entities s.profiles) bindings).resolve =
        (Context.mk r (i.entities t.profiles) bindings).resolve :=
      Formula.resolve_eq_of_matches r bindings
        (Formula.entities_match h.profiles (some i.primary) i.secondary)
    obtain ⟨hresult, hsampled⟩ :=
      h.evaluate e (Context.mk r (i.entities t.profiles) bindings).resolve
    simp only [SameEnd, Pipeline.sample, Context.scope, StateT.run_bind, StateT.run_get,
      StateT.run_set, pure_bind, hvalue, ← hresult]
    split
    · exact ⟨rfl, hsampled⟩
    · exact ⟨rfl, hsampled.note _⟩
  store id key value s t h := by
    have hset := h.setStat? r id key value
    simp only [SameEnd, Pipeline.store, StateT.run_bind, StateT.run_get, pure_bind]
    generalize (s.profiles.get? id).bind _ = p, (t.profiles.get? id).bind _ = q at hset ⊢
    cases hset with
    | none => exact ⟨rfl, h⟩
    | some hmatch => exact ⟨rfl, h.draws, h.profiles.put id hmatch, h.cache, h.notices⟩

lemma Twins.calculate (r : Attribute.Registry) (text : String)
    (primary secondary : Option EntityId) :
    Respects (Twins u v) (Engine.calculateRun text primary secondary ⟨r, u⟩)
      (Engine.calculateRun text primary secondary ⟨r, v⟩) := by
  intro s t h
  obtain ⟨hfound, hfetched⟩ := h.fetch ⟨Engine.adhocOwner, .adhoc, text⟩ text
  simp only [SameEnd, Engine.calculateRun, StateT.run_bind, StateT.run_get, StateT.run_set,
    pure_bind, ← hfound]
  cases (s.cache.fetch ⟨Engine.adhocOwner, .adhoc, text⟩ text).1 with
  | error err => exact ⟨rfl, hfetched.note _⟩
  | ok e =>
    have hvalue := Formula.resolve_eq_of_matches r []
      (Formula.entities_match h.profiles primary secondary)
    obtain ⟨hresult, hsampled⟩ := hfetched.evaluate e (Context.mk r
      ⟨primary.bind t.profiles.get?, secondary.bind t.profiles.get?⟩ []).resolve
    simp only [Context.scope, StateT.run_bind, StateT.run_get, StateT.run_set, pure_bind, hvalue,
      ← hresult]
    split
    · exact ⟨rfl, hsampled⟩
    · exact ⟨rfl, hsampled.note _⟩

end Pipeline

end DerivedStats
