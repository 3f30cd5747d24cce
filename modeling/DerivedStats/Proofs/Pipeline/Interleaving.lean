import DerivedStats.Proofs.Pipeline.Interference
import Mathlib.Algebra.Order.Ring.Nat
import Mathlib.Data.List.Nodup
import Mathlib.Logic.Relation

/-! Several profiles are updated at once, with one cache and their steps in any order. It ends as if
one profile had been updated after the other. -/

namespace DerivedStats.Pipeline

open Formula (Cache)
open Relation (ReflTransGen)

abbrev Update := EntityId × Thread (List (String × Outcome))

inductive Advances : Session → List Update → Session → List Update → Prop
  | here {β : Type} {s : Session} {id : EntityId} {act : Run β}
    {next : β → Thread (List (String × Outcome))} {rest : List Update} :
    Advances s ((id, .step act next) :: rest) (act.run s).2 ((id, next (act.run s).1) :: rest)
  | later {s s' : Session} {u : Update} {rest rest' : List Update} : Advances s rest s' rest' →
    Advances s (u :: rest) s' (u :: rest')

structure World where
  session : Session
  updates : List Update

namespace World

def Step (w w' : World) : Prop := Advances w.session w.updates w'.session w'.updates

def start (setting : Setting) (systems : Systems) (ids : List EntityId) (s : Session) : World :=
  ⟨s, ids.map fun id => (id, Thread.updateProfile setting id systems)⟩

def Finished (w : World) : Prop := ∀ u ∈ w.updates, ∃ outcomes, u.2 = .done outcomes

def writes (w : World) : List Write :=
  w.updates.flatMap fun u =>
    match u.2 with
    | .done outcomes => outcomes.flatMap fun o => o.2.writes
    | .step .. => []

end World

lemma appliedWrites_eq (outcomes : List (String × Outcome)) :
    appliedWrites outcomes =
      (outcomes.flatMap fun o => o.2.writes).countP fun w => w.applied := by
  rw [appliedWrites, List.countP_flatMap, List.sum_eq_foldl, List.foldl_map]
  rfl

section

variable {inv : Cache → Prop} {final : EntityId → List (String × Outcome) × Option Profile}
  {s s' : Session} {us us' : List Update}

variable (inv final) in
structure Heading (s : Session) (us : List Update) : Prop where
  holds : inv s.cache
  ends : ∀ u ∈ us, Ends inv u.1 (final u.1).1 (final u.1).2 u.2 (s.profiles.get? u.1)

lemma Advances.heading (h : Advances s us s' us') (hids : (us.map Prod.fst).Nodup)
    (hs : Heading inv final s us) :
    Heading inv final s' us' ∧ us'.map Prod.fst = us.map Prod.fst ∧
      ∀ id ∉ us.map Prod.fst, s'.profiles.get? id = s.profiles.get? id := by
  obtain ⟨hinv, hends⟩ := hs
  induction h with
  | @here _ s id act next rest =>
    obtain ⟨hid, -⟩ := List.nodup_cons.mp hids
    obtain ⟨hfirst, hrest⟩ := List.forall_mem_cons.mp hends
    cases hfirst with
    | step keeps hnext =>
      obtain ⟨hkept, hothers⟩ := keeps s hinv rfl
      refine ⟨⟨hkept, List.forall_mem_cons.mpr ⟨hnext s hinv rfl, fun u hu => ?_⟩⟩, rfl, ?_⟩
      · rw [hothers u.1 fun heq => hid (heq ▸ List.mem_map_of_mem hu)]
        exact hrest u hu
      · exact fun other hother => hothers other fun heq => hother (heq ▸ List.mem_cons_self)
  | @later s s' u rest rest' _ ih =>
    obtain ⟨hid, hids⟩ := List.nodup_cons.mp hids
    obtain ⟨hfirst, hrest⟩ := List.forall_mem_cons.mp hends
    obtain ⟨⟨hinv', hends'⟩, hkept, hothers⟩ := ih hids hinv hrest
    refine ⟨⟨hinv', List.forall_mem_cons.mpr ⟨?_, hends'⟩⟩, ?_, fun other hother => ?_⟩
    · rw [hothers u.1 hid]
      exact hfirst
    · rw [List.map_cons, List.map_cons, hkept]
    · exact hothers other fun hmem => hother (List.mem_cons_of_mem _ hmem)

lemma heading_of_reachable {w w' : World} (h : ReflTransGen World.Step w w')
    (hids : (w.updates.map Prod.fst).Nodup) (hw : Heading inv final w.session w.updates) :
    Heading inv final w'.session w'.updates ∧
      w'.updates.map Prod.fst = w.updates.map Prod.fst ∧
      ∀ id ∉ w.updates.map Prod.fst,
        w'.session.profiles.get? id = w.session.profiles.get? id := by
  induction h with
  | refl => exact ⟨hw, rfl, fun _ _ => rfl⟩
  | tail _ hstep ih =>
    obtain ⟨hheading, hkept, hothers⟩ := ih
    obtain ⟨hheading', hkept', hothers'⟩ := hstep.heading (hkept ▸ hids) hheading
    refine ⟨hheading', hkept'.trans hkept, fun id hid => ?_⟩
    rw [hothers' id (hkept ▸ hid), hothers id hid]

lemma Heading.countP_writes {w : World} (h : Heading inv final w.session w.updates)
    (hfinished : w.Finished) :
    (w.writes.countP fun write => write.applied) =
      ((w.updates.map Prod.fst).map fun id => appliedWrites (final id).1).sum := by
  rw [World.writes, List.countP_flatMap, List.map_map]
  refine congrArg List.sum (List.map_congr_left fun u hu => ?_)
  obtain ⟨id, t⟩ := u
  obtain ⟨outcomes, rfl : t = _⟩ := hfinished _ hu
  obtain ⟨houtcomes, -⟩ := (h.ends _ hu).of_done
  exact (appliedWrites_eq outcomes).symm.trans (congrArg appliedWrites houtcomes)

lemma Heading.profile {w : World} (h : Heading inv final w.session w.updates)
    (hfinished : w.Finished) {id : EntityId} (hid : id ∈ w.updates.map Prod.fst) :
    w.session.profiles.get? id = (final id).2 := by
  obtain ⟨⟨id, t⟩, hu, rfl⟩ := List.mem_map.mp hid
  obtain ⟨outcomes, rfl : t = _⟩ := hfinished _ hu
  exact (h.ends _ hu).of_done.2

lemma updateAll_ends (setting : Setting) (systems : Systems) {order : List EntityId}
    (hids : order.Nodup) (hinv : inv s.cache)
    (hends : ∀ id ∈ order, Ends inv id (final id).1 (final id).2
      (Thread.updateProfile setting id systems) (s.profiles.get? id)) :
    let r := (updateAll setting systems order).run s
    r.1 = (order.map fun id => appliedWrites (final id).1).sum ∧
      (∀ id ∈ order, r.2.profiles.get? id = (final id).2) ∧
      ∀ id ∉ order, r.2.profiles.get? id = s.profiles.get? id := by
  induction order generalizing s with
  | nil => exact ⟨rfl, List.forall_mem_nil _, fun _ _ => rfl⟩
  | cons id rest ih =>
    obtain ⟨hid, hids⟩ := List.nodup_cons.mp hids
    obtain ⟨hfirst, hrest⟩ := List.forall_mem_cons.mp hends
    obtain ⟨hresult, hprofile, hkept, hothers⟩ := hfirst.alone s hinv rfl
    rw [Thread.alone_updateProfile] at hresult hprofile hkept hothers
    obtain ⟨hresults, hprofiles, hothers'⟩ := ih hids hkept fun other hother => by
      rw [hothers other fun heq => hid (heq ▸ hother)]
      exact hrest other hother
    refine ⟨?_, List.forall_mem_cons.mpr ⟨?_, hprofiles⟩, fun other hother => ?_⟩
    · rw [List.map_cons, List.sum_cons, ← hresult, ← hresults]
      rfl
    · exact (hothers' id hid).trans hprofile
    · obtain ⟨hne, hnot⟩ := not_or.mp (mt List.mem_cons.mpr hother)
      exact (hothers' other hnot).trans (hothers other hne)

end

section

lemma acc_cons (id : EntityId) (t : Thread (List (String × Outcome))) {rest : List Update}
    (h : Acc (fun us' us => ∃ s s', Advances s us s' us') rest) :
    Acc (fun us' us => ∃ s s', Advances s us s' us') ((id, t) :: rest) := by
  induction t generalizing rest with
  | done outcomes =>
    induction h with
    | intro rest _ ih =>
      constructor
      rintro us ⟨s, s', hstep⟩
      cases hstep with
      | later hrest => exact ih _ ⟨s, s', hrest⟩
  | step act next ihnext =>
    induction h with
    | intro rest hacc ih =>
      constructor
      rintro us ⟨s, s', hstep⟩
      cases hstep with
      | here => exact ihnext _ (Acc.intro rest hacc)
      | later hrest => exact ih _ ⟨s, s', hrest⟩

theorem World.step_wellFounded : WellFounded fun w' w : World => w.Step w' := by
  have hupdates : ∀ us, Acc (fun us' us => ∃ s s', Advances s us s' us') us := by
    intro us
    induction us with
    | nil =>
      constructor
      rintro us ⟨s, s', hstep⟩
      cases hstep
    | cons u rest ih => exact acc_cons u.1 u.2 ih
  have hwf := InvImage.wf World.updates ⟨hupdates⟩
  exact Subrelation.wf (fun hstep => ⟨_, _, hstep⟩) hwf

lemma Advances.of_mem {β : Type} {id : EntityId} {act : Run β}
    {next : β → Thread (List (String × Outcome))} {us : List Update} (s : Session)
    (h : (id, .step act next) ∈ us) : ∃ s' us', Advances s us s' us' := by
  induction us with
  | nil => cases h
  | cons u rest ih =>
    rcases List.mem_cons.mp h with rfl | h
    · exact ⟨_, _, .here⟩
    · obtain ⟨s', rest', hstep⟩ := ih h
      exact ⟨s', u :: rest', .later hstep⟩

lemma World.step_of_not_finished {w : World} (h : ¬w.Finished) : ∃ w', w.Step w' := by
  by_contra hstuck
  refine h fun u hu => ?_
  obtain ⟨id, t⟩ := u
  cases t with
  | done outcomes => exact ⟨outcomes, rfl⟩
  | step act next =>
    obtain ⟨s', us', hstep⟩ := Advances.of_mem w.session hu
    exact absurd ⟨⟨s', us'⟩, hstep⟩ hstuck

end

end DerivedStats.Pipeline
