import DerivedStats.Proofs.Roster.Schedule
import DerivedStats.Proofs.Roster.Storing

/-! What storage holds of a profile once its queued saves have landed. When they land does not
matter to it, and calls that take no snapshot of the profile leave it as it is. -/

namespace DerivedStats.Roster

open Profile (Snapshot)

lemma lastSaved?_append (saves more : List Snapshot) (id : EntityId) :
    lastSaved? (saves ++ more) id = (lastSaved? more id).or (lastSaved? saves id) := by
  rw [lastSaved?, List.reverse_append, List.find?_append]
  rfl

lemma lastSaved?_eq_none {saves : List Snapshot} {id : EntityId} (h : ∀ s ∈ saves, s.id ≠ id) :
    lastSaved? saves id = none := by
  refine List.find?_eq_none.mpr fun s hs => ?_
  simpa using h s (List.mem_reverse.mp hs)

lemma lastSaved?_flatMap {t : Table EntityId (List Snapshot)} (hkeys : t.keys.Nodup)
    (hown : ∀ e ∈ t, ∀ s ∈ e.2, s.id = e.1) (id : EntityId) :
    lastSaved? (t.flatMap Prod.snd) id = lastSaved? ((t.get? id).getD []) id := by
  induction t with
  | nil => rfl
  | cons e t ih =>
    obtain ⟨hnew, hrest⟩ := List.nodup_cons.mp hkeys
    obtain ⟨hfirst, hown⟩ := List.forall_mem_cons.mp hown
    rw [List.flatMap_cons, lastSaved?_append, ih hrest hown, Table.get?_cons]
    split
    · next hid =>
      rw [hid, Table.get?_eq_none_of_not_mem hnew]
      rfl
    · next hid =>
      have hnone : lastSaved? e.2 id = none :=
        lastSaved?_eq_none fun s hs => hfirst s hs ▸ Ne.symm hid
      rw [hnone, Option.or_none]

def queued (r : Roster) (id : EntityId) : List Snapshot := (r.pending.get? id).getD []

def settled (r : Roster) (id : EntityId) : Except Failure (Option Snapshot) :=
  (r.await id).storage.load id

/-- Profiles and queued snapshots stand under their own identifiers, each once, and the storage
keeps what is queued. -/
structure Tidy (r : Roster) : Prop where
  own : ∀ e ∈ r.profiles, e.2.id = e.1
  profiles : r.profiles.keys.Nodup
  pending : r.pending.keys.Nodup
  queue : ∀ e ∈ r.pending, ∀ s ∈ e.2, s.id = e.1 ∧ r.storage.Keeps s

namespace Tidy

variable {r : Roster}

lemma empty (storage : Storage) : Tidy (Roster.empty storage) where
  own _ he := absurd he List.not_mem_nil
  profiles := List.nodup_nil
  pending := List.nodup_nil
  queue _ he := absurd he List.not_mem_nil

lemma of_mem_queued (h : r.Tidy) {id : EntityId} {s : Snapshot} (hs : s ∈ r.queued id) :
    s.id = id ∧ r.storage.Keeps s := by
  rw [queued] at hs
  cases hget : r.pending.get? id with
  | none =>
    rw [hget] at hs
    cases hs
  | some q =>
    rw [hget] at hs
    exact h.queue (id, q) (Table.mem_of_get? hget) s hs

lemma settled_eq (h : r.Tidy) (id : EntityId) :
    r.settled id =
      (lastSaved? (r.queued id) id).elim (r.storage.load id) fun s => .ok (some s) :=
  load_land (fun _ hs => (h.of_mem_queued hs).2) id

lemma settled_congr {r' : Roster} (h : r.Tidy) (h' : r'.Tidy) {id : EntityId}
    (hqueued : r'.queued id = r.queued id) (hload : r'.storage.load id = r.storage.load id) :
    r'.settled id = r.settled id := by
  rw [h.settled_eq, h'.settled_eq, hqueued, hload]

lemma load_land_queued (h : r.Tidy) {id other : EntityId} (hother : other ≠ id) :
    (land r.storage (r.queued id)).load other = r.storage.load other := by
  rw [load_land fun s hs => (h.of_mem_queued hs).2,
    lastSaved?_eq_none fun s hs => (h.of_mem_queued hs).1 ▸ hother.symm]
  rfl

section Await

variable (h : r.Tidy) (id : EntityId)

include h

lemma await : (r.await id).Tidy where
  own := h.own
  profiles := h.profiles
  pending := Table.nodup_keys_erase h.pending id
  queue e he s hs := by
    obtain ⟨hid, hkept⟩ := h.queue e (List.mem_filter.mp he).1 s hs
    exact ⟨hid, (keeps_land _ _ s).mpr hkept⟩

lemma settled_await (other : EntityId) : (r.await id).settled other = r.settled other := by
  by_cases hother : other = id
  · subst hother
    have hnone : (r.await other).queued other = [] := by
      rw [queued, Roster.await, Table.get?_erase, if_pos rfl]
      rfl
    rw [(h.await other).settled_eq, hnone]
    rfl
  · refine h.settled_congr (h.await id) ?_ (h.load_land_queued hother)
    rw [queued, Roster.await, Table.get?_erase, if_neg hother, queued]

end Await

section Queue

variable (h : r.Tidy) {p : Profile} (hkept : r.storage.Keeps p.snapshot)

include h hkept

lemma queue_profile : (r.queue p).Tidy where
  own := h.own
  profiles := h.profiles
  pending := Table.nodup_keys_put h.pending ..
  queue e he s hs := by
    obtain rfl | he := Table.mem_put he
    · obtain hs | hs := List.mem_append.mp hs
      · exact h.of_mem_queued hs
      · obtain rfl := List.mem_singleton.mp hs
        exact ⟨rfl, hkept⟩
    · exact h.queue e he s hs

lemma settled_queue (id : EntityId) :
    (r.queue p).settled id = if id = p.id then .ok (some p.snapshot) else r.settled id := by
  split
  · next hid =>
    have hqueued : (r.queue p).queued p.id = r.queued p.id ++ [p.snapshot] := by
      rw [queued, Roster.queue, Table.get?_put, if_pos rfl]
      rfl
    have hown : p.id = p.snapshot.id := rfl
    rw [hid, (h.queue_profile hkept).settled_eq, hqueued, lastSaved?_concat, if_pos hown]
    rfl
  · next hid =>
    refine h.settled_congr (h.queue_profile hkept) ?_ rfl
    rw [queued, Roster.queue, Table.get?_put, if_neg hid, queued]

end Queue

lemma flush (h : r.Tidy) : r.flush.Tidy where
  own := h.own
  profiles := h.profiles
  pending := List.nodup_nil
  queue _ he := absurd he List.not_mem_nil

lemma settled_flush (h : r.Tidy) (id : EntityId) : r.flush.settled id = r.settled id := by
  have hkept : ∀ s ∈ r.pending.flatMap Prod.snd, r.storage.Keeps s := by
    intro s hs
    obtain ⟨e, he, hs⟩ := List.mem_flatMap.mp hs
    exact (h.queue e he s hs).2
  -- all queues land, one after the other, and only the one of this profile is seen
  change (land r.storage (r.pending.flatMap Prod.snd)).load id = _
  rw [load_land hkept, lastSaved?_flatMap h.pending (fun e he s hs => (h.queue e he s hs).1),
    h.settled_eq]
  rfl

lemma landOne (h : r.Tidy) (s : Snapshot) : Tidy { r with storage := landOne r.storage s } where
  own := h.own
  profiles := h.profiles
  pending := h.pending
  queue e he t ht := by
    obtain ⟨hid, hkept⟩ := h.queue e he t ht
    exact ⟨hid, (keeps_landOne r.storage s t).mpr hkept⟩

lemma settled_landOne (h : r.Tidy) {s : Snapshot} (hkept : r.storage.Keeps s) {id : EntityId}
    (hid : id ≠ s.id) :
    Roster.settled { r with storage := Roster.landOne r.storage s } id = r.settled id := by
  refine h.settled_congr (h.landOne s) rfl ?_
  change (Roster.landOne r.storage s).load id = _
  rw [load_landOne hkept, if_neg hid]

section Landing

variable (h : r.Tidy) (id : EntityId)

include h

lemma landOldest : (r.landOldest id).Tidy := by
  obtain hsame | ⟨s, rest, hget, heq⟩ := r.landOldest_cases id
  · rwa [hsame]
  · rw [heq]
    have hlanded := h.landOne s
    refine ⟨h.own, h.profiles, Table.nodup_keys_put h.pending .., fun e he t ht => ?_⟩
    obtain rfl | he := Table.mem_put he
    · exact hlanded.queue (id, s :: rest) (Table.mem_of_get? hget) t (List.mem_cons_of_mem _ ht)
    · exact hlanded.queue e he t ht

lemma settled_landOldest (other : EntityId) :
    (r.landOldest id).settled other = r.settled other := by
  obtain hsame | ⟨s, rest, hget, heq⟩ := r.landOldest_cases id
  · rw [hsame]
  · by_cases hother : other = id
    · subst hother
      -- landing the rest afterwards is landing all
      rw [heq, settled, settled, Roster.await, Roster.await, hget, Table.get?_put, if_pos rfl]
      rfl
    · obtain ⟨hid, hkept⟩ := h.queue (id, s :: rest) (Table.mem_of_get? hget) s List.mem_cons_self
      refine h.settled_congr (h.landOldest id) ?_ ?_
      · rw [heq, queued, Table.get?_put, if_neg hother, queued]
      · rw [heq]
        exact (load_landOne hkept other).trans (if_neg (hid ▸ hother))

lemma endPending : (r.endPending id).Tidy := by
  obtain hsame | ⟨-, heq⟩ := r.endPending_cases id
  · rwa [hsame]
  · rw [heq]
    exact ⟨h.own, h.profiles, Table.nodup_keys_erase h.pending id,
      fun e he => h.queue e (List.mem_filter.mp he).1⟩

lemma settled_endPending (other : EntityId) :
    (r.endPending id).settled other = r.settled other := by
  obtain hsame | ⟨hget, heq⟩ := r.endPending_cases id
  · rw [hsame]
  · refine h.settled_congr (h.endPending id) ?_ (by rw [heq])
    rw [heq, queued, queued, Table.get?_erase]
    split
    · next hother =>
      rw [hother, hget]
      rfl
    · rfl

end Landing

end Tidy

end DerivedStats.Roster
