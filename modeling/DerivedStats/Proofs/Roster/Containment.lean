import DerivedStats.Proofs.Roster.Records
import DerivedStats.Proofs.Roster.Steps

/-! What a storage that refuses loads, saves or its close does to a roster: it costs the profiles it
refuses, and nothing else. -/

namespace DerivedStats.Roster

open Attribute (Registry)
open Lifecycle (Step)
open Profile (Snapshot)

inductive Reached : Roster → Prop
  | new (storage : Storage) : Reached (empty storage)
  | step {r : Roster} (e : Event) : Reached r → Reached (r.step e)
  | init {r : Roster} : Reached r → Reached r.init.state
  | reload {r : Roster} (registry : Registry) : Reached r → Reached (r.reload registry)
  | storage {r : Roster} (storage : Storage) : Reached r → Reached { r with storage }

structure Filed (pending : Table EntityId (List Snapshot)) : Prop where
  keys : pending.keys.Nodup
  own : ∀ e ∈ pending, ∀ s ∈ e.2, s.id = e.1

namespace Filed

variable {pending : Table EntityId (List Snapshot)}

lemma nil : Filed [] := ⟨List.nodup_nil, fun _ he => absurd he List.not_mem_nil⟩

lemma erase (h : Filed pending) (id : EntityId) : Filed (pending.erase id) where
  keys := Table.nodup_keys_erase h.keys id
  own e he := h.own e (List.mem_filter.mp he).1

lemma put (h : Filed pending) {id : EntityId} {saves : List Snapshot}
    (hown : ∀ s ∈ saves, s.id = id) : Filed (pending.put id saves) where
  keys := Table.nodup_keys_put h.keys ..
  own e he := by
    obtain rfl | he := Table.mem_put he
    · exact hown
    · exact h.own e he

lemma of_get? (h : Filed pending) {id : EntityId} {saves : List Snapshot}
    (hget : pending.get? id = some saves) : ∀ s ∈ saves, s.id = id :=
  h.own (id, saves) (Table.mem_of_get? hget)

variable {r : Roster}

lemma queued (h : Filed r.pending) (id : EntityId) : ∀ s ∈ r.queued id, s.id = id := by
  rw [Roster.queued]
  cases hget : r.pending.get? id with
  | none => exact List.forall_mem_nil _
  | some saves => exact h.of_get? hget

lemma queue (h : Filed r.pending) (p : Profile) : Filed (r.queue p).pending := by
  apply h.put
  intro s hs
  obtain hs | hs := List.mem_append.mp hs
  · exact h.queued p.id s hs
  · rw [List.mem_singleton.mp hs]
    rfl

lemma loadOrCreate (h : Filed r.pending) (registry : Registry) (id : EntityId) (name : String) :
    Filed (r.loadOrCreate registry id name).2.pending := by
  rw [Roster.loadOrCreate]
  split
  · exact h
  · dsimp only
    split
    · exact h.erase id
    · exact h.erase id

lemma step (h : Filed r.pending) (e : Event) : Filed (r.step e).pending := by
  cases e with
  | loadOrCreate registry id name => exact h.loadOrCreate registry id name
  | edit id edit =>
    rw [Roster.step, Roster.edit]
    split <;> exact h
  | saveLater id =>
    rw [Roster.step, saveLater]
    split
    · exact h.queue _
    · exact h
  | saveNow id =>
    rw [Roster.step, saveNow_eq]
    cases r.get? id <;> exact h
  | unload id =>
    rw [Roster.step, unload]
    split
    · exact h
    · exact h.queue _
  | flush => exact nil
  | pendingSaves => exact h
  | shutdown => exact nil
  | lands id =>
    obtain hsame | ⟨s, rest, hget, hlanded⟩ := r.landOldest_cases id
    · rwa [Roster.step, hsame]
    · rw [Roster.step, hlanded]
      exact h.put fun t ht => h.of_get? hget t (List.mem_cons_of_mem s ht)
  | ends id =>
    obtain hsame | ⟨-, hended⟩ := r.endPending_cases id
    · rwa [Roster.step, hsame]
    · rw [Roster.step, hended]
      exact h.erase id

end Filed

lemma Reached.filed {r : Roster} (h : Reached r) : Filed r.pending := by
  induction h with
  | new storage => exact .nil
  | step e _ ih => exact ih.step e
  | @init r _ ih =>
    rw [Roster.init]
    cases r.storage.prepare <;> exact ih
  | reload registry _ ih => exact ih
  | storage storage _ ih => exact ih

lemma Reached.after {r : Roster} (h : Reached r) (events : List Event) :
    Reached (r.after events) := by
  induction events generalizing r with
  | nil => exact h
  | cons e events ih => exact ih (h.step e)

section Landing

variable {r : Roster} (h : Filed r.pending)

include h

lemma record?_flush (id : EntityId) :
    r.flush.storage.record? id =
      (lastSaved? (r.queued id) id).elim (r.storage.record? id) fun s =>
        r.storage.rewritten s (r.storage.record? id) := by
  change (land r.storage (r.pending.flatMap Prod.snd)).record? id = _
  rw [record?_land, lastSaved?_flatMap h.keys h.own]
  rfl

lemma record?_await (id other : EntityId) :
    (r.await id).storage.record? other =
      if other = id then r.flush.storage.record? id else r.storage.record? other := by
  change (land r.storage (r.queued id)).record? other = _
  rw [record?_land]
  split
  · next hid => rw [record?_flush h, hid]
  · next hid =>
    rw [lastSaved?_eq_none fun s hs => h.queued id s hs ▸ Ne.symm hid]
    rfl

lemma record?_flush_await (id other : EntityId) :
    (r.await id).flush.storage.record? other = r.flush.storage.record? other := by
  have hawait : Filed (r.await id).pending := h.erase id
  have hlike : Storage.Like r.storage (r.await id).storage := like_land _ _
  simp only [record?_flush hawait, record?_await h, hlike.rewritten]
  by_cases hid : other = id
  · subst hid
    have hnone : (r.await other).queued other = [] := by
      rw [queued, await, Table.get?_erase, if_pos rfl]
      rfl
    rw [hnone, if_pos rfl]
    rfl
  · have hsame : (r.await id).queued other = r.queued other := by
      rw [queued, await, Table.get?_erase, if_neg hid, queued]
    rw [hsame, if_neg hid, record?_flush h]

end Landing

lemma loadOrCreate_error {r : Roster} {registry : Registry} {id : EntityId} {name : String}
    {f : Failure} (h : (r.loadOrCreate registry id name).1 = .error f) :
    (r.loadOrCreate registry id name).2 = r.await id := by
  rw [loadOrCreate] at h ⊢
  split at h
  · cases h
  · dsimp only at h ⊢
    split at h
    · rfl
    · cases h

structure Shuffled (r r' : Roster) : Prop where
  profiles : r'.profiles.Perm r.profiles
  pending : r'.pending.Perm r.pending
  storage : r'.storage = r.storage

lemma Shuffled.record?_flush {r r' : Roster} (hs : Shuffled r r') (h : Filed r.pending)
    (id : EntityId) : r'.flush.storage.record? id = r.flush.storage.record? id := by
  have hkeys : r'.pending.keys.Nodup := (hs.pending.map Prod.fst).nodup_iff.mpr h.keys
  have h' : Filed r'.pending := ⟨hkeys, fun e he => h.own e (hs.pending.mem_iff.mp he)⟩
  have hqueued : r'.queued id = r.queued id := by
    rw [queued, queued, Table.get?_perm hs.pending hkeys]
  rw [Roster.record?_flush h', Roster.record?_flush h, hqueued, hs.storage]

lemma lastSaved?_append_cons {front back : List Snapshot} {s : Snapshot}
    (h : ∀ t ∈ back, t.id ≠ s.id) : lastSaved? (front ++ s :: back) s.id = some s := by
  rw [List.append_cons, lastSaved?_append, lastSaved?_eq_none h, Option.none_or,
    lastSaved?_concat, if_pos rfl]

/-- What a shutdown comes to for a storage that may refuse the save of each profile and its own
close. The profiles are saved in the order of the roster `r'`, after the saves that `r` has queued
have landed. -/
structure ShutDown (r r' : Roster) (step : Step Roster) : Prop where
  profiles : step.state.profiles = []
  pending : step.state.pending = []
  attempts : Attempts r'.flush.storage (r'.loaded.map fun p => (p, r.storage.refusal? p.snapshot))
    step.state.storage
  stored : ∀ front p back, r'.loaded = front ++ p :: back → r.storage.refusal? p.snapshot = none →
    (∀ q ∈ back, q.id ≠ p.id) →
      step.state.storage.record? p.id = some (r.storage.written p.snapshot)
  kept : ∀ p ∈ r'.loaded, r.storage.refusal? p.snapshot ≠ none →
    step.state.storage.record? p.id = r.flush.storage.record? p.id
  others : ∀ id, (∀ p ∈ r'.loaded, p.id ≠ id) →
    step.state.storage.record? id = r.flush.storage.record? id
  notices : step.notices =
    r'.loaded.filterMap fun p => (r.storage.refusal? p.snapshot).map (Notice.saveFailed p.id)
  close : ∀ f, r.storage.close? = some f → step.failure = some f
  success : r.storage.close? = none →
    (step.failure = none ↔ ∀ p ∈ r'.loaded, r.storage.refusal? p.snapshot = none)
  count : r.storage.close? = none → ∀ n,
    r'.loaded.countP (fun p => (r.storage.refusal? p.snapshot).isSome) = n → n ≠ 0 →
      step.failure = some (.storage s!"{n} profiles failed to save on shutdown")

section Shutdown

variable {r r' : Roster} (hs : Shuffled r r')

include hs

lemma Shuffled.like_flush : Storage.Like r.storage r'.flush.storage := by
  rw [← hs.storage]
  exact like_land _ _

lemma Shuffled.failure_shutdown :
    r'.shutdown.failure = shutdownFailure? r.storage
      (r'.loaded.countP fun p => (r.storage.refusal? p.snapshot).isSome) := by
  have hlike := hs.like_flush
  have hlanded : Storage.Like r.storage (saveAll r'.flush.storage r'.loaded).1 := by
    rw [saveAll_fst]
    exact hlike.trans (like_land _ _)
  change shutdownFailure? (saveAll r'.flush.storage r'.loaded).1
    (saveAll r'.flush.storage r'.loaded).2.length = _
  rw [(saveAll_attempts hlike r'.loaded).2, shutdownFailure?, shutdownFailure?, hlanded.close?,
    List.length_filterMap_eq_countP]
  simp only [Option.isSome_map]

lemma Shuffled.record?_shutdown (h : Filed r.pending) (id : EntityId) :
    r'.shutdown.state.storage.record? id =
      (lastSaved? (r'.loaded.map Profile.snapshot) id).elim (r.flush.storage.record? id) fun s =>
        r.storage.rewritten s (r.flush.storage.record? id) := by
  change (saveAll r'.flush.storage r'.loaded).1.record? id = _
  simp only [saveAll_fst, record?_land, hs.like_flush.rewritten, hs.record?_flush h]

lemma Shuffled.shutDown (h : Filed r.pending) : ShutDown r r' r'.shutdown where
  profiles := rfl
  pending := rfl
  attempts := (saveAll_attempts hs.like_flush r'.loaded).1
  stored front p back hloaded haccepted hlast := by
    have hsaved : lastSaved? (r'.loaded.map Profile.snapshot) p.id = some p.snapshot := by
      rw [hloaded, List.map_append, List.map_cons]
      refine lastSaved?_append_cons (s := p.snapshot) ?_
      exact List.forall_mem_map.mpr hlast
    rw [hs.record?_shutdown h, hsaved, Option.elim_some, Storage.rewritten, if_pos haccepted]
  kept p hp hrefused := by
    rw [hs.record?_shutdown h]
    cases hsaved : lastSaved? (r'.loaded.map Profile.snapshot) p.id with
    | none => rfl
    | some s =>
      -- whichever save of this identifier comes last, it is refused as well
      have hid : s.id = p.snapshot.id := id_of_lastSaved? hsaved
      rw [Option.elim_some, Storage.rewritten, Storage.refusal?_congr hid, if_neg hrefused]
  others id hnot := by
    have hnone : lastSaved? (r'.loaded.map Profile.snapshot) id = none :=
      lastSaved?_eq_none (List.forall_mem_map.mpr hnot)
    rw [hs.record?_shutdown h, hnone]
    rfl
  notices := (saveAll_attempts hs.like_flush r'.loaded).2
  close f hclose := by rw [hs.failure_shutdown, shutdownFailure?, hclose, Option.some_or]
  success hclose := by
    rw [hs.failure_shutdown, shutdownFailure?, hclose, Option.none_or]
    simp [List.countP_eq_zero]
  count hclose n hn hne := by
    rw [hs.failure_shutdown, shutdownFailure?, hclose, Option.none_or, hn, if_neg hne]

end Shutdown

/-- Loads, saves and the close of a storage may fail in any roster that is reached. A profile that
cannot be loaded leaves the loaded profiles as they were, and what is stored as it is once the
queued saves have landed. A shutdown, which may take the profiles and the queues in any order,
attempts each profile once, stores those that are not refused, leaves the others' records alone,
always empties the roster, and tells of its close or of the number of refused saves. -/
theorem storage_failures_contained {r : Roster} (h : Reached r) :
    (∀ registry id name f, (r.loadOrCreate registry id name).1 = .error f →
      let next := (r.loadOrCreate registry id name).2
      next.profiles = r.profiles ∧
      (∀ other, next.storage.record? other =
        if other = id then r.flush.storage.record? id else r.storage.record? other) ∧
      ∀ other, next.flush.storage.record? other = r.flush.storage.record? other) ∧
    ∀ r', Shuffled r r' → ShutDown r r' r'.shutdown := by
  refine ⟨fun registry id name f herror => ?_, fun r' hs => hs.shutDown h.filed⟩
  dsimp only
  rw [loadOrCreate_error herror]
  exact ⟨rfl, record?_await h.filed id, record?_flush_await h.filed id⟩

def guild : Roster :=
  (empty ⟨⟨[], [⟨3⟩], [⟨2⟩]⟩, .memory [(⟨2⟩, ⟨⟨2⟩, "Old", [], []⟩)] 0⟩).after
    [.loadOrCreate .unloaded ⟨1⟩ "A", .loadOrCreate .unloaded ⟨2⟩ "B", .saveLater ⟨1⟩,
      .edit ⟨1⟩ (.name "C")]

def turned : Roster := { guild with profiles := guild.profiles.reverse }

def barred : Roster := { guild with storage := ⟨⟨[.close], [], [⟨2⟩]⟩, guild.storage.backend⟩ }

lemma loaded_turned : turned.loaded = [.new ⟨2⟩ "B", .new ⟨1⟩ "C"] := rfl

lemma loadOrCreate_guild :
    (guild.loadOrCreate .unloaded ⟨3⟩ "D").1 = .error (Storage.refused .load) := rfl

lemma refusal?_guild :
    guild.storage.refusal? (Profile.new ⟨1⟩ "C").snapshot = none ∧
    guild.storage.refusal? (Profile.new ⟨2⟩ "B").snapshot = some (Storage.refused .save) :=
  ⟨rfl, rfl⟩

theorem storage_failures_contained_guild :
    Reached guild ∧ Shuffled guild turned ∧
    (guild.loadOrCreate .unloaded ⟨3⟩ "D").1 = .error (Storage.refused .load) ∧
    (guild.loadOrCreate .unloaded ⟨3⟩ "D").2.profiles = guild.profiles ∧
    turned.shutdown.state.profiles = [] ∧
    turned.shutdown.state.storage.record? ⟨1⟩ =
      some (.snapshot (Profile.new ⟨1⟩ "C").snapshot) ∧
    turned.shutdown.state.storage.record? ⟨2⟩ = guild.flush.storage.record? ⟨2⟩ ∧
    turned.shutdown.failure = some (.storage "1 profiles failed to save on shutdown") ∧
    barred.shutdown.failure = some (.storage "close refused") := by
  have hreached : Reached guild := (Reached.new _).after _
  have hshuffled : Shuffled guild turned := ⟨List.reverse_perm _, .refl _, rfl⟩
  obtain ⟨hloads, hshutdowns⟩ := storage_failures_contained hreached
  have hdone := hshutdowns turned hshuffled
  obtain ⟨haccepted, hrefused⟩ := refusal?_guild
  obtain ⟨hkept, -⟩ := hloads .unloaded ⟨3⟩ "D" _ loadOrCreate_guild
  have hstored := hdone.stored [.new ⟨2⟩ "B"] (.new ⟨1⟩ "C") [] loaded_turned haccepted
    (List.forall_mem_nil _)
  have hold := hdone.kept (.new ⟨2⟩ "B") (loaded_turned ▸ List.mem_cons_self)
    (hrefused ▸ Option.some_ne_none _)
  have hcount := hdone.count rfl 1 (by rw [loaded_turned]; rfl) Nat.one_ne_zero
  have hbarred := (storage_failures_contained (.storage _ hreached)).2 barred
    ⟨.refl _, .refl _, rfl⟩
  exact ⟨hreached, hshuffled, loadOrCreate_guild, hkept, hdone.profiles, hstored, hold, hcount,
    hbarred.close _ rfl⟩

end DerivedStats.Roster
