import DerivedStats.Proofs.Roster.Steps

/-! No update of a profile is lost while it goes out of the roster and comes back, whenever the
queued saves land. -/

namespace DerivedStats.Roster

open Attribute (Registry)
open Profile (Snapshot)

lemma loadOrCreate_of_settled {r : Roster} {id : EntityId} {stored : Option Snapshot}
    (hnone : r.get? id = none) (hread : r.settled id = .ok stored) (registry : Registry)
    (name : String) :
    let p := ((restored id name stored).setName name).applyDefaults registry
    (r.loadOrCreate registry id name).1 = .ok p ∧
      (r.loadOrCreate registry id name).2.get? id = some p := by
  intro p
  change (r.await id).storage.load id = .ok stored at hread
  simp only [loadOrCreate, hnone, hread]
  refine ⟨rfl, ?_⟩
  rw [get?, Table.get?_put, if_pos rfl]

lemma Tidy.id_of_departure {r : Roster} (h : r.Tidy) {id : EntityId} {e : Event} {s : Snapshot}
    (hs : r.departure? id e = some s) : s.id = id := by
  have hloaded : (r.get? id).map Profile.snapshot = some s := by
    cases e with
    | unload other =>
      rw [departure?] at hs
      split at hs
      · exact hs
      · cases hs
    | shutdown => exact hs
    | _ => cases hs
  obtain ⟨p, hp, rfl⟩ := Option.map_eq_some_iff.mp hloaded
  exact h.id_eq hp

/-- After the events storage will hold of every profile that is not loaded the snapshot it last
left with, else what the first storage holds. Every profile that was loaded is still loaded or has
left. -/
structure Sound (storage : Storage) (events : List Event) : Prop where
  tidy : ((empty storage).after events).Tidy
  keeps : ∀ s, ((empty storage).after events).storage.Keeps s ↔ storage.Keeps s
  settled : ∀ id o, storage.load id = .ok o → ((empty storage).after events).get? id = none →
    ((empty storage).after events).settled id =
      .ok (((empty storage).lastDeparture? id events).or o)
  left : ∀ id s, (empty storage).lastDeparture? id events = some s → s.id = id
  accounted : ∀ registry id name, .loadOrCreate registry id name ∈ events →
    ((empty storage).after events).get? id = none →
      ((empty storage).lastDeparture? id events).isSome

namespace Sound

variable {storage : Storage} {events : List Event}

lemma nil (storage : Storage) : Sound storage [] where
  tidy := .empty storage
  keeps _ := Iff.rfl
  settled _ _ h _ := h
  left _ _ h := by cases h
  accounted _ _ _ h := absurd h List.not_mem_nil

lemma concat (h : Sound storage events) {e : Event}
    (hstored : ∀ registry id name, e = .loadOrCreate registry id name →
      ∃ o, storage.load id = .ok o ∧ ∀ s ∈ o, s.id = id)
    (hkept : ∀ s ∈ ((empty storage).after events).taken e, storage.Keeps s) :
    Sound storage (events ++ [e]) := by
  have hread : ∀ registry id name, e = .loadOrCreate registry id name →
      ((empty storage).after events).get? id = none →
        ∀ s, ((empty storage).after events).settled id = .ok (some s) → s.id = id := by
    intro registry id name he hnone s hs
    obtain ⟨o, ho, hid⟩ := hstored registry id name he
    rw [h.settled id o ho hnone] at hs
    obtain hleft | ⟨-, rfl⟩ := Option.or_eq_some_iff.mp (Except.ok.inj hs)
    · exact h.left id s hleft
    · exact hid s rfl
  have hstep := stepped h.tidy e (fun s hs => (h.keeps s).mpr (hkept s hs)) hread
  rw [← after_concat] at hstep
  refine ⟨hstep.tidy, fun s => (hstep.keeps s).trans (h.keeps s), fun id o ho hnone => ?_,
    fun id s hs => ?_, fun registry id name hmem hnone => ?_⟩
  · rw [hstep.settled id hnone, lastDeparture?_concat]
    -- a profile that neither is loaded nor leaves now was not loaded before either
    cases hleft : ((empty storage).after events).departure? id e with
    | some s => rfl
    | none => exact h.settled id o ho (hstep.loaded id hnone hleft)
  · rw [lastDeparture?_concat] at hs
    obtain hleft | ⟨-, hbefore⟩ := Option.or_eq_some_iff.mp hs
    · exact h.tidy.id_of_departure hleft
    · exact h.left id s hbefore
  · rw [lastDeparture?_concat]
    cases hleft : ((empty storage).after events).departure? id e with
    | some s => rfl
    | none =>
      have hbefore := hstep.loaded id hnone hleft
      obtain hmem | hmem := List.mem_append.mp hmem
      · exact h.accounted registry id name hmem hbefore
      · -- a profile that has just been loaded is loaded
        obtain rfl := List.mem_singleton.mp hmem
        obtain ⟨o, ho, -⟩ := hstored registry id name rfl
        have hread := h.settled id o ho hbefore
        have hloaded := (loadOrCreate_of_settled hbefore hread registry name).2
        rw [after_concat] at hnone
        change (Roster.loadOrCreate _ _ _ _).2.get? id = none at hnone
        rw [hloaded] at hnone
        cases hnone

lemma of_run
    (hstored : ∀ registry id name, .loadOrCreate registry id name ∈ events →
      ∃ o, storage.load id = .ok o ∧ ∀ s ∈ o, s.id = id)
    (hkept : ∀ s ∈ (empty storage).takenAll events, storage.Keeps s) : Sound storage events := by
  induction events using List.reverseRecOn with
  | nil => exact nil storage
  | append_singleton events e ih =>
    rw [takenAll_append, takenAll, takenAll, List.append_nil, List.forall_mem_append] at hkept
    have hbefore := ih
      (fun registry id name hmem => hstored registry id name (List.mem_append_left _ hmem)) hkept.1
    refine hbefore.concat (fun registry id name he => ?_) hkept.2
    exact hstored registry id name (List.mem_append_right _ (he ▸ List.mem_singleton_self e))

lemma meanwhile {front : List Event} (hfront : front <+: events)
    (hstored : ∀ registry id name, .loadOrCreate registry id name ∈ events →
      ∃ o, storage.load id = .ok o ∧ ∀ s ∈ o, s.id = id)
    (hkept : ∀ s ∈ (empty storage).takenAll events, storage.Keeps s) : Sound storage front := by
  obtain ⟨rest, rfl⟩ := hfront
  rw [takenAll_append, List.forall_mem_append] at hkept
  exact of_run (fun registry id name hmem =>
    hstored registry id name (List.mem_append_left _ hmem)) hkept.1

end Sound

/-- What is due when a profile is read after the events: the snapshot with which it last left, or,
if it was never loaded, what the first storage holds of it. -/
inductive Due (storage : Storage) (events : List Event) (id : EntityId) : Option Snapshot → Prop
  | left {s : Snapshot} (hleft : (empty storage).lastDeparture? id events = some s) :
    Due storage events id (some s)
  | first {o : Option Snapshot} (hnever : ∀ registry name, .loadOrCreate registry id name ∉ events)
    (hload : storage.load id = .ok o) : Due storage events id o

lemma Sound.due {storage : Storage} {events : List Event} (h : Sound storage events) {id : EntityId}
    (hnone : ((empty storage).after events).get? id = none) {o : Option Snapshot}
    (ho : storage.load id = .ok o) :
    Due storage events id (((empty storage).lastDeparture? id events).or o) := by
  cases hleft : (empty storage).lastDeparture? id events with
  | some s => exact .left hleft
  | none =>
    refine .first (fun registry name hmem => ?_) ho
    have hdeparted := h.accounted registry id name hmem hnone
    rw [hleft] at hdeparted
    cases hdeparted

/-- In a run of calls and landings over a storage that keeps what it is given, and in which what is
stored at first stands under its own identifier, every profile that is read from storage is read as
it is due; and a shutdown leaves nothing loaded or pending, and in storage every profile that was
ever loaded as it last left. -/
theorem no_update_lost (storage : Storage) (events : List Event)
    (hstored : ∀ registry id name, .loadOrCreate registry id name ∈ events →
      ∃ o, storage.load id = .ok o ∧ ∀ s ∈ o, s.id = id)
    (hkept : ∀ s ∈ (empty storage).takenAll events, storage.Keeps s) :
    (∀ front registry id name, front ++ [.loadOrCreate registry id name] <+: events →
      let r := (empty storage).after front
      r.get? id = none →
        ∃ stored, Due storage front id stored ∧ (r.await id).storage.load id = .ok stored ∧
          (r.loadOrCreate registry id name).1 =
            .ok (((stored.elim (.new id name) Profile.restore).setName name).applyDefaults
              registry)) ∧
    ∀ front, front ++ [.shutdown] <+: events →
      let r := (empty storage).after (front ++ [.shutdown])
      r.profiles = [] ∧ r.pending = [] ∧
        ∀ registry id name, .loadOrCreate registry id name ∈ front →
          ∃ s, (empty storage).lastDeparture? id (front ++ [.shutdown]) = some s ∧
            r.storage.load id = .ok (some s) := by
  constructor
  · intro front registry id name hfront r hnone
    have hsound : Sound storage front :=
      .meanwhile ((List.prefix_append _ _).trans hfront) hstored hkept
    obtain ⟨o, ho, -⟩ := hstored registry id name (hfront.subset (by simp))
    have hread := hsound.settled id o ho hnone
    exact ⟨_, hsound.due hnone ho, hread, (loadOrCreate_of_settled hnone hread registry name).1⟩
  · intro front hfront r
    have hsound : Sound storage (front ++ [.shutdown]) := .meanwhile hfront hstored hkept
    have hclosed : ∃ st, r = empty st := ⟨_, after_concat _ front .shutdown⟩
    obtain ⟨st, hst⟩ := hclosed
    refine ⟨by rw [hst]; rfl, by rw [hst]; rfl, fun registry id name hmem => ?_⟩
    have hmem' : .loadOrCreate registry id name ∈ front ++ [.shutdown] :=
      List.mem_append_left _ hmem
    obtain ⟨o, ho, -⟩ := hstored registry id name (hfront.subset hmem')
    have hnone : r.get? id = none := by rw [hst]; rfl
    obtain ⟨s, hs⟩ := Option.isSome_iff_exists.mp (hsound.accounted registry id name hmem' hnone)
    have hread : r.settled id = _ := hsound.settled id o ho hnone
    rw [hs, hst] at hread
    exact ⟨s, hs, hst ▸ hread⟩

theorem no_update_lost_overtaken :
    let storage : Storage := ⟨⟨[], [], []⟩, .memory [] 0⟩
    let front : List Event :=
      [.loadOrCreate .unloaded ⟨1⟩ "A", .edit ⟨1⟩ (.stat .unloaded "gold" 1), .saveLater ⟨1⟩,
        .edit ⟨1⟩ (.stat .unloaded "gold" 2), .saveNow ⟨1⟩, .lands ⟨1⟩,
        .edit ⟨1⟩ (.stat .unloaded "gold" 3), .unload ⟨1⟩]
    let events := front ++ [.loadOrCreate .unloaded ⟨1⟩ "B", .shutdown]
    let r := (empty storage).after front
    (∀ registry id name, .loadOrCreate registry id name ∈ events →
      ∃ o, storage.load id = .ok o ∧ ∀ s ∈ o, s.id = id) ∧
    (∀ s ∈ (empty storage).takenAll events, storage.Keeps s) ∧
    r.get? ⟨1⟩ = none ∧
    (∃ stored, Due storage front ⟨1⟩ stored ∧ (r.await ⟨1⟩).storage.load ⟨1⟩ = .ok stored ∧
      stored.map Snapshot.stats = some [("gold", 3)]) ∧
    (∃ p, (r.loadOrCreate .unloaded ⟨1⟩ "B").1 = .ok p ∧ p.name = "B" ∧
      p.stats.get? "gold" = some 3) ∧
    ∃ s, (empty storage).lastDeparture? ⟨1⟩ events = some s ∧
      ((empty storage).after events).storage.load ⟨1⟩ = .ok (some s) ∧
      s.stats = [("gold", 3)] := by
  intro storage front events r
  have hstored : ∀ registry id name, .loadOrCreate registry id name ∈ events →
      ∃ o, storage.load id = .ok o ∧ ∀ s ∈ o, s.id = id :=
    fun _ _ _ _ => ⟨none, rfl, fun _ h => by cases h⟩
  have hkept : ∀ s ∈ (empty storage).takenAll events, storage.Keeps s :=
    fun s _ => Storage.keeps_memory [] 0 s
  have hgone : r.get? ⟨1⟩ = none := Option.isNone_iff_eq_none.mp (by decide +kernel)
  obtain ⟨hreads, hshutdowns⟩ := no_update_lost storage events hstored hkept
  obtain ⟨stored, hdue, hread, hloaded⟩ :=
    hreads front .unloaded ⟨1⟩ "B" ⟨[.shutdown], rfl⟩ hgone
  obtain ⟨-, -, hsaved⟩ := hshutdowns (front ++ [.loadOrCreate .unloaded ⟨1⟩ "B"])
    (List.prefix_refl _)
  obtain ⟨last, hlast, hkeeps⟩ := hsaved .unloaded ⟨1⟩ "A" List.mem_cons_self
  have hdueGold : stored.map Snapshot.stats = some [("gold", 3)] := by
    have hleft : ((empty storage).lastDeparture? ⟨1⟩ front).map Snapshot.stats =
        some [("gold", 3)] := by decide +kernel
    cases hdue with
    | left h => exact (congrArg (Option.map Snapshot.stats) h).symm.trans hleft
    | first hnever _ => exact absurd List.mem_cons_self (hnever .unloaded "A")
  have hlastGold : last.stats = [("gold", 3)] := by
    have hleft : ((empty storage).lastDeparture? ⟨1⟩ events).map Snapshot.stats =
        some [("gold", 3)] := by decide +kernel
    exact Option.some.inj ((congrArg (Option.map Snapshot.stats) hlast).symm.trans hleft)
  refine ⟨hstored, hkept, hgone, ⟨stored, hdue, hread, hdueGold⟩, ⟨_, hloaded, rfl, ?_⟩,
    last, hlast, hkeeps, hlastGold⟩
  obtain ⟨s, rfl, hs⟩ := Option.map_eq_some_iff.mp hdueGold
  have hkey : Attribute.canonicalKey "gold" = "gold" := by decide +kernel
  change (Profile.restore s).stats.get? "gold" = some 3
  simp only [Profile.restore, hs, List.map_singleton, hkey]
  rfl

/-- A file that holds a profile with another identifier is read again as it was, although the
profile has been changed and unloaded: its save went to the other identifier. -/
theorem misfiled_profile_read_stale :
    let stored : Snapshot := ⟨⟨2⟩, "Old", [], []⟩
    let storage : Storage := ⟨⟨[], [], []⟩, .files (some [(⟨1⟩, stored.text)])⟩
    let front : List Event := [.loadOrCreate .unloaded ⟨1⟩ "New", .unload ⟨1⟩]
    let r := (empty storage).after front
    r.get? ⟨1⟩ = none ∧
      ((empty storage).lastDeparture? ⟨1⟩ front).map Snapshot.name = some "New" ∧
      ∃ s, (r.await ⟨1⟩).storage.load ⟨1⟩ = .ok (some s) ∧ s.name = "Old" := by
  intro stored storage front r
  have hgone : r.get? ⟨1⟩ = none := Option.isNone_iff_eq_none.mp (by decide +kernel)
  have hleft : ((empty storage).lastDeparture? ⟨1⟩ front).map Snapshot.name = some "New" := by
    decide +kernel
  have hname : ((r.await ⟨1⟩).storage.load ⟨1⟩).toOption.join.map Snapshot.name = some "Old" := by
    decide +kernel
  refine ⟨hgone, hleft, ?_⟩
  cases hload : (r.await ⟨1⟩).storage.load ⟨1⟩ with
  | error f =>
    rw [hload] at hname
    cases hname
  | ok found =>
    rw [hload] at hname
    obtain ⟨s, rfl, hs⟩ := Option.map_eq_some_iff.mp hname
    exact ⟨s, rfl, hs⟩

end DerivedStats.Roster
