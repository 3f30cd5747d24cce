import DerivedStats.Proofs.Roster.Settled

/-! What each call and each landing does to the profiles that are not loaded. -/

namespace DerivedStats.Roster

open Attribute (Registry)
open Profile (Edit Snapshot)

structure Stepped (r : Roster) (departed : EntityId → Option Snapshot) (next : Roster) : Prop where
  tidy : next.Tidy
  keeps : ∀ s, next.storage.Keeps s ↔ r.storage.Keeps s
  loaded : ∀ id, next.get? id = none → departed id = none → r.get? id = none
  settled : ∀ id, next.get? id = none →
    next.settled id = (departed id).elim (r.settled id) fun s => .ok (some s)

section

variable {r : Roster}

lemma stepped_refl (h : r.Tidy) : Stepped r (fun _ => none) r :=
  ⟨h, fun _ => Iff.rfl, fun _ hnone _ => hnone, fun _ _ => rfl⟩

lemma Stepped.trans {mid next : Roster} {departed : EntityId → Option Snapshot}
    (h : Stepped r (fun _ => none) mid) (h' : Stepped mid departed next) :
    Stepped r departed next where
  tidy := h'.tidy
  keeps s := (h'.keeps s).trans (h.keeps s)
  loaded id hnone hstays := h.loaded id (h'.loaded id hnone hstays) rfl
  settled id hnone := by
    rw [h'.settled id hnone]
    cases hleft : departed id with
    | some s => rfl
    | none => exact h.settled id (h'.loaded id hnone hleft)

lemma Tidy.id_eq (h : r.Tidy) {id : EntityId} {p : Profile} (hp : r.get? id = some p) :
    p.id = id :=
  h.own (id, p) (Table.mem_of_get? hp)

lemma Tidy.ne_id (h : r.Tidy) {id other : EntityId} {p : Profile} (hp : r.get? id = some p)
    (hother : r.get? other = none) : other ≠ p.id := by
  rintro rfl
  rw [h.id_eq hp, hp] at hother
  cases hother

lemma stepped_put (h : r.Tidy) {id : EntityId} {p : Profile} (hp : p.id = id) :
    Stepped r (fun _ => none) { r with profiles := r.profiles.put id p } where
  tidy := by
    refine ⟨fun e he => ?_, Table.nodup_keys_put h.profiles id p, h.pending, h.queue⟩
    obtain rfl | he := Table.mem_put he
    · exact hp
    · exact h.own e he
  keeps _ := Iff.rfl
  loaded other hother _ := by
    change (r.profiles.put id p).get? other = none at hother
    rw [Table.get?_put] at hother
    split at hother
    · cases hother
    · exact hother
  settled _ _ := rfl

lemma stepped_await (h : r.Tidy) (id : EntityId) : Stepped r (fun _ => none) (r.await id) :=
  ⟨h.await id, keeps_land _ _, fun _ hother _ => hother, fun other _ => h.settled_await id other⟩

lemma restored_id {id : EntityId} {name : String} {stored : Option Snapshot}
    (h : ∀ s ∈ stored, s.id = id) : (restored id name stored).id = id := by
  cases stored with
  | none => rfl
  | some s => exact h s rfl

lemma stepped_loadOrCreate (h : r.Tidy) (registry : Registry) {id : EntityId} (name : String)
    (hread : r.get? id = none → ∀ s, r.settled id = .ok (some s) → s.id = id) :
    Stepped r (fun _ => none) (r.loadOrCreate registry id name).2 := by
  rw [loadOrCreate]
  split
  · next p hp =>
    have hid := h.id_eq hp
    exact stepped_put h hid
  · next hnone =>
    dsimp only
    split
    · exact stepped_await h id
    · next stored hload =>
      have hid : ∀ s ∈ stored, s.id = id := by
        rintro s rfl
        exact hread hnone s hload
      exact (stepped_await h id).trans (stepped_put (h.await id) (restored_id hid))

lemma stepped_edit (h : r.Tidy) (id : EntityId) (edit : Edit) :
    Stepped r (fun _ => none) (r.edit id edit) := by
  rw [Roster.edit]
  split
  · next p hp => exact stepped_put h ((p.edited_id edit).trans (h.id_eq hp))
  · exact stepped_refl h

lemma stepped_saveLater (h : r.Tidy) (id : EntityId)
    (hkept : ∀ s ∈ r.taken (.saveLater id), r.storage.Keeps s) :
    Stepped r (fun _ => none) (r.saveLater id).2 := by
  rw [saveLater]
  split
  · next p hp =>
    have hp' : r.storage.Keeps p.snapshot := hkept _ (by simp [taken, hp])
    refine ⟨h.queue_profile hp', fun _ => Iff.rfl, fun _ hother _ => hother, fun other hother => ?_⟩
    rw [h.settled_queue hp', if_neg (h.ne_id hp hother)]
    rfl
  · exact stepped_refl h

lemma saveNow_eq (r : Roster) (id : EntityId) :
    (r.saveNow id).toOption.getD r =
      (r.get? id).elim r fun p => { r with storage := landOne r.storage p.snapshot } := by
  rw [saveNow]
  cases r.get? id with
  | none => rfl
  | some p =>
    rw [Option.elim_some, landOne]
    dsimp only
    cases r.storage.save p.snapshot with
    | ok st => rfl
    | error f => rfl

lemma stepped_saveNow (h : r.Tidy) (id : EntityId)
    (hkept : ∀ s ∈ r.taken (.saveNow id), r.storage.Keeps s) :
    Stepped r (fun _ => none) ((r.saveNow id).toOption.getD r) := by
  rw [saveNow_eq]
  cases hp : r.get? id with
  | none => exact stepped_refl h
  | some p =>
    have hp' : r.storage.Keeps p.snapshot := hkept _ (by simp [taken, hp])
    refine ⟨h.landOne p.snapshot, keeps_landOne _ _, fun _ hother _ => hother,
      fun other hother => ?_⟩
    exact h.settled_landOne hp' (h.ne_id hp hother)

lemma stepped_unload (h : r.Tidy) (id : EntityId)
    (hkept : ∀ s ∈ r.taken (.unload id), r.storage.Keeps s) :
    Stepped r (r.departure? · (.unload id)) (r.unload id).2 := by
  rw [unload]
  split
  · next hnone =>
    refine ⟨h, fun _ => Iff.rfl, fun _ hother _ => hother, fun other _ => ?_⟩
    rw [departure?]
    split
    · next hother =>
      rw [hother, hnone]
      rfl
    · rfl
  · next p hp =>
    have hp' : r.storage.Keeps p.snapshot := hkept _ (by simp [taken, hp])
    have hqueued := h.queue_profile hp'
    have hleft : ∀ other, r.departure? other (.unload id) =
        if other = id then some p.snapshot else none := by
      intro other
      rw [departure?]
      split
      · next hother =>
        rw [hother, hp]
        rfl
      · rfl
    refine ⟨⟨fun e he => h.own e (List.mem_filter.mp he).1, Table.nodup_keys_erase h.profiles id,
      hqueued.pending, hqueued.queue⟩, fun _ => Iff.rfl, fun other hother hstays => ?_,
      fun other _ => ?_⟩
    · rw [hleft] at hstays
      change (r.profiles.erase id).get? other = none at hother
      rw [Table.get?_erase] at hother
      split at hother
      · next hid =>
        rw [if_pos hid] at hstays
        cases hstays
      · exact hother
    · refine (h.settled_queue hp' other).trans ?_
      rw [hleft, h.id_eq hp]
      split
      · rfl
      · rfl

lemma stepped_landOldest (h : r.Tidy) (id : EntityId) :
    Stepped r (fun _ => none) (r.landOldest id) := by
  have hsettled := fun other => h.settled_landOldest id other
  have htidy := h.landOldest id
  obtain hsame | ⟨s, rest, -, heq⟩ := r.landOldest_cases id
  · rw [hsame]
    exact stepped_refl h
  · rw [heq] at htidy hsettled ⊢
    exact ⟨htidy, keeps_landOne _ _, fun _ hother _ => hother, fun other _ => hsettled other⟩

lemma stepped_endPending (h : r.Tidy) (id : EntityId) :
    Stepped r (fun _ => none) (r.endPending id) := by
  have hsettled := fun other => h.settled_endPending id other
  have htidy := h.endPending id
  obtain hsame | ⟨-, heq⟩ := r.endPending_cases id
  · rw [hsame]
    exact stepped_refl h
  · rw [heq] at htidy hsettled ⊢
    exact ⟨htidy, fun _ => Iff.rfl, fun _ hother _ => hother, fun other _ => hsettled other⟩

lemma Tidy.lastSaved?_loaded (h : r.Tidy) (id : EntityId) :
    lastSaved? (r.loaded.map Profile.snapshot) id = (r.get? id).map Profile.snapshot := by
  -- as if each profile were a queue of its one snapshot
  let queues : Table EntityId (List Snapshot) := r.profiles.map fun e => (e.1, [e.2.snapshot])
  have hflat : queues.flatMap Prod.snd = r.loaded.map Profile.snapshot := by
    rw [List.flatMap_map, ← List.map_eq_flatMap, loaded, List.map_map]
    rfl
  have hkeys : queues.keys.Nodup := by
    rw [Table.keys, List.map_map]
    exact h.profiles
  have hown : ∀ e ∈ queues, ∀ s ∈ e.2, s.id = e.1 := by
    intro e he s hs
    obtain ⟨loaded, hloaded, rfl⟩ := List.mem_map.mp he
    obtain rfl := List.mem_singleton.mp hs
    exact h.own loaded hloaded
  have hqueue : queues.get? id = (r.get? id).map fun p => [p.snapshot] :=
    Table.get?_map_values (fun p : Profile => [p.snapshot]) r.profiles id
  rw [← hflat, lastSaved?_flatMap hkeys hown, hqueue]
  cases hp : r.get? id with
  | none => rfl
  | some p =>
    change (List.find? _ [p.snapshot]) = _
    exact List.find?_cons_of_pos (decide_eq_true (h.id_eq hp))

lemma stepped_shutdown (h : r.Tidy) (hkept : ∀ s ∈ r.taken .shutdown, r.storage.Keeps s) :
    Stepped r (r.departure? · .shutdown) r.shutdown.state := by
  have hstate : r.shutdown.state =
      empty (land r.flush.storage (r.loaded.map Profile.snapshot)) := by
    rw [← saveAll_fst]
    rfl
  rw [hstate]
  refine ⟨.empty _, fun s => (keeps_land _ _ s).trans (keeps_land _ _ s),
    fun id _ hstays => Option.map_eq_none_iff.mp hstays, fun id _ => ?_⟩
  change (land r.flush.storage (r.loaded.map Profile.snapshot)).load id = _
  have hflushed : ∀ s ∈ r.loaded.map Profile.snapshot, r.flush.storage.Keeps s :=
    fun s hs => (keeps_land _ _ s).mpr (hkept s hs)
  rw [load_land hflushed, h.lastSaved?_loaded, ← h.settled_flush]
  rfl

lemma stepped (h : r.Tidy) (e : Event) (hkept : ∀ s ∈ r.taken e, r.storage.Keeps s)
    (hread : ∀ registry id name, e = .loadOrCreate registry id name → r.get? id = none →
      ∀ s, r.settled id = .ok (some s) → s.id = id) :
    Stepped r (r.departure? · e) (r.step e) := by
  cases e with
  | loadOrCreate registry id name =>
    exact stepped_loadOrCreate h registry name (hread registry id name rfl)
  | edit id edit => exact stepped_edit h id edit
  | saveLater id => exact stepped_saveLater h id hkept
  | saveNow id => exact stepped_saveNow h id hkept
  | unload id => exact stepped_unload h id hkept
  | flush =>
    exact ⟨h.flush, keeps_land _ _, fun _ hother _ => hother, fun id _ => h.settled_flush id⟩
  | pendingSaves => exact stepped_refl h
  | shutdown => exact stepped_shutdown h hkept
  | lands id => exact stepped_landOldest h id
  | ends id => exact stepped_endPending h id

end

end DerivedStats.Roster
