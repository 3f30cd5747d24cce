import DerivedStats.Proofs.Roster.Settled

/-! What a storage that may refuse saves holds of each profile after saves have landed in it. -/

namespace DerivedStats.Roster

open Profile (Snapshot)

inductive Record
  | snapshot (s : Snapshot)
  | text (t : String)

namespace Storage

def record? (st : Storage) (id : EntityId) : Option Record :=
  match st.backend with
  | .memory entries _ => (entries.get? id).map .snapshot
  | .files directory => (directory.bind (·.get? id)).map .text

def written (st : Storage) (s : Snapshot) : Record :=
  match st.backend with
  | .memory .. => .snapshot s
  | .files _ => .text s.text

def refusal? (st : Storage) (s : Snapshot) : Option Failure :=
  match st.save s with
  | .ok _ => none
  | .error f => some f

def rewritten (st : Storage) (s : Snapshot) (old : Option Record) : Option Record :=
  if st.refusal? s = none then some (st.written s) else old

structure Like (st st' : Storage) : Prop where
  refusal? : ∀ s, st'.refusal? s = st.refusal? s
  written : ∀ s, st'.written s = st.written s
  close? : st'.close? = st.close?

variable {st st' st'' : Storage} {s t : Snapshot}

lemma Like.refl (st : Storage) : Like st st := ⟨fun _ => rfl, fun _ => rfl, rfl⟩

lemma Like.trans (h : Like st st') (h' : Like st' st'') : Like st st'' where
  refusal? s := (h'.refusal? s).trans (h.refusal? s)
  written s := (h'.written s).trans (h.written s)
  close? := h'.close?.trans h.close?

lemma Like.rewritten (h : Like st st') (s : Snapshot) (old : Option Record) :
    st'.rewritten s old = st.rewritten s old := by
  rw [Storage.rewritten, Storage.rewritten, h.refusal?, h.written]

lemma refusal?_eq (st : Storage) (s : Snapshot) :
    st.refusal? s =
      if st.refusals.calls.contains .save || st.refusals.saves.contains s.id then
        some (refused .save)
      else
        match st.backend with
        | .files none => some .file
        | _ => none := by
  rw [refusal?, save]
  cases (st.refusals.calls.contains .save || st.refusals.saves.contains s.id) with
  | true => rfl
  | false =>
    cases st.backend with
    | memory entries saves => rfl
    | files directory => cases directory <;> rfl

lemma refusal?_congr (h : s.id = t.id) : st.refusal? s = st.refusal? t := by
  rw [refusal?_eq, refusal?_eq, h]

lemma like_of_save (h : st.save s = .ok st') : Like st st' := by
  obtain ⟨-, b, hb, rfl⟩ := save_eq_ok_iff.mp h
  obtain ⟨entries, saves, hold, rfl⟩ | ⟨texts, hold, rfl⟩ := Backend.save_cases hb
  · exact ⟨fun t => by simp only [refusal?_eq, hold], fun t => by simp only [written, hold], rfl⟩
  · exact ⟨fun t => by simp only [refusal?_eq, hold], fun t => by simp only [written, hold], rfl⟩

lemma record?_of_save (h : st.save s = .ok st') (id : EntityId) :
    st'.record? id = if id = s.id then some (st.written s) else st.record? id := by
  obtain ⟨-, b, hb, rfl⟩ := save_eq_ok_iff.mp h
  obtain ⟨entries, saves, hold, rfl⟩ | ⟨texts, hold, rfl⟩ := Backend.save_cases hb
  · simp only [record?, written, hold, Table.get?_put]
    split <;> rfl
  · simp only [record?, written, hold, Option.bind_some, Table.get?_put]
    split <;> rfl

end Storage

open Storage (Like)

lemma like_landOne (st : Storage) (s : Snapshot) : Like st (landOne st s) := by
  rw [landOne]
  split
  · next h => exact Storage.like_of_save h
  · exact .refl st

lemma record?_landOne (st : Storage) (s : Snapshot) (id : EntityId) :
    (landOne st s).record? id =
      if id = s.id then st.rewritten s (st.record? id) else st.record? id := by
  rw [landOne, Storage.rewritten, Storage.refusal?]
  cases hsave : st.save s with
  | ok st' => exact Storage.record?_of_save hsave id
  | error f => simp

lemma like_land (st : Storage) (saves : List Snapshot) : Like st (land st saves) := by
  induction saves generalizing st with
  | nil => exact .refl st
  | cons s saves ih => exact (like_landOne st s).trans (ih (landOne st s))

lemma id_of_lastSaved? {saves : List Snapshot} {id : EntityId} {s : Snapshot}
    (h : lastSaved? saves id = some s) : s.id = id := by
  simpa using List.find?_some h

lemma record?_land (st : Storage) (saves : List Snapshot) (id : EntityId) :
    (land st saves).record? id =
      (lastSaved? saves id).elim (st.record? id) fun s => st.rewritten s (st.record? id) := by
  induction saves using List.reverseRecOn with
  | nil => rfl
  | append_singleton saves s ih =>
    rw [land_append, lastSaved?_concat]
    change (landOne (land st saves) s).record? id = _
    rw [record?_landOne, (like_land st saves).rewritten, ih]
    split
    · next hid =>
      rw [Option.elim_some]
      cases hlast : lastSaved? saves id with
      | none => rfl
      | some t =>
        -- the two snapshots have one identifier, so both are refused or neither is
        have hsame : st.refusal? s = st.refusal? t :=
          Storage.refusal?_congr (hid.symm.trans (id_of_lastSaved? hlast).symm)
        rw [Option.elim_some, Storage.rewritten, Storage.rewritten, Storage.rewritten, hsame]
        split <;> rfl
    · rfl

/-- Saves of profiles, one after the other, with what came of each of them. An accepted one leaves
its snapshot in the storage and all other profiles as they are, a refused one changes nothing. -/
inductive Attempts : Storage → List (Profile × Option Failure) → Storage → Prop
  | nil {st : Storage} : Attempts st [] st
  | accepted {st next last : Storage} {p : Profile} {rest : List (Profile × Option Failure)} :
      st.save p.snapshot = .ok next → next.record? p.id = some (st.written p.snapshot) →
      (∀ id, id ≠ p.id → next.record? id = st.record? id) → Attempts next rest last →
      Attempts st ((p, none) :: rest) last
  | refused {st last : Storage} {p : Profile} {f : Failure}
      {rest : List (Profile × Option Failure)} :
      st.save p.snapshot = .error f → Attempts st rest last →
      Attempts st ((p, some f) :: rest) last

lemma saveAll_attempts {base st : Storage} (h : Like base st) (ps : List Profile) :
    Attempts st (ps.map fun p => (p, base.refusal? p.snapshot)) (saveAll st ps).1 ∧
      (saveAll st ps).2 =
        ps.filterMap fun p => (base.refusal? p.snapshot).map (Notice.saveFailed p.id) := by
  induction ps generalizing st with
  | nil => exact ⟨.nil, rfl⟩
  | cons p ps ih =>
    rw [List.map_cons, List.filterMap_cons, saveAll, ← h.refusal?, Storage.refusal?]
    cases hsave : st.save p.snapshot with
    | ok next =>
      obtain ⟨hrest, hnotices⟩ := ih (h.trans (Storage.like_of_save hsave))
      have hrecord := Storage.record?_of_save hsave
      refine ⟨.accepted hsave ?_ (fun id hid => ?_) hrest, hnotices⟩
      · exact (hrecord p.id).trans (if_pos rfl)
      · exact (hrecord id).trans (if_neg hid)
    | error f =>
      obtain ⟨hrest, hnotices⟩ := ih h
      exact ⟨.refused hsave hrest, congrArg (.saveFailed p.id f :: ·) hnotices⟩

end DerivedStats.Roster
