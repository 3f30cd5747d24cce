import DerivedStats.Proofs.Table.Listing
import DerivedStats.Roster.Basic

/-! What a storage gives back of the snapshots it is given. -/

namespace DerivedStats.Roster

open Profile (Snapshot)

namespace Backend

def Keeps (b : Backend) (s : Snapshot) : Prop :=
  ∃ b', b.save s = .ok b' ∧ b'.load s.id = .ok (some s)

lemma keeps_memory (entries : Table EntityId Snapshot) (saves : Nat) (s : Snapshot) :
    (memory entries saves).Keeps s := by
  refine ⟨_, rfl, ?_⟩
  rw [load, Table.get?_put, if_pos rfl]

lemma keeps_files_iff (texts : Table EntityId String) (s : Snapshot) :
    (files (some texts)).Keeps s ↔ Snapshot.ofText? s.text = some s := by
  have hsave : save s (files (some texts)) = .ok (files (some (texts.put s.id s.text))) := rfl
  have hread : load s.id (files (some (texts.put s.id s.text))) = .ok (some s) ↔
      Snapshot.ofText? s.text = some s := by
    simp only [load, Option.bind_some, Table.get?_put, if_true]
    cases Snapshot.ofText? s.text with
    | none => simp
    | some t => simp
  constructor
  · rintro ⟨b, hb, hload⟩
    obtain rfl : _ = b := Except.ok.inj (hsave.symm.trans hb)
    exact hread.mp hload
  · exact fun h => ⟨_, hsave, hread.mpr h⟩

variable {b b' : Backend} {s t : Snapshot}

lemma save_cases (h : b.save s = .ok b') :
    (∃ entries saves, b = .memory entries saves ∧
      b' = .memory (entries.put s.id s) (saves + 1)) ∨
    ∃ texts, b = .files (some texts) ∧ b' = .files (some (texts.put s.id s.text)) := by
  cases b with
  | memory entries saves =>
    cases h
    exact .inl ⟨entries, saves, rfl, rfl⟩
  | files directory =>
    cases directory with
    | none => cases h
    | some texts =>
      cases h
      exact .inr ⟨texts, rfl, rfl⟩

lemma keeps_iff_of_save (h : b.save s = .ok b') : b'.Keeps t ↔ b.Keeps t := by
  obtain ⟨entries, saves, rfl, rfl⟩ | ⟨texts, rfl, rfl⟩ := save_cases h
  · exact iff_of_true (keeps_memory ..) (keeps_memory ..)
  · rw [keeps_files_iff, keeps_files_iff]

lemma load_of_save (h : b.save s = .ok b') {id : EntityId} (hid : id ≠ s.id) :
    b'.load id = b.load id := by
  obtain ⟨entries, saves, rfl, rfl⟩ | ⟨texts, rfl, rfl⟩ := save_cases h
  · rw [load, load, Table.get?_put, if_neg hid]
  · rw [load, load, Option.bind_some, Option.bind_some, Table.get?_put, if_neg hid]

end Backend

namespace Storage

def Keeps (st : Storage) (s : Snapshot) : Prop :=
  ∃ st', st.save s = .ok st' ∧ st'.load s.id = .ok (some s)

variable {st st' : Storage} {s t : Snapshot}

lemma save_eq_ok_iff :
    st.save s = .ok st' ↔
      (st.refusals.calls.contains .save || st.refusals.saves.contains s.id) = false ∧
        ∃ b, st.backend.save s = .ok b ∧ st' = ⟨st.refusals, b⟩ := by
  rw [save]
  cases (st.refusals.calls.contains .save || st.refusals.saves.contains s.id) with
  | true => exact iff_of_false (fun h => by cases h) (fun h => by cases h.1)
  | false =>
    cases st.backend.save s with
    | error f => exact iff_of_false (fun h => by cases h) (fun ⟨_, _, h, _⟩ => by cases h)
    | ok b =>
      constructor
      · intro h
        cases h
        exact ⟨rfl, b, rfl, rfl⟩
      · rintro ⟨-, b', h, rfl⟩
        cases h
        rfl

lemma keeps_iff (st : Storage) (s : Snapshot) :
    st.Keeps s ↔
      (st.refusals.calls.contains .save || st.refusals.saves.contains s.id) = false ∧
      (st.refusals.calls.contains .load || st.refusals.loads.contains s.id) = false ∧
        st.backend.Keeps s := by
  constructor
  · rintro ⟨st', hsave, hload⟩
    obtain ⟨hsaves, b, hb, rfl⟩ := save_eq_ok_iff.mp hsave
    rw [load] at hload
    split at hload
    · cases hload
    · next hloads => exact ⟨hsaves, Bool.eq_false_of_not_eq_true hloads, b, hb, hload⟩
  · rintro ⟨hsaves, hloads, b, hb, hload⟩
    refine ⟨⟨st.refusals, b⟩, save_eq_ok_iff.mpr ⟨hsaves, b, hb, rfl⟩, ?_⟩
    rw [load, if_neg (Bool.not_eq_true _ ▸ hloads)]
    exact hload

lemma keeps_memory (entries : Table EntityId Snapshot) (saves : Nat) (s : Snapshot) :
    Keeps ⟨⟨[], [], []⟩, .memory entries saves⟩ s :=
  (keeps_iff _ s).mpr ⟨rfl, rfl, Backend.keeps_memory entries saves s⟩

lemma keeps_iff_of_save (h : st.save s = .ok st') : st'.Keeps t ↔ st.Keeps t := by
  obtain ⟨-, b, hb, rfl⟩ := save_eq_ok_iff.mp h
  rw [keeps_iff, keeps_iff, Backend.keeps_iff_of_save hb]

lemma load_of_save (h : st.save s = .ok st') {id : EntityId} (hid : id ≠ s.id) :
    st'.load id = st.load id := by
  obtain ⟨-, b, hb, rfl⟩ := save_eq_ok_iff.mp h
  rw [load, load, Backend.load_of_save hb hid]

end Storage

lemma keeps_landOne (st : Storage) (s t : Snapshot) : (landOne st s).Keeps t ↔ st.Keeps t := by
  rw [landOne]
  split
  · next h => exact Storage.keeps_iff_of_save h
  · rfl

lemma load_landOne {st : Storage} {s : Snapshot} (h : st.Keeps s) (id : EntityId) :
    (landOne st s).load id = if id = s.id then .ok (some s) else st.load id := by
  obtain ⟨st', hsave, hload⟩ := h
  have hland : landOne st s = st' := by rw [landOne, hsave]
  rw [hland]
  split
  · next hid => rw [hid, hload]
  · next hid => exact Storage.load_of_save hsave hid

lemma land_append (st : Storage) (saves more : List Snapshot) :
    land st (saves ++ more) = land (land st saves) more := List.foldl_append

lemma keeps_land (st : Storage) (saves : List Snapshot) (t : Snapshot) :
    (land st saves).Keeps t ↔ st.Keeps t := by
  induction saves generalizing st with
  | nil => rfl
  | cons s saves ih =>
    change (land (landOne st s) saves).Keeps t ↔ _
    rw [ih, keeps_landOne]

def lastSaved? (saves : List Snapshot) (id : EntityId) : Option Snapshot :=
  saves.reverse.find? (·.id = id)

lemma lastSaved?_concat (saves : List Snapshot) (s : Snapshot) (id : EntityId) :
    lastSaved? (saves ++ [s]) id = if id = s.id then some s else lastSaved? saves id := by
  rw [lastSaved?, List.reverse_append, List.reverse_singleton, List.singleton_append,
    List.find?_cons]
  split <;> simp_all [lastSaved?, eq_comm]

lemma load_land {st : Storage} {saves : List Snapshot} (h : ∀ s ∈ saves, st.Keeps s)
    (id : EntityId) :
    (land st saves).load id = (lastSaved? saves id).elim (st.load id) fun s => .ok (some s) := by
  induction saves using List.reverseRecOn with
  | nil => rfl
  | append_singleton saves s ih =>
    rw [List.forall_mem_append, List.forall_mem_singleton] at h
    have hkept : (land st saves).Keeps s := (keeps_land st saves s).mpr h.2
    rw [land_append, lastSaved?_concat]
    change (landOne (land st saves) s).load id = _
    rw [load_landOne hkept, ih h.1]
    split
    · rfl
    · rfl

lemma saveAll_fst (st : Storage) (ps : List Profile) :
    (saveAll st ps).1 = land st (ps.map Profile.snapshot) := by
  induction ps generalizing st with
  | nil => rfl
  | cons p ps ih =>
    change _ = land (landOne st p.snapshot) (ps.map Profile.snapshot)
    rw [saveAll, landOne, ← ih]
    cases st.save p.snapshot with
    | ok st' => rfl
    | error f => rfl

end DerivedStats.Roster
