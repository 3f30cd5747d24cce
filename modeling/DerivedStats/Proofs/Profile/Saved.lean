import DerivedStats.Proofs.Identifiers
import DerivedStats.Proofs.Json.RoundTrip
import DerivedStats.Proofs.Profile.History
import DerivedStats.Roster.Storage

/-! A profile that was saved as a file, and what is loaded from the file. -/

namespace DerivedStats.Profile

open Json (Value LegibleMembers Rereads isFinite toldMembers)
open Roster (Backend Storage)

/-- A note as JSON text keeps it: its numbers survive, objects list their members by name, and no
brackets nest deeper than they are read. -/
structure Storable (v : Value) : Prop where
  legible : v.Legible
  told : v.told = v
  ordered : v.ordered = v
  readable : v.readable Snapshot.noteDepth = true

lemma legibleMembers_reals {stats : List (String × Float)}
    (h : ∀ q ∈ stats, isFinite q.2 = true → Rereads q.2) :
    LegibleMembers (stats.map fun (key, value) => (key, .real value)) := by
  induction stats with
  | nil => trivial
  | cons q stats ih =>
    obtain ⟨hq, hstats⟩ := List.forall_mem_cons.mp h
    exact ⟨hq, ih hstats⟩

lemma legibleMembers_notes {notes : List (String × Value)} (h : ∀ m ∈ notes, Storable m.2) :
    LegibleMembers notes := by
  induction notes with
  | nil => trivial
  | cons m notes ih =>
    obtain ⟨hm, hnotes⟩ := List.forall_mem_cons.mp h
    exact ⟨hm.legible, ih hnotes⟩

lemma toldMembers_notes {notes : List (String × Value)} (h : ∀ m ∈ notes, Storable m.2) :
    toldMembers notes = notes := by
  induction notes with
  | nil => rfl
  | cons m notes ih =>
    obtain ⟨hm, hnotes⟩ := List.forall_mem_cons.mp h
    rw [toldMembers, hm.told, ih hnotes]

lemma mapM_numberOf? (stats : List (String × Float)) :
    ((toldMembers (stats.map fun (key, value) => (key, .real value))).mapM fun (key, value) =>
        (Snapshot.numberOf? value).map (key, ·)) =
      if ∀ q ∈ stats, isFinite q.2 = true then some stats else none := by
  induction stats with
  | nil => rfl
  | cons q stats ih =>
    obtain ⟨key, value⟩ := q
    rw [List.map_cons, toldMembers, List.mapM_cons, ih, Value.told]
    simp only [List.forall_mem_cons]
    by_cases hvalue : isFinite value = true
    · simp only [hvalue, if_true, true_and, Snapshot.numberOf?]
      split <;> rfl
    · simp only [hvalue, Bool.false_eq_true, if_false, false_and, Snapshot.numberOf?]
      rfl

lemma statsOf?_told {t : Table String Float} (h : t.keys.Nodup) :
    Snapshot.statsOf?
        (.object (toldMembers (t.sorted.map fun (key, value) => (key, .real value)))) =
      if ∀ q ∈ t, isFinite q.2 = true then some t.sorted else none := by
  rw [Snapshot.statsOf?, mapM_numberOf?]
  simp only [t.sorted_perm.mem_iff]
  split
  · exact congrArg some (Table.sorted_ofPairs_sorted h)
  · rfl

lemma metadataOf?_notes {t : Table String Value} (h : t.keys.Nodup)
    (hnotes : ∀ m ∈ t, Storable m.2) : Snapshot.metadataOf? (.object t.sorted) = some t.sorted := by
  have hsorted : ∀ m ∈ t.sorted, Storable m.2 := fun m hm => hnotes m (t.sorted_perm.mem_iff.mp hm)
  have hreadable : (t.sorted.all fun m => m.2.readable Snapshot.noteDepth) = true :=
    List.all_eq_true.mpr fun m hm => (hsorted m hm).readable
  have hordered : t.sorted.map (fun (key, value) => (key, value.ordered)) = t.sorted := by
    refine (List.map_congr_left fun m hm => ?_).trans (List.map_id _)
    exact Prod.ext rfl (hsorted m hm).ordered
  rw [Snapshot.metadataOf?, if_pos hreadable, hordered]
  exact congrArg some (Table.sorted_ofPairs_sorted h)

lemma ofJson?_members (id name stats metadata : Value) :
    Snapshot.ofJson? (.object
        [("uuid", id), ("name", name), ("stats", stats), ("meta", metadata)]) =
      Snapshot.build? id name stats metadata := by
  rw [Snapshot.ofJson?, if_pos (by simp [Snapshot.fields])]
  simp [List.lookup_cons]

lemma ofText?_text {p : Profile} (hstats : p.stats.keys.Nodup) (hmetadata : p.metadata.keys.Nodup)
    (hlegible : ∀ q ∈ p.stats, isFinite q.2 = true → Rereads q.2)
    (hnotes : ∀ m ∈ p.metadata, Storable m.2) :
    Snapshot.ofText? p.snapshot.text =
      if ∀ q ∈ p.stats, isFinite q.2 = true then some p.snapshot else none := by
  have hnotesSorted : ∀ m ∈ p.metadata.sorted, Storable m.2 :=
    fun m hm => hnotes m (p.metadata.sorted_perm.mem_iff.mp hm)
  have hread : Json.read p.snapshot.toJson.pretty = some p.snapshot.toJson.told :=
    Json.read_pretty ⟨trivial, trivial,
      legibleMembers_reals fun q hq => hlegible q (p.stats.sorted_perm.mem_iff.mp hq),
      legibleMembers_notes hnotesSorted, trivial⟩
  have htold : p.snapshot.toJson.told = .object [
      ("uuid", .string p.id.text), ("name", .string p.name),
      ("stats", .object (toldMembers (p.stats.sorted.map fun (key, value) => (key, .real value)))),
      ("meta", .object p.metadata.sorted)] := by
    rw [← toldMembers_notes hnotesSorted]
    rfl
  rw [Snapshot.ofText?, Snapshot.text, hread, htold, Option.bind_some, ofJson?_members,
    Snapshot.build?]
  simp only [Snapshot.idOf?, EntityId.ofText?_text, Snapshot.nameOf?, Option.elim_some,
    statsOf?_told hstats, metadataOf?_notes hmetadata hnotes, Option.bind_eq_bind, Option.bind_some]
  split <;> rfl

lemma id_after (a : Attached) (ops : List Operation) : (a.after ops).profile.id = a.profile.id := by
  induction ops generalizing a with
  | nil => rfl
  | cons op ops ih =>
    refine (ih (a.perform op)).trans ?_
    cases op with
    | setStat key value =>
      rw [Attached.perform, setStat?]
      split <;> rfl
    | rebuild schema => rfl
    | clear => rfl
    | applyDefaults => rfl
    | setName name => rfl
    | setMetadata key value => rfl
    | reopen => rfl

lemma nodup_metadata_after {a : Attached} (h : a.profile.metadata.keys.Nodup)
    (ops : List Operation) : (a.after ops).profile.metadata.keys.Nodup := by
  induction ops generalizing a with
  | nil => exact h
  | cons op ops ih =>
    refine ih (a := a.perform op) ?_
    cases op with
    | setStat key value =>
      rw [Attached.perform, setStat?]
      split <;> exact h
    | setMetadata key value => exact Table.nodup_keys_put h key value
    | reopen => exact Table.nodup_keys_sorted h
    | rebuild schema => exact h
    | clear => exact h
    | applyDefaults => exact h
    | setName name => exact h

def openFiles (directory : Option (Table EntityId String)) : Storage :=
  ⟨⟨[], [], []⟩, .files directory⟩

lemma prepare_openFiles (directory : Option (Table EntityId String)) :
    (openFiles directory).prepare = .ok (openFiles (some (directory.getD []))) := by
  cases directory <;> rfl

lemma save_openFiles (texts : Table EntityId String) (s : Snapshot) :
    (openFiles (some texts)).save s = .ok (openFiles (some (texts.put s.id s.text))) := rfl

lemma load_openFiles_put (texts : Table EntityId String) (s : Snapshot) :
    (openFiles (some (texts.put s.id s.text))).load s.id =
      (Snapshot.ofText? s.text).elim (.error .format) fun s => .ok (some s) := by
  have hget : (texts.put s.id s.text).get? s.id = some s.text := by
    rw [Table.get?_put]
    exact if_pos rfl
  simp only [openFiles, Storage.load, List.contains_nil, Bool.or_self, Bool.false_eq_true, if_false,
    Backend.load, Option.bind_some, hget]
  cases Snapshot.ofText? s.text <;> rfl

/-- Whatever happened to a profile, its file gives its snapshot back exactly if all stats are
finite; with any other stat the file cannot be loaded at all. This takes numbers and notes that JSON
text keeps. -/
theorem saved_file_loads_iff_finite (id : EntityId) (name : String) (ops : List Operation)
    (directory : Option (Table EntityId String)) :
    let p := ((Attached.new id name).after ops).profile
    (∀ q ∈ p.stats, isFinite q.2 = true → Rereads q.2) → (∀ m ∈ p.metadata, Storable m.2) →
    ∃ ready saved, (openFiles directory).prepare = .ok ready ∧ ready.save p.snapshot = .ok saved ∧
      saved.load id =
        if ∀ q ∈ p.stats, isFinite q.2 = true then .ok (some p.snapshot) else .error .format := by
  intro p hlegible hnotes
  have hid : p.snapshot.id = id := id_after (.new id name) ops
  have hstats : p.stats.keys.Nodup := ((Attached.Records.records_new id name).after ops).nodup
  have hmetadata : p.metadata.keys.Nodup :=
    nodup_metadata_after (a := .new id name) List.nodup_nil ops
  refine ⟨_, _, prepare_openFiles directory, save_openFiles _ _, ?_⟩
  rw [← hid, load_openFiles_put, ofText?_text hstats hmetadata hlegible hnotes]
  split <;> rfl

def isReal (x : Float) : Value → Bool
  | .real y => y = x
  | _ => false

lemma rereads_of_isReal {x : Float} (h : (Json.read (Json.realText x)).any (isReal x) = true) :
    Rereads x := by
  rw [Rereads]
  cases hread : Json.read (Json.realText x) with
  | none => simp [hread] at h
  | some v =>
    cases v with
    | real y => simpa [hread, isReal] using h
    | null | boolean b | integer n | string s | array items | object members | unreadable =>
      simp [hread, isReal] at h

theorem saved_file_loads_back :
    let p := ((Attached.new ⟨1⟩ "A").after
      [.setStat "Max HP" 30.5, .setMetadata "title" (.string "Knight")]).profile
    (∀ q ∈ p.stats, isFinite q.2 = true → Rereads q.2) ∧ (∀ m ∈ p.metadata, Storable m.2) ∧
      ∃ ready saved, (openFiles none).prepare = .ok ready ∧ ready.save p.snapshot = .ok saved ∧
        saved.load ⟨1⟩ = .ok (some p.snapshot) := by
  intro p
  have hstats : p.stats = [("max_hp", 30.5)] := by decide +kernel
  have hlegible : ∀ q ∈ p.stats, isFinite q.2 = true → Rereads q.2 := by
    intro q hq _
    rw [hstats, List.mem_singleton] at hq
    subst hq
    exact rereads_of_isReal (by decide +kernel)
  have hnotes : ∀ m ∈ p.metadata, Storable m.2 := by
    intro m hm
    obtain rfl := List.mem_singleton.mp hm
    exact ⟨trivial, rfl, rfl, rfl⟩
  refine ⟨hlegible, hnotes, ?_⟩
  obtain ⟨ready, saved, hready, hsaved, hload⟩ :=
    saved_file_loads_iff_finite ⟨1⟩ "A" _ none hlegible hnotes
  refine ⟨ready, saved, hready, hsaved, hload.trans (if_pos ?_)⟩
  intro q hq
  have hq : q ∈ p.stats := hq
  rw [hstats, List.mem_singleton] at hq
  subst hq
  decide +kernel

theorem infinite_stat_not_loaded :
    let p := ((Attached.new ⟨1⟩ "A").after [.setStat "STR" Decimal.infinity]).profile
    (∃ saved, (openFiles (some [])).save p.snapshot = .ok saved ∧ saved.load ⟨1⟩ = .error .format) ∧
      ∃ saved, Storage.save ⟨⟨[], [], []⟩, .memory [] 0⟩ p.snapshot = .ok saved ∧
        saved.load ⟨1⟩ = .ok (some p.snapshot) := by
  intro p
  have hstats : p.stats = [("str", Decimal.infinity)] := by decide +kernel
  have hinfinite : isFinite Decimal.infinity = false := by decide +kernel
  have hlost : ¬ ∀ q ∈ p.stats, isFinite q.2 = true := by
    rw [hstats]
    simp [hinfinite]
  refine ⟨⟨_, save_openFiles _ _, ?_⟩, ⟨_, rfl, rfl⟩⟩
  refine (load_openFiles_put [] p.snapshot).trans ?_
  rw [ofText?_text, if_neg hlost]
  · rfl
  · rw [hstats]
    decide
  · exact List.nodup_nil
  · intro q hq hfinite
    rw [hstats, List.mem_singleton] at hq
    rw [hq, hinfinite] at hfinite
    cases hfinite
  · exact fun m hm => absurd hm List.not_mem_nil

end DerivedStats.Profile
