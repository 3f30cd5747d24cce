import DerivedStats.Proofs.Attribute.Listing
import Mathlib.Data.List.Pairwise

/-! Whether a dotted path tells an attribute from all others of its tree. A path joins keys by dots,
and a quoted key may hold dots itself; so the path shows the pieces between the dots and no more. -/

namespace DerivedStats.Attribute

open Toml (Value)

lemma splitOn_intercalate {keys : List String} (h : keys ≠ []) :
    (".".intercalate keys).toList.splitOn '.' = keys.flatMap fun key => key.toList.splitOn '.' := by
  induction keys with
  | nil => exact absurd rfl h
  | cons first rest ih =>
    cases rest with
    | nil => simp
    | cons second rest =>
      have hdot : ".".toList = ['.'] := rfl
      rw [String.intercalate_cons_cons, String.toList_append, String.toList_append, hdot,
        List.append_assoc, List.singleton_append, List.splitOn_append_cons_self,
        ih (List.cons_ne_nil _ _)]
      rfl

namespace Listed

def pieces (a : Listed) : List (List Char) := a.keys.flatMap fun key => key.toList.splitOn '.'

lemma path_eq_iff {a b : Listed} (ha : a.keys ≠ []) (hb : b.keys ≠ []) :
    a.path = b.path ↔ a.pieces = b.pieces := by
  rw [pieces, pieces, ← splitOn_intercalate ha, ← splitOn_intercalate hb]
  constructor
  · intro h
    exact congrArg (fun path : String => path.toList.splitOn '.') h
  · intro h
    have hjoined := congrArg ['.'].intercalate h
    rw [List.intercalate_splitOn, List.intercalate_splitOn] at hjoined
    exact String.toList_injective hjoined

lemma pieces_of_plain {a : Listed} (h : ∀ key ∈ a.keys, '.' ∉ key.toList) :
    a.pieces = a.keys.map String.toList := by
  rw [pieces, ← List.flatMap_singleton' (a.keys.map String.toList), List.flatMap_map]
  exact List.flatMap_congr fun key hkey => List.splitOn_eq_singleton (h key hkey)

end Listed

lemma Reached.head_mem {entries found : List (String × Value)} {keys : List String}
    (h : Reached entries keys found) :
    ∃ key rest, keys = key :: rest ∧ key ∈ entries.map Prod.fst := by
  cases h with
  | here hmem _ => exact ⟨_, _, rfl, List.mem_map_of_mem hmem⟩
  | deeper hmem _ _ => exact ⟨_, _, rfl, List.mem_map_of_mem hmem⟩

lemma keys_ne_nil {v : Value} {a : Listed} (h : a ∈ listed v) : a.keys ≠ [] := by
  obtain ⟨entries, -, hreached⟩ := mem_listed_iff.mp h
  obtain ⟨key, rest, hkeys, -⟩ := hreached.head_mem
  rw [hkeys]
  exact List.cons_ne_nil _ _

mutual

/-- No table of the tree, those in lists left aside, has a key twice. -/
def Keyed : Value → Prop
  | .table entries => (entries.map Prod.fst).Nodup ∧ KeyedBelow entries
  | _ => True

def KeyedBelow : List (String × Value) → Prop
  | [] => True
  | (_, value) :: rest => Keyed value ∧ KeyedBelow rest

end

mutual

lemma listedAt_keys_apart {value : Value} (h : Keyed value) (front : List String) :
    (listedAt front value).Pairwise fun a b => a.keys ≠ b.keys := by
  match value with
  | .table entries =>
    rw [listedAt]
    split
    · exact List.pairwise_singleton _ _
    · exact listedBelow_keys_apart h.1 h.2 front
  | .string _ | .integer _ | .float _ | .boolean _ | .datetime _ | .array _ =>
    simp [listedAt]

lemma listedBelow_keys_apart {entries : List (String × Value)} (hkeys : (entries.map Prod.fst).Nodup)
    (h : KeyedBelow entries) (front : List String) :
    (listedBelow front entries).Pairwise fun a b => a.keys ≠ b.keys := by
  match entries with
  | [] => exact List.Pairwise.nil
  | (key, value) :: rest =>
    obtain ⟨hnew, hrest⟩ := List.nodup_cons.mp hkeys
    rw [listedBelow, List.pairwise_append]
    refine ⟨listedAt_keys_apart h.1 _, listedBelow_keys_apart hrest h.2 front, ?_⟩
    -- What is listed of the first value goes on with its key, what is listed of the rest does not.
    intro a ha b hb heq
    obtain ⟨inside, hinside, hfirst⟩ := reached_of_listedAt ha
    obtain ⟨beside, hbeside, hsecond⟩ := reached_of_listedBelow hb
    obtain ⟨k, ks, rfl, hk⟩ := hfirst.head_mem
    obtain ⟨k', ks', rfl, hk'⟩ := hsecond.head_mem
    rw [hinside, hbeside] at heq
    obtain rfl : k = k' := (List.cons.inj (List.append_cancel_left heq)).1
    obtain rfl : k = key := by simpa using hk
    exact hnew hk'

end

lemma listed_keys_apart {v : Value} (h : Keyed v) :
    (listed v).Pairwise fun a b => a.keys ≠ b.keys := by
  match v with
  | .table entries => exact listedBelow_keys_apart h.1 h.2 []
  | .string _ | .integer _ | .float _ | .boolean _ | .datetime _ | .array _ =>
    exact List.Pairwise.nil

def PiecesApart (v : Value) : Prop := (listed v).Pairwise fun a b => a.pieces ≠ b.pieces

lemma PiecesApart.of_plain {v : Value} (h : Keyed v)
    (hplain : ∀ a ∈ listed v, ∀ key ∈ a.keys, '.' ∉ key.toList) : PiecesApart v := by
  refine (listed_keys_apart h).imp_of_mem fun ha hb hne heq => hne ?_
  rw [Listed.pieces_of_plain (hplain _ ha), Listed.pieces_of_plain (hplain _ hb)] at heq
  exact List.map_injective_iff.mpr (fun _ _ h => String.toList_injective h) heq

lemma nodup_paths_iff (v : Value) : ((listed v).map Listed.path).Nodup ↔ PiecesApart v := by
  rw [List.Nodup, List.pairwise_map]
  exact List.Pairwise.iff_of_mem fun ha hb =>
    not_congr (Listed.path_eq_iff (keys_ne_nil ha) (keys_ne_nil hb))

namespace Registry

lemma nodup_keys_ofListed (as : List Listed) : (ofListed as).definitions.keys.Nodup := by
  rw [ofListed, (foldl_register _ _).2]
  exact Table.nodup_keys_ofPairs _

section

variable {as : List Listed}

lemma exists_of_mem_definitions {p : String × Definition} (h : p ∈ (ofListed as).definitions) :
    ∃ a ∈ as, canonicalKey a.name = p.1 ∧ p.2.path = a.path := by
  have hget := (Table.get?_eq_some_iff (nodup_keys_ofListed as)).mpr h
  rw [definitions_ofListed] at hget
  obtain ⟨a, ha, hdefinition⟩ := Option.map_eq_some_iff.mp hget
  obtain ⟨hmem, hkey⟩ := List.mem_filter.mp (List.mem_of_getLast? ha)
  exact ⟨a, hmem, by simpa using hkey, by rw [← hdefinition]; rfl⟩

lemma nodup_paths_definitions (h : (as.map Listed.path).Nodup) :
    ((ofListed as).definitions.map fun p => p.2.path).Nodup := by
  have hkeys := List.pairwise_map.mp (nodup_keys_ofListed as)
  refine List.pairwise_map.mpr (hkeys.imp_of_mem fun {p q} hp hq hne heq => ?_)
  obtain ⟨a, ha, hakey, hapath⟩ := exists_of_mem_definitions hp
  obtain ⟨b, hb, hbkey, hbpath⟩ := exists_of_mem_definitions hq
  obtain rfl : a = b := List.inj_on_of_nodup_map h ha hb (hapath.symm.trans (heq.trans hbpath))
  exact hne (hakey.symm.trans hbkey)

lemma replaced_ne_winning (h : (as.map Listed.path).Nodup) :
    ∀ c ∈ (ofListed as).collisions, c.replaced ≠ c.winning := by
  induction as using List.reverseRecOn with
  | nil => exact List.forall_mem_nil _
  | append_singleton as a ih =>
    obtain ⟨hfront, -, hlast⟩ := List.nodup_append.mp (List.map_append ▸ h)
    intro c hc
    rw [collisions_ofListed, replacements_concat, List.mem_append, ← collisions_ofListed] at hc
    obtain hc | hc := hc
    · exact ih hfront c hc
    · rw [Option.mem_toList, replacement?, Option.map_eq_some_iff] at hc
      obtain ⟨b, hb, rfl⟩ := hc
      have hmem := (List.mem_filter.mp (List.mem_of_getLast? hb)).1
      exact hlast b.path (List.mem_map_of_mem hmem) a.path (List.mem_singleton_self _)

end

section

variable {r : Registry}

lemma all_perm (r : Registry) : r.all.Perm (r.definitions.map Prod.snd) := List.mergeSort_perm _ _

lemma all_sorted (r : Registry) : r.all.Pairwise fun d e => d.path ≤ e.path := by
  refine (List.pairwise_mergeSort (fun a b c hab hbc => ?_) (fun a b => ?_) _).imp fun {a b} hle => ?_
  · simp only [Bool.not_eq_true', decide_eq_false_iff_not, not_lt] at *
    exact hab.trans hbc
  · simp only [Bool.or_eq_true, Bool.not_eq_true', decide_eq_false_iff_not, not_lt]
    exact le_total a.path b.path
  · simpa only [Bool.not_eq_true', decide_eq_false_iff_not, not_lt] using hle

lemma all_of_sorted (h : (r.definitions.map fun p => p.2.path).Pairwise (· ≤ ·)) :
    r.all = r.definitions.map Prod.snd := by
  refine List.mergeSort_of_pairwise (List.pairwise_map.mpr ((List.pairwise_map.mp h).imp fun hle => ?_))
  simpa only [Bool.not_eq_true', decide_eq_false_iff_not, not_lt] using hle

lemma nodup_paths_all (h : (r.definitions.map fun p => p.2.path).Nodup) :
    (r.all.map Definition.path).Nodup := by
  rw [(r.all_perm.map Definition.path).nodup_iff, List.map_map]
  exact h

lemma all_ascending (h : (r.definitions.map fun p => p.2.path).Nodup) :
    r.all.Pairwise fun d e => d.path < e.path :=
  ((all_sorted r).and (List.pairwise_map.mp (nodup_paths_all h))).imp
    fun ⟨hle, hne⟩ => hle.lt_of_ne hne

lemma all_eq_of_perm (h : (r.definitions.map fun p => p.2.path).Nodup)
    {t : Table String Definition} (ht : t.Perm r.definitions) :
    { r with definitions := t }.all = r.all := by
  have hperm := (all_perm { r with definitions := t }).trans ((ht.map Prod.snd).trans r.all_perm.symm)
  refine hperm.eq_of_pairwise (fun d e hd he hde hed => ?_) (all_sorted _) (all_sorted r)
  exact List.inj_on_of_nodup_map (nodup_paths_all h) (hperm.mem_iff.mp hd) he (le_antisymm hde hed)

end

end Registry

/-- A path stands for one attribute of the tree: among all that are registered, among those in force,
which are listed by path whatever the order of the table is, and in the records of what was
replaced. -/
structure PathsIdentify (v : Value) : Prop where
  registered : ((Schema.ofToml v).entries.map Schema.Entry.path).Nodup
  ascending : (Registry.rebuild (.ofToml v)).1.all.Pairwise fun d e => d.path < e.path
  settled : ∀ t : Table String Definition, t.Perm (Registry.rebuild (.ofToml v)).1.definitions →
    { (Registry.rebuild (.ofToml v)).1 with definitions := t }.all =
      (Registry.rebuild (.ofToml v)).1.all
  replaced : ∀ c ∈ (Registry.rebuild (.ofToml v)).1.collisions, c.replaced ≠ c.winning

lemma PiecesApart.pathsIdentify {v : Value} (h : PiecesApart v) : PathsIdentify v := by
  have hr : (Registry.rebuild (.ofToml v)).1 = .ofListed (listed v) := Registry.ofSchema_ofToml v
  have hpaths := (nodup_paths_iff v).mpr h
  have hdefinitions := Registry.nodup_paths_definitions hpaths
  refine ⟨?_, ?_, ?_, ?_⟩
  · rwa [entries_ofToml, List.map_map]
  · rw [hr]
    exact Registry.all_ascending hdefinitions
  · rw [hr]
    exact fun t ht => Registry.all_eq_of_perm hdefinitions ht
  · rw [hr]
    exact Registry.replaced_ne_winning hpaths

lemma PathsIdentify.piecesApart {v : Value} (h : PathsIdentify v) : PiecesApart v := by
  have hpaths := h.registered
  rw [entries_ofToml, List.map_map] at hpaths
  exact (nodup_paths_iff v).mp hpaths

theorem paths_identify_iff (v : Value) :
    (PathsIdentify v ↔ PiecesApart v) ∧
      (Keyed v → (∀ a ∈ listed v, ∀ key ∈ a.keys, '.' ∉ key.toList) → PathsIdentify v) :=
  ⟨⟨PathsIdentify.piecesApart, PiecesApart.pathsIdentify⟩,
    fun hkeyed hplain => (PiecesApart.of_plain hkeyed hplain).pathsIdentify⟩

def plainTree : Value :=
  .table [("Basic", .table [("STR", .table [("default", .integer 1)])]),
    ("Bonus", .table [("str", .table [("default", .integer 7)])])]

theorem paths_identify_plain :
    (Keyed plainTree ∧ ∀ a ∈ listed plainTree, ∀ key ∈ a.keys, '.' ∉ key.toList) ∧
      PathsIdentify plainTree := by
  have hkeyed : Keyed plainTree := by simp [plainTree, Keyed, KeyedBelow]
  have hplain : ∀ a ∈ listed plainTree, ∀ key ∈ a.keys, '.' ∉ key.toList := by decide +kernel
  exact ⟨⟨hkeyed, hplain⟩, (paths_identify_iff plainTree).2 hkeyed hplain⟩

def dottedTree : Value :=
  .table [("a.b", .table [("c", .table [("default", .integer 1)])]),
    ("a", .table [("b.c", .table [("default", .integer 2)]),
      ("b", .table [("c", .table [("default", .integer 3)])])])]

theorem paths_not_identify :
    let r := (Registry.rebuild (.ofToml dottedTree)).1
    Keyed dottedTree ∧
      (Schema.ofToml dottedTree).entries.map Schema.Entry.path = ["a.b.c", "a.b.c", "a.b.c"] ∧
      (r.all.map fun d => (d.key, d.path)) = [("c", "a.b.c"), ("b.c", "a.b.c")] ∧
      ({ r with definitions := r.definitions.reverse }.all.map Definition.key) = ["b.c", "c"] ∧
      r.collisions = [⟨"c", "a.b.c", "a.b.c"⟩] ∧ ¬PathsIdentify dottedTree := by
  intro r
  have hpaths : (Schema.ofToml dottedTree).entries.map Schema.Entry.path =
      ["a.b.c", "a.b.c", "a.b.c"] := by decide +kernel
  have hkeyed : Keyed dottedTree := by simp [dottedTree, Keyed, KeyedBelow]
  have hall : r.all = r.definitions.map Prod.snd := Registry.all_of_sorted (by decide +kernel)
  have hback : { r with definitions := r.definitions.reverse }.all =
      r.definitions.reverse.map Prod.snd := Registry.all_of_sorted (by decide +kernel)
  refine ⟨hkeyed, hpaths, ?_, ?_, by decide +kernel, fun h => ?_⟩
  · rw [hall]
    decide +kernel
  · rw [hback]
    decide +kernel
  have hnodup := h.registered
  rw [hpaths] at hnodup
  exact absurd hnodup (by decide)

end DerivedStats.Attribute
