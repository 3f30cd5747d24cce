import DerivedStats.Engine
import DerivedStats.Proofs.Attribute.Known

/-! The attributes that a tree of tables declares, and what a registry makes of the list: the last
declaration of a key is in force, and every earlier one is recorded as replaced. -/

namespace DerivedStats.Attribute

open Toml (Value)

structure Listed where
  keys : List String
  entries : List (String × Value)

namespace Listed

def name (a : Listed) : String := a.keys.getLast?.getD ""

def path (a : Listed) : String := ".".intercalate a.keys

def declaration (a : Listed) : Declaration where
  displayName := match a.entries.lookup "display-name" with
    | some (.string s) => some s
    | _ => none
  default := match a.entries.lookup "default" with
    | some (.integer n) => Float.ofInt n
    | some (.float x) => x
    | some (.string s) => (Decimal.read (Text.trim s)).getD 0
    | _ => 0
  statusValue := match a.entries.lookup "status-value" with
    | some (.integer n) => some n
    | some (.float x) => some (Decimal.truncate x)
    | _ => none

def entry (a : Listed) : Schema.Entry := ⟨a.name, a.path, a.declaration⟩

def definition (a : Listed) : Definition where
  key := canonicalKey a.name
  path := a.path
  displayName := a.declaration.displayName.getD a.name
  defaultValue := a.declaration.default
  statusValue := a.declaration.statusValue

end Listed

def Marked (entries : List (String × Value)) : Prop :=
  "default" ∈ entries.map Prod.fst ∨ "status-value" ∈ entries.map Prod.fst ∨
    "display-name" ∈ entries.map Prod.fst

instance (entries : List (String × Value)) : Decidable (Marked entries) :=
  inferInstanceAs (Decidable (_ ∨ _))

mutual

def listedAt (keys : List String) : Value → List Listed
  | .table entries =>
    if Marked entries then [⟨keys, entries⟩] else listedBelow keys entries
  | _ => []

def listedBelow (keys : List String) : List (String × Value) → List Listed
  | [] => []
  | (key, value) :: rest => listedAt (keys ++ [key]) value ++ listedBelow keys rest

end

def listed : Value → List Listed
  | .table entries => listedBelow [] entries
  | _ => []

/-- The keys lead through tables without a marker to a table with one. -/
inductive Reached : List (String × Value) → List String → List (String × Value) → Prop
  | here {entries table : List (String × Value)} {key : String}
      (hmem : (key, .table table) ∈ entries) (hmarked : Marked table) :
      Reached entries [key] table
  | deeper {entries table found : List (String × Value)} {key : String} {keys : List String}
      (hmem : (key, .table table) ∈ entries) (hmarked : ¬Marked table)
      (h : Reached table keys found) : Reached entries (key :: keys) found

lemma Reached.mono {entries more found : List (String × Value)} {keys : List String}
    (h : Reached entries keys found) (hsub : entries ⊆ more) : Reached more keys found := by
  cases h with
  | here hmem hmarked => exact .here (hsub hmem) hmarked
  | deeper hmem hmarked h => exact .deeper (hsub hmem) hmarked h

lemma listedBelow_of_mem {keys : List String} {entries : List (String × Value)} {p : String × Value}
    (hp : p ∈ entries) : listedAt (keys ++ [p.1]) p.2 ⊆ listedBelow keys entries := by
  induction entries with
  | nil => cases hp
  | cons q rest ih =>
    rw [listedBelow]
    obtain rfl | hp := List.mem_cons.mp hp
    · exact List.subset_append_left _ _
    · exact List.Subset.trans (ih hp) (List.subset_append_right _ _)

lemma Reached.mem_listed {entries found : List (String × Value)} {keys : List String}
    (h : Reached entries keys found) (front : List String) :
    ⟨front ++ keys, found⟩ ∈ listedBelow front entries := by
  induction h generalizing front with
  | here hmem hmarked =>
    refine listedBelow_of_mem hmem ?_
    rw [listedAt, if_pos hmarked]
    exact List.mem_singleton_self _
  | @deeper entries table found key keys hmem hmarked _ ih =>
    refine listedBelow_of_mem hmem ?_
    have hfound := ih (front ++ [key])
    rw [List.append_assoc, List.singleton_append] at hfound
    rwa [listedAt, if_neg hmarked]

mutual

lemma reached_of_listedAt {value : Value} {front : List String} {key : String} {a : Listed}
    (h : a ∈ listedAt (front ++ [key]) value) :
    ∃ keys, a.keys = front ++ keys ∧ Reached [(key, value)] keys a.entries := by
  match value with
  | .table entries =>
    rw [listedAt] at h
    split at h
    · next hmarked =>
      obtain rfl := List.mem_singleton.mp h
      exact ⟨[key], rfl, .here (List.mem_singleton_self _) hmarked⟩
    · next hmarked =>
      obtain ⟨keys, hkeys, hreached⟩ := reached_of_listedBelow h
      refine ⟨key :: keys, by simpa using hkeys, ?_⟩
      exact .deeper (List.mem_singleton_self _) hmarked hreached
  | .string _ | .integer _ | .float _ | .boolean _ | .datetime _ | .array _ => simp [listedAt] at h

lemma reached_of_listedBelow {entries : List (String × Value)} {front : List String} {a : Listed}
    (h : a ∈ listedBelow front entries) :
    ∃ keys, a.keys = front ++ keys ∧ Reached entries keys a.entries := by
  match entries with
  | [] => simp [listedBelow] at h
  | (key, value) :: rest =>
    rw [listedBelow] at h
    obtain hfirst | hrest := List.mem_append.mp h
    · obtain ⟨keys, hkeys, hreached⟩ := reached_of_listedAt hfirst
      exact ⟨keys, hkeys, hreached.mono (List.cons_subset_cons _ (List.nil_subset _))⟩
    · obtain ⟨keys, hkeys, hreached⟩ := reached_of_listedBelow hrest
      exact ⟨keys, hkeys, hreached.mono (List.subset_cons_self _ _)⟩

end

lemma mem_listed_iff {v : Value} {a : Listed} :
    a ∈ listed v ↔ ∃ entries, v = .table entries ∧ Reached entries a.keys a.entries := by
  constructor
  · intro h
    match v with
    | .table entries =>
      obtain ⟨keys, hkeys, hreached⟩ := reached_of_listedBelow h
      exact ⟨entries, rfl, hkeys ▸ hreached⟩
    | .string _ | .integer _ | .float _ | .boolean _ | .datetime _ | .array _ =>
      simp [listed] at h
  · rintro ⟨entries, rfl, hreached⟩
    exact hreached.mem_listed []

lemma intercalate_concat {keys : List String} (h : keys ≠ []) (key : String) :
    ".".intercalate (keys ++ [key]) = ".".intercalate keys ++ "." ++ key := by
  induction keys with
  | nil => exact absurd rfl h
  | cons first rest ih =>
    cases rest with
    | nil => simp
    | cons second rest =>
      simp only [List.cons_append, String.intercalate_cons_cons] at ih ⊢
      rw [ih (List.cons_ne_nil _ _)]
      simp only [String.append_assoc]

lemma name_concat (keys : List String) (key : String) (entries : List (String × Value)) :
    (Listed.mk (keys ++ [key]) entries).name = key := by
  simp [Listed.name]

lemma isDeclaration_iff {entries : List (String × Value)} :
    Schema.isDeclaration entries = true ↔ Marked entries := by
  have hhas : ∀ key, (entries.lookup key).isSome = true ↔ key ∈ entries.map Prod.fst :=
    fun key => Table.has_iff_mem
  simp only [Schema.isDeclaration, Schema.markers, List.any_cons, List.any_nil, Bool.or_false,
    Bool.or_eq_true, hhas, Marked]

lemma declarationOf_eq (a : Listed) : Schema.declarationOf a.entries = a.declaration := by
  rw [Schema.declarationOf, Listed.declaration]
  congr 1
  cases a.entries.lookup "default" with
  | none => rfl
  | some value => cases value <;> simp only [Option.elim_some, Schema.numberOf]

mutual

lemma entriesAt_ofEntry? (value : Value) (keys : List String) (key : String) :
    (Schema.ofEntry? value).elim [] (Schema.entriesAt key (".".intercalate (keys ++ [key]))) =
      (listedAt (keys ++ [key]) value).map Listed.entry := by
  match value with
  | .table entries =>
    rw [Schema.ofEntry?, listedAt]
    simp only [isDeclaration_iff]
    split
    · rw [Option.elim_some, Schema.entriesAt, List.map_singleton, Listed.entry, name_concat,
        ← declarationOf_eq]
      rfl
    · rw [Option.elim_some, Schema.entriesAt]
      exact entriesBelow_ofEntries entries _ _ fun last =>
        (intercalate_concat (by simp) last).symm
  | .string _ | .integer _ | .float _ | .boolean _ | .datetime _ | .array _ =>
    simp [Schema.ofEntry?, listedAt]

lemma entriesBelow_ofEntries (entries : List (String × Value)) (keys : List String)
    (parent : String) (hparent : ∀ key, parent ++ key = ".".intercalate (keys ++ [key])) :
    Schema.entriesBelow parent (Schema.ofEntries entries) =
      (listedBelow keys entries).map Listed.entry := by
  match entries with
  | [] => simp [Schema.ofEntries, Schema.entriesBelow, listedBelow]
  | (key, value) :: rest =>
    have hfirst := entriesAt_ofEntry? value keys key
    have hrest := entriesBelow_ofEntries rest keys parent hparent
    rw [listedBelow, List.map_append, ← hfirst, ← hrest, Schema.ofEntries]
    cases Schema.ofEntry? value with
    | none => rfl
    | some node =>
      rw [Option.elim_some, ← hparent, Schema.entriesBelow]

end

lemma entries_ofToml (v : Value) : (Schema.ofToml v).entries = (listed v).map Listed.entry := by
  match v with
  | .table entries => exact entriesBelow_ofEntries entries [] "" fun key => by simp
  | .string _ | .integer _ | .float _ | .boolean _ | .datetime _ | .array _ => rfl

def latest? (as : List Listed) (key : String) : Option Listed :=
  (as.filter fun a => canonicalKey a.name == key).getLast?

def replacement? (as : List Listed) (a : Listed) : Option Collision :=
  (latest? as (canonicalKey a.name)).map fun b => ⟨canonicalKey a.name, b.path, a.path⟩

def replacements (as : List Listed) : List Collision :=
  as.zipIdx.filterMap fun (a, i) => replacement? (as.take i) a

lemma replacements_concat (as : List Listed) (a : Listed) :
    replacements (as ++ [a]) = replacements as ++ (replacement? as a).toList := by
  rw [replacements, List.zipIdx_append, List.filterMap_append]
  congr 1
  · refine List.filterMap_congr fun (b, i) hb => ?_
    have hlt : i < as.length := (List.mem_zipIdx' hb).1
    change replacement? (List.take i (as ++ [a])) b = _
    rw [List.take_append_of_le_length hlt.le]
  · cases h : replacement? as a <;> simp [h]

namespace Registry

lemma collisions_register (r : Registry) (d : Definition) :
    (r.register d).collisions =
      r.collisions ++ ((r.definitions.get? d.key).map fun e => ⟨d.key, e.path, d.path⟩).toList := by
  rw [register]
  cases r.definitions.get? d.key with
  | none => exact (List.append_nil _).symm
  | some e => rfl

lemma size_register (r : Registry) (d : Definition) :
    (r.register d).size = r.size + if (r.definitions.get? d.key).isSome then 0 else 1 := by
  have hkeys := congrArg List.length (Table.keys_put r.definitions d.key d)
  change (r.definitions.put d.key d).length = r.definitions.length + _
  rw [Table.keys, List.length_map] at hkeys
  rw [hkeys]
  by_cases h : d.key ∈ r.definitions.keys
  · have hhas : (r.definitions.get? d.key).isSome = true := Table.has_iff_mem.mpr h
    rw [if_pos h, if_pos hhas, Table.keys, List.length_map]
    rfl
  · rw [if_neg h, Table.get?_eq_none_of_not_mem h, List.length_append, Table.keys, List.length_map]
    rfl

def ofListed (as : List Listed) : Registry :=
  (as.map Listed.definition).foldl register ⟨true, [], []⟩

lemma ofListed_concat (as : List Listed) (a : Listed) :
    ofListed (as ++ [a]) = (ofListed as).register a.definition := by
  rw [ofListed, List.map_append, List.foldl_append]
  rfl

lemma ofSchema_ofToml (v : Value) : ofSchema (.ofToml v) = ofListed (listed v) := by
  rw [ofSchema, entries_ofToml, List.map_map]
  rfl

lemma definitions_ofListed (as : List Listed) (key : String) :
    (ofListed as).definitions.get? key = (latest? as key).map Listed.definition := by
  rw [ofListed, (foldl_register _ _).2, List.map_map]
  change (Table.ofPairs _).get? key = _
  rw [Table.get?_ofPairs, ← List.map_reverse, latest?, List.getLast?_filter]
  exact get?_map_key as.reverse _ Listed.definition key

lemma collisions_ofListed (as : List Listed) : (ofListed as).collisions = replacements as := by
  induction as using List.reverseRecOn with
  | nil => rfl
  | append_singleton as a ih =>
    rw [ofListed_concat, collisions_register, replacements_concat, ih, definitions_ofListed,
      Option.map_map]
    rfl

lemma size_add_collisions (as : List Listed) :
    (ofListed as).size + (ofListed as).collisions.length = as.length := by
  induction as using List.reverseRecOn with
  | nil => rfl
  | append_singleton as a ih =>
    rw [ofListed_concat, size_register, collisions_register, List.length_append,
      List.length_append, ← ih]
    cases (ofListed as).definitions.get? a.definition.key with
    | none => simp; omega
    | some d => simp; omega

end Registry

mutual

lemma count_eq (s : Schema) (key path : String) : s.count = (s.entriesAt key path).length := by
  match s with
  | .leaf d => rfl
  | .category children => exact countAll_eq children _

lemma countAll_eq (children : List (String × Schema)) (parent : String) :
    Schema.countAll children = (Schema.entriesBelow parent children).length := by
  match children with
  | [] => rfl
  | (key, node) :: rest =>
    rw [Schema.countAll, Schema.entriesBelow, List.length_append, count_eq node key (parent ++ key),
      countAll_eq rest parent]

end

lemma count_ofToml (v : Value) : (Schema.ofToml v).count = (listed v).length := by
  rw [← List.length_map Listed.entry, ← entries_ofToml]
  match v with
  | .table entries => exact countAll_eq (Schema.ofEntries entries) ""
  | .string _ | .integer _ | .float _ | .boolean _ | .datetime _ | .array _ => rfl

lemma isSome_latest?_iff {as : List Listed} {key : String} :
    (latest? as key).isSome = true ↔ ∃ a ∈ as, canonicalKey a.name = key := by
  simp [latest?]

/-- The list of a tree has the tables with a marker that are reached through tables without one. The
registry made of the tree knows a spelling exactly if an attribute of the list has its canonical key,
and answers with the last one of them; every attribute that came after another of its key is recorded
with the path of that one. So each attribute is counted once, among the definitions or the records.
An engine puts this registry in the place of any it had before. -/
theorem registry_of_tree (v : Value) :
    let r := (Registry.rebuild (.ofToml v)).1
    (∀ a, a ∈ listed v ↔ ∃ entries, v = .table entries ∧ Reached entries a.keys a.entries) ∧
    (∀ key, r.isValid key = true ↔ ∃ a ∈ listed v, canonicalKey a.name = canonicalKey key) ∧
    (∀ key, r.get? key = (latest? (listed v) (canonicalKey key)).map Listed.definition) ∧
    r.collisions = replacements (listed v) ∧
    r.size + r.collisions.length = (listed v).length ∧
    (Schema.ofToml v).count = (listed v).length ∧
    ∀ (e : Engine) (c : Config),
      ((Engine.registryComponent { c with attributes := .ofToml v }).init e).state.registry = r := by
  intro r
  have hr : r = .ofListed (listed v) := Registry.ofSchema_ofToml v
  have hget : ∀ key, r.get? key = (latest? (listed v) (canonicalKey key)).map Listed.definition := by
    intro key
    rw [hr]
    exact Registry.definitions_ofListed _ _
  refine ⟨fun a => mem_listed_iff, fun key => ?_, hget, ?_, ?_, count_ofToml v, ?_⟩
  · rw [Registry.isValid, hget, Option.isSome_map, isSome_latest?_iff]
  · rw [hr, Registry.collisions_ofListed]
  · rw [hr, Registry.size_add_collisions]
  · exact fun e c => rfl

def sheet : Value :=
  .table [("default", .integer 1),
    ("Basic", .table [
      ("DEX", .table [("display-name", .string "Dexterity"), ("default", .string " 12.5 "),
        ("status-value", .float 2.9)]),
      ("LUK", .table [("status-value", .float (-3.5)), ("default", .string "lots")]),
      ("STR", .table [("default", .integer 1)]),
      ("Bonus", .table [("str", .table [("status-value", .integer 7)])])]),
    ("Str", .table [("display-name", .boolean true)])]

theorem registry_of_tree_sheet :
    let r := (Registry.rebuild (.ofToml sheet)).1
    (listed sheet).map Listed.path =
      ["Basic.DEX", "Basic.LUK", "Basic.STR", "Basic.Bonus.str", "Str"] ∧
    r.get? "dex" = some ⟨"dex", "Basic.DEX", "Dexterity", 12.5, some 2⟩ ∧
    r.get? "Luk" = some ⟨"luk", "Basic.LUK", "LUK", 0, some (-3)⟩ ∧
    r.get? "STR" = some ⟨"str", "Str", "Str", 0, none⟩ ∧
    r.isValid "Basic" = false ∧
    r.collisions =
      [⟨"str", "Basic.STR", "Basic.Bonus.str"⟩, ⟨"str", "Basic.Bonus.str", "Str"⟩] ∧
    r.size = 3 ∧ (Schema.ofToml sheet).count = 5 := by
  intro r
  obtain ⟨-, hvalid, hget, hcollisions, hsize, hcount, -⟩ := registry_of_tree sheet
  have hpaths : (listed sheet).map Listed.path =
      ["Basic.DEX", "Basic.LUK", "Basic.STR", "Basic.Bonus.str", "Str"] := by decide +kernel
  have hbasic : ¬∃ a ∈ listed sheet, canonicalKey a.name = canonicalKey "Basic" := by
    decide +kernel
  have hrecords : replacements (listed sheet) =
      [⟨"str", "Basic.STR", "Basic.Bonus.str"⟩, ⟨"str", "Basic.Bonus.str", "Str"⟩] := by
    decide +kernel
  have hlength : (listed sheet).length = 5 := by decide +kernel
  refine ⟨hpaths, (hget "dex").trans (by decide +kernel), (hget "Luk").trans (by decide +kernel),
    (hget "STR").trans (by decide +kernel), ?_, hcollisions.trans hrecords, ?_, hcount.trans hlength⟩
  · rwa [← hvalid, Bool.not_eq_true] at hbasic
  · rw [hcollisions, hrecords, hlength] at hsize
    exact Nat.add_right_cancel hsize

end DerivedStats.Attribute
