import DerivedStats.Attribute.Rebuild
import DerivedStats.Proofs.Attribute.Keys
import DerivedStats.Proofs.Table.Listing

/-! What the registry of a schema knows. -/

namespace DerivedStats.Attribute

namespace Schema

def keys (s : Schema) : List String := (s.entries.map fun e => canonicalKey e.key).eraseDups

def default? (s : Schema) (key : String) : Option Float :=
  (s.entries.reverse.find? fun e => canonicalKey e.key == key).map fun e => e.declaration.default

lemma mem_keys {s : Schema} {key : String} :
    key ∈ s.keys ↔ ∃ e ∈ s.entries, canonicalKey e.key = key := by
  rw [keys, List.mem_eraseDups, List.mem_map]

lemma canonical_of_mem_keys {s : Schema} {key : String} (h : key ∈ s.keys) :
    canonicalKey key = key := by
  obtain ⟨e, -, rfl⟩ := mem_keys.mp h
  exact canonicalKey_canonicalKey e.key

lemma default?_isSome {s : Schema} {key : String} (h : key ∈ s.keys) :
    (s.default? key).isSome := by
  obtain ⟨e, he, hkey⟩ := mem_keys.mp h
  rw [default?, Option.isSome_map, List.find?_isSome]
  exact ⟨e, List.mem_reverse.mpr he, by simpa using hkey⟩

end Schema

namespace Registry

lemma foldl_register (ds : List Definition) (r : Registry) :
    (ds.foldl register r).loaded = r.loaded ∧
      (ds.foldl register r).definitions =
        (ds.map fun d => (d.key, d)).foldl (fun t p => t.put p.1 p.2) r.definitions := by
  induction ds generalizing r with
  | nil => exact ⟨rfl, rfl⟩
  | cons d ds ih => exact ih (r.register d)

lemma loaded_ofSchema (s : Schema) : (ofSchema s).loaded = true := (foldl_register _ _).1

lemma definitions_ofSchema (s : Schema) :
    (ofSchema s).definitions =
      Table.ofPairs (s.entries.map fun e => (canonicalKey e.key, Definition.ofEntry e)) := by
  refine (foldl_register _ _).2.trans ?_
  rw [List.map_map]
  rfl

lemma knownKeys_ofSchema (s : Schema) : (ofSchema s).knownKeys = s.keys := by
  rw [knownKeys, definitions_ofSchema, Table.keys_ofPairs, List.map_map]
  rfl

lemma nodup_knownKeys_ofSchema (s : Schema) : (ofSchema s).knownKeys.Nodup := by
  rw [knownKeys, definitions_ofSchema]
  exact Table.nodup_keys_ofPairs _

lemma isValid_ofSchema {s : Schema} {key : String} :
    (ofSchema s).isValid key = true ↔ canonicalKey key ∈ s.keys := by
  rw [← knownKeys_ofSchema]
  exact Table.has_iff_mem

lemma permits_ofSchema {s : Schema} {key : String} :
    (ofSchema s).permits key = true ↔ canonicalKey key ∈ s.keys := by
  rw [permits, loaded_ofSchema, Bool.not_true, Bool.false_or, isValid_ofSchema]

lemma get?_map_key {α β : Type} (es : List α) (key : α → String) (value : α → β) (k : String) :
    Table.get? (es.map fun e => (key e, value e)) k =
      (es.find? fun e => key e == k).map value := by
  induction es with
  | nil => rfl
  | cons e es ih =>
    rw [List.map_cons, Table.get?_cons, List.find?_cons, ih]
    by_cases h : k = key e
    · simp [h]
    · rw [if_neg h, beq_eq_false_iff_ne.mpr (Ne.symm h)]

lemma default?_ofSchema (s : Schema) (key : String) :
    (ofSchema s).default? key = s.default? (canonicalKey key) := by
  rw [default?, get?, definitions_ofSchema, Table.get?_ofPairs, ← List.map_reverse, get?_map_key,
    Option.map_map, Schema.default?]
  rfl

end Registry

end DerivedStats.Attribute
