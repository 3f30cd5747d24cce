import DerivedStats.Proofs.Attribute.Known
import DerivedStats.Proofs.Profile.Operations

/-! The stats of a profile are what the history of accepted writes says, read through the schema
that is in force. -/

namespace DerivedStats.Profile

open Attribute (Registry Schema canonicalKey canonicalKey_canonicalKey)

/-- The schema in force, if there is one, and all accepted writes, the oldest first. -/
structure History where
  schema : Option Schema
  writes : List (String × Float)

namespace History

def start : History := ⟨none, []⟩

def keys (h : History) : List String := h.schema.elim [] Schema.keys

def admits (h : History) (key : String) : Bool := h.schema.elim true fun s => s.keys.contains key

def latest (h : History) (key : String) : Option Float := h.writes.reverse.lookup key

def missing (h : History) : List (String × Float) :=
  h.keys.filterMap fun key =>
    if (h.latest key).isSome then none
    else (h.schema.bind fun s => s.default? key).map (key, ·)

def write (h : History) (pairs : List (String × Float)) : History :=
  { h with writes := h.writes ++ pairs }

def record (h : History) : Operation → History
  | .rebuild schema => { h with schema := some schema }
  | .clear => { h with schema := none }
  | .setStat key value =>
    if h.admits (canonicalKey key) then h.write [(canonicalKey key, value)] else h
  | .applyDefaults => h.write h.missing
  | .setName _ | .setMetadata _ _ | .reopen => h

def ofOperations (ops : List Operation) : History := ops.foldl record start

def registry (h : History) : Registry := h.schema.elim .unloaded Registry.ofSchema

lemma knownKeys_registry (h : History) : h.registry.knownKeys = h.keys := by
  cases hs : h.schema with
  | none => simp [registry, keys, hs]; rfl
  | some s => simpa [registry, keys, hs] using Registry.knownKeys_ofSchema s

lemma nodup_knownKeys_registry (h : History) : h.registry.knownKeys.Nodup := by
  cases hs : h.schema with
  | none =>
    rw [registry, hs]
    exact List.nodup_nil
  | some s =>
    rw [registry, hs]
    exact Registry.nodup_knownKeys_ofSchema s

lemma loaded_registry (h : History) : h.registry.loaded = h.schema.isSome := by
  cases hs : h.schema with
  | none => simp [registry, hs]; rfl
  | some s => simpa [registry, hs] using Registry.loaded_ofSchema s

lemma permits_registry (h : History) (key : String) :
    h.registry.permits key = h.admits (canonicalKey key) := by
  cases hs : h.schema with
  | none => simp [registry, admits, hs]; rfl
  | some s =>
    rw [Bool.eq_iff_iff]
    simpa [registry, admits, hs] using Registry.permits_ofSchema

lemma default?_registry (h : History) (key : String) :
    h.registry.default? key = h.schema.bind fun s => s.default? (canonicalKey key) := by
  cases hs : h.schema with
  | none => simp [registry, hs]; rfl
  | some s => simpa [registry, hs] using Registry.default?_ofSchema s key

lemma canonical_of_mem_keys {h : History} {key : String} (hkey : key ∈ h.keys) :
    canonicalKey key = key := by
  cases hs : h.schema with
  | none => simp [keys, hs] at hkey
  | some s => exact Schema.canonical_of_mem_keys (by simpa [keys, hs] using hkey)

lemma admits_eq_false_iff {h : History} {key : String} :
    h.admits key = false ↔ h.schema.isSome ∧ key ∉ h.keys := by
  cases hs : h.schema <;> simp [admits, keys, hs]

lemma default?_isSome {h : History} {key : String} (hkey : key ∈ h.keys) :
    (h.schema.bind fun s => s.default? key).isSome := by
  cases hs : h.schema with
  | none => simp [keys, hs] at hkey
  | some s => exact Schema.default?_isSome (by simpa [keys, hs] using hkey)

lemma latest_write (h : History) (pairs : List (String × Float)) (key : String) :
    (h.write pairs).latest key = (Table.get? pairs.reverse key).or (h.latest key) := by
  rw [latest, write, List.reverse_append, List.lookup_append]
  rfl

end History

structure Attached.Records (h : History) (a : Attached) : Prop where
  registry : a.registry = h.registry
  nodup : a.profile.stats.keys.Nodup
  canonical : ∀ key ∈ a.profile.stats.keys, canonicalKey key = key
  latest : ∀ key, a.profile.stats.get? key = h.latest key

namespace Attached.Records

variable {h : History} {a : Attached}

lemma permits (r : Records h a) (key : String) :
    a.registry.permits (canonicalKey key) = h.admits (canonicalKey key) := by
  rw [r.registry, h.permits_registry, canonicalKey_canonicalKey]

lemma has (r : Records h a) (key : String) :
    a.profile.stats.has key = (h.latest key).isSome := by
  rw [Table.has, r.latest]

lemma missingDefaults (r : Records h a) : a.profile.missingDefaults a.registry = h.missing := by
  rw [Profile.missingDefaults, r.registry, h.knownKeys_registry]
  refine List.filterMap_congr fun key hkey => ?_
  rw [r.has, h.default?_registry, History.canonical_of_mem_keys hkey]

lemma puts (r : Records h a) {pairs : List (String × Float)}
    (hpairs : ∀ p ∈ pairs, canonicalKey p.1 = p.1) :
    Records (h.write pairs)
      { a with profile.stats := pairs.foldl (fun t p => t.put p.1 p.2) a.profile.stats } where
  registry := r.registry
  nodup := Table.nodup_keys_foldl_put r.nodup pairs
  canonical key hkey := by
    obtain hold | hnew := Table.mem_keys_foldl_put.mp hkey
    · exact r.canonical key hold
    · obtain ⟨p, hp, rfl⟩ := List.mem_map.mp hnew
      exact hpairs p hp
  latest key := by rw [Table.get?_foldl_put, h.latest_write, r.latest]

lemma setStat (r : Records h a) (key : String) (value : Float) :
    Records (h.record (.setStat key value)) (a.perform (.setStat key value)) := by
  rw [History.record, Attached.perform, Profile.setStat?, r.permits]
  split
  · have hone : ∀ p ∈ [(canonicalKey key, value)], canonicalKey p.1 = p.1 :=
      List.forall_mem_singleton.mpr (canonicalKey_canonicalKey key)
    exact r.puts hone
  · exact r

lemma applyDefaults (r : Records h a) :
    Records (h.record .applyDefaults) (a.perform .applyDefaults) := by
  rw [History.record, Attached.perform, Profile.applyDefaults, r.missingDefaults]
  refine r.puts fun p hp => ?_
  obtain ⟨key, hkey, hp⟩ := List.mem_filterMap.mp hp
  split at hp
  · cases hp
  · obtain ⟨x, -, rfl⟩ := Option.map_eq_some_iff.mp hp
    exact History.canonical_of_mem_keys hkey

lemma restore_snapshot (r : Records h a) :
    (restore a.profile.snapshot).stats = a.profile.stats.sorted := by
  have hcanonical : a.profile.stats.sorted.map (fun p => (canonicalKey p.1, p.2)) =
      a.profile.stats.sorted := by
    refine (List.map_congr_left fun p hp => ?_).trans (List.map_id _)
    have hkey : p.1 ∈ a.profile.stats.keys :=
      List.mem_map_of_mem (a.profile.stats.sorted_perm.mem_iff.mp hp)
    exact Prod.ext (r.canonical p.1 hkey) rfl
  change Table.ofPairs (a.profile.stats.sorted.map fun p => (canonicalKey p.1, p.2)) = _
  rw [hcanonical, Table.ofPairs_of_nodup (Table.nodup_keys_sorted r.nodup)]

lemma reopen (r : Records h a) : Records (h.record .reopen) (a.perform .reopen) where
  registry := r.registry
  nodup := by
    change (restore a.profile.snapshot).stats.keys.Nodup
    rw [r.restore_snapshot]
    exact Table.nodup_keys_sorted r.nodup
  canonical key hkey := by
    change key ∈ (restore a.profile.snapshot).stats.keys at hkey
    rw [r.restore_snapshot] at hkey
    exact r.canonical key ((a.profile.stats.sorted_perm.map Prod.fst).mem_iff.mp hkey)
  latest key := by
    change (restore a.profile.snapshot).stats.get? key = h.latest key
    rw [r.restore_snapshot, ← r.latest]
    exact Table.get?_perm a.profile.stats.sorted_perm (Table.nodup_keys_sorted r.nodup) key

lemma perform (r : Records h a) (op : Operation) : Records (h.record op) (a.perform op) := by
  cases op with
  | rebuild schema => exact ⟨rfl, r.nodup, r.canonical, r.latest⟩
  | clear => exact ⟨rfl, r.nodup, r.canonical, r.latest⟩
  | setStat key value => exact r.setStat key value
  | applyDefaults => exact r.applyDefaults
  | setName name => exact ⟨r.registry, r.nodup, r.canonical, r.latest⟩
  | setMetadata key value => exact ⟨r.registry, r.nodup, r.canonical, r.latest⟩
  | reopen => exact r.reopen

lemma after (r : Records h a) (ops : List Operation) :
    Records (ops.foldl History.record h) (a.after ops) := by
  induction ops generalizing h a with
  | nil => exact r
  | cons op ops ih => exact ih (r.perform op)

lemma records_new (id : EntityId) (name : String) : Records .start (.new id name) where
  registry := rfl
  nodup := List.nodup_nil
  canonical _ hkey := absurd hkey List.not_mem_nil
  latest _ := rfl

lemma setStat?_eq_none_iff (r : Records h a) (key : String) (value : Float) :
    a.profile.setStat? a.registry key value = none ↔
      a.registry.loaded = true ∧ canonicalKey key ∉ a.registry.knownKeys := by
  rw [Profile.setStat?, r.permits, r.registry, h.loaded_registry, h.knownKeys_registry,
    ← History.admits_eq_false_iff]
  cases h.admits (canonicalKey key) <;> simp

lemma stat?_eq (r : Records h a) (key : String) :
    a.profile.stat? a.registry key =
      if a.registry.loaded = true ∧ canonicalKey key ∉ a.registry.knownKeys then none
      else h.latest (canonicalKey key) := by
  rw [Profile.stat?, r.permits, r.latest, r.registry, h.loaded_registry, h.knownKeys_registry]
  simp only [← History.admits_eq_false_iff]
  cases h.admits (canonicalKey key) <;> simp

lemma missingDefaults_keys (r : Records h a) :
    (a.profile.missingDefaults a.registry).map Prod.fst =
      a.registry.knownKeys.filter fun key => !a.profile.stats.has key := by
  rw [Profile.missingDefaults, List.map_filterMap, ← List.filterMap_eq_filter]
  refine List.filterMap_congr fun key hkey => ?_
  cases hhas : a.profile.stats.has key with
  | true => simp [Option.guard, hhas]
  | false =>
    rw [r.registry, h.knownKeys_registry] at hkey
    have hdefault : (a.registry.default? key).isSome := by
      rw [r.registry, h.default?_registry, History.canonical_of_mem_keys hkey]
      exact History.default?_isSome hkey
    obtain ⟨x, hx⟩ := Option.isSome_iff_exists.mp hdefault
    simp [hx, Option.guard, hhas]

lemma length_missingDefaults (r : Records h a) :
    (a.profile.missingDefaults a.registry).length =
      (a.registry.knownKeys.filter fun key => !a.profile.stats.has key).length := by
  rw [← r.missingDefaults_keys, List.length_map]

lemma get?_perform (r : Records h a) {key : String} {x : Float}
    (hx : a.profile.stats.get? key = some x) {op : Operation}
    (hop : ∀ spelling value, op = .setStat spelling value → canonicalKey spelling = key →
      a.profile.setStat? a.registry spelling value = none) :
    (a.perform op).profile.stats.get? key = some x := by
  cases op with
  | setStat spelling value =>
    rw [Attached.perform]
    cases hset : a.profile.setStat? a.registry spelling value with
    | none => exact hx
    | some p =>
      have hother : key ≠ canonicalKey spelling := fun heq => by
        simp [hop spelling value rfl heq.symm] at hset
      rw [Profile.setStat?] at hset
      split at hset
      · cases hset
        rw [Option.getD_some, Table.get?_put, if_neg hother, hx]
      · cases hset
  | applyDefaults =>
    change ((a.profile.missingDefaults a.registry).foldl _ a.profile.stats).get? key = some x
    have hstored : a.profile.stats.has key = true := by rw [Table.has, hx, Option.isSome_some]
    -- defaults go to attributes without a stored value
    have hnew : key ∉ (a.profile.missingDefaults a.registry).map Prod.fst := by
      rw [r.missingDefaults_keys]
      simp [hstored]
    rw [Table.get?_foldl_put, Table.get?_eq_none_of_not_mem, Option.none_or, hx]
    rwa [Table.keys, List.map_reverse, List.mem_reverse]
  | reopen =>
    rw [r.reopen.latest, ← hx, r.latest]
    rfl
  | rebuild schema => exact hx
  | clear => exact hx
  | setName name => exact hx
  | setMetadata key' value => exact hx

lemma get?_after (r : Records h a) {key : String} {x : Float}
    (hx : a.profile.stats.get? key = some x) (ops : List Operation)
    (hops : ∀ front spelling value back, ops = front ++ .setStat spelling value :: back →
      canonicalKey spelling = key →
      (a.after front).profile.setStat? (a.after front).registry spelling value = none) :
    (a.after ops).profile.stats.get? key = some x := by
  induction ops generalizing h a with
  | nil => exact hx
  | cons op ops ih =>
    have hstep : (a.perform op).profile.stats.get? key = some x :=
      r.get?_perform hx fun spelling value hop => hops [] spelling value ops (by rw [hop]; rfl)
    refine ih (r.perform op) hstep fun front spelling value back hback => ?_
    exact hops (op :: front) spelling value back (by rw [hback]; rfl)

lemma mem_keys_perform (r : Records h a) {key : String} (hkey : key ∈ a.profile.stats.keys)
    (op : Operation) : key ∈ (a.perform op).profile.stats.keys := by
  cases op with
  | setStat spelling value =>
    rw [Attached.perform, Profile.setStat?]
    split
    · exact Table.mem_keys_put.mpr (.inr hkey)
    · exact hkey
  | applyDefaults => exact Table.mem_keys_foldl_put.mpr (.inl hkey)
  | reopen =>
    change key ∈ (restore a.profile.snapshot).stats.keys
    rw [r.restore_snapshot]
    exact (a.profile.stats.sorted_perm.map Prod.fst).mem_iff.mpr hkey
  | rebuild schema => exact hkey
  | clear => exact hkey
  | setName name => exact hkey
  | setMetadata key' value => exact hkey

lemma mem_keys_after (r : Records h a) {key : String} (hkey : key ∈ a.profile.stats.keys)
    (ops : List Operation) : key ∈ (a.after ops).profile.stats.keys := by
  induction ops generalizing h a with
  | nil => exact hkey
  | cons op ops ih => exact ih (r.perform op) (r.mem_keys_perform hkey op)

end Attached.Records

/-- Whatever happens to a new profile and its registry, the registry is the one of the last schema,
and the profile stores each attribute at most once and keeps the latest accepted write to it. A stat
can be written and read unless a schema is in force that does not declare it; while it is not
declared, its value waits. Defaults count as writes to the declared attributes that have none. -/
theorem stats_follow_history (id : EntityId) (name : String) (ops : List Operation) :
    let a := (Attached.new id name).after ops
    let h := History.ofOperations ops
    (a.registry.loaded = h.schema.isSome ∧ a.registry.knownKeys = h.keys ∧
      a.registry.knownKeys.Nodup) ∧
    ((∀ key ∈ a.profile.stats.keys, canonicalKey key = key) ∧ a.profile.stats.keys.Nodup) ∧
    (∀ key value,
      (a.profile.setStat? a.registry key value = none ↔
        a.registry.loaded = true ∧ canonicalKey key ∉ a.registry.knownKeys) ∧
      (a.profile.setStat? a.registry key value = none → a.perform (.setStat key value) = a)) ∧
    (∀ key,
      a.profile.stats.get? key = h.latest key ∧
      a.profile.stat? a.registry key =
        if a.registry.loaded = true ∧ canonicalKey key ∉ a.registry.knownKeys then none
        else h.latest (canonicalKey key)) ∧
    (a.profile.missingDefaults a.registry = h.missing ∧
      ((a.profile.missingDefaults a.registry).map Prod.fst =
        a.registry.knownKeys.filter fun key => !a.profile.stats.has key) ∧
      (a.profile.missingDefaults a.registry).length =
        (a.registry.knownKeys.filter fun key => !a.profile.stats.has key).length) ∧
    ∀ more,
      let b := a.after more
      (∀ key ∈ a.profile.stats.keys, key ∈ b.profile.stats.keys) ∧
      ∀ key x, a.profile.stats.get? (canonicalKey key) = some x →
        (∀ front spelling value back, more = front ++ .setStat spelling value :: back →
          canonicalKey spelling = canonicalKey key →
          (a.after front).profile.setStat? (a.after front).registry spelling value = none) →
        (b.registry.loaded = true → canonicalKey key ∈ b.registry.knownKeys) →
        b.profile.stat? b.registry key = some x := by
  intro a h
  have r : a.Records h := (Attached.Records.records_new id name).after ops
  refine ⟨⟨?_, ?_, ?_⟩, ⟨r.canonical, r.nodup⟩,
    fun key value => ⟨r.setStat?_eq_none_iff key value, ?_⟩,
    fun key => ⟨r.latest key, r.stat?_eq key⟩,
    ⟨r.missingDefaults, r.missingDefaults_keys, r.length_missingDefaults⟩, ?_⟩
  · rw [r.registry, h.loaded_registry]
  · rw [r.registry, h.knownKeys_registry]
  · rw [r.registry]
    exact h.nodup_knownKeys_registry
  · intro hset
    rw [Attached.perform, hset, Option.getD_none]
  · intro more b
    refine ⟨fun key hkey => r.mem_keys_after hkey more, fun key x hx hmore hknown => ?_⟩
    have rb : b.Records (more.foldl History.record h) := r.after more
    have hkept : b.profile.stats.get? (canonicalKey key) = some x := r.get?_after hx more hmore
    rw [rb.stat?_eq, if_neg (fun hunknown => hunknown.2 (hknown hunknown.1)), ← rb.latest, hkept]

theorem stats_follow_history_redeclared :
    let health : Schema := .category [("Max HP", .leaf ⟨none, 10, none⟩)]
    let mana : Schema := .category [("MP", .leaf ⟨none, 3, none⟩)]
    let a := (Attached.new ⟨7⟩ "A").after [.rebuild health, .setStat "max-hp" 5]
    let b := a.after [.rebuild mana, .setStat "Max HP" 9, .applyDefaults, .rebuild health]
    b.profile.stats.keys = ["max_hp", "mp"] ∧ b.profile.stat? b.registry " MAX HP" = some 5 := by
  intro health mana a b
  obtain ⟨-, -, -, -, -, hmore⟩ :=
    stats_follow_history ⟨7⟩ "A" [.rebuild health, .setStat "max-hp" 5]
  obtain ⟨-, hkept⟩ := hmore [.rebuild mana, .setStat "Max HP" 9, .applyDefaults, .rebuild health]
  refine ⟨by decide +kernel, hkept " MAX HP" 5 (by decide +kernel) ?_ (by decide +kernel)⟩
  intro front spelling value back hsplit _
  match front with
  | [] => cases hsplit
  | [o] =>
    cases hsplit
    exact Option.isNone_iff_eq_none.mp (by decide +kernel)
  | [o, p] => cases hsplit
  | [o, p, q] => cases hsplit
  | o :: p :: q :: u :: front => simp at hsplit

end DerivedStats.Profile
