import DerivedStats.Engine
import DerivedStats.Proofs.Formula.Fetching
import DerivedStats.Proofs.Table.Listing
import Mathlib.Data.List.DropRight

/-! The cache of an engine as a memo. A place holds the tree of the first text that compiled there
since the cache was last emptied. -/

namespace DerivedStats.Formula.Cache

open Lifecycle (Phase)

inductive Call
  | fetch (place : Place) (text : String)
  | get (place : Place)
  | clear
  | phase (phase : Phase)

def perform (e : Engine) : Call → Engine
  | .fetch p text => { e with cache := (e.cache.fetch p text).2 }
  | .get _ => e
  | .clear => { e with cache := e.cache.clear }
  | .phase phase => (Engine.cacheComponent.call phase e).state

def after (e : Engine) (calls : List Call) : Engine := calls.foldl perform e

def history (e : Engine) : List Call → List (Call × Cache)
  | [] => []
  | call :: calls => (call, e.cache) :: history (perform e call) calls

structure Success where
  place : Place
  text : String
  tree : Expr

def success? : Call × Cache → Option Success
  | (.fetch p text, c) => (c.fetch p text).1.toOption.map (⟨p, text, ·⟩)
  | _ => none

def isMiss : Call × Cache → Bool
  | (.fetch p _, c) => (c.get? p).isNone
  | _ => false

def Call.empties : Call → Bool
  | .clear | .phase .reload | .phase .shutdown => true
  | _ => false

def successes (h : List (Call × Cache)) : List Success :=
  (h.rtakeWhile fun m => !m.1.empties).filterMap success?

def successfulMisses (h : List (Call × Cache)) : Nat :=
  h.countP fun m => isMiss m && (success? m).isSome

def placesOf (ss : List Success) : List Place := (ss.map Success.place).eraseDups

def first? (ss : List Success) (p : Place) : Option Success := ss.find? (·.place = p)

lemma after_concat (e : Engine) (calls : List Call) (call : Call) :
    after e (calls ++ [call]) = perform (after e calls) call := List.foldl_append

lemma history_append (e : Engine) (calls more : List Call) :
    history e (calls ++ more) = history e calls ++ history (after e calls) more := by
  induction calls generalizing e with
  | nil => rfl
  | cons call calls ih =>
    rw [List.cons_append, history, history, ih]
    rfl

lemma successes_concat (h : List (Call × Cache)) (m : Call × Cache) :
    successes (h ++ [m]) = if m.1.empties then [] else successes h ++ (success? m).toList := by
  rw [successes, List.rtakeWhile_concat]
  cases m.1.empties with
  | true => simp
  | false => cases hm : success? m <;> simp [successes, hm]

lemma placesOf_concat (ss : List Success) (s : Success) :
    placesOf (ss ++ [s]) =
      if s.place ∈ placesOf ss then placesOf ss else placesOf ss ++ [s.place] := by
  simp only [placesOf, List.map_append, List.map_singleton, Table.eraseDups_concat,
    List.mem_eraseDups]

lemma first?_concat (ss : List Success) (s : Success) (p : Place) :
    first? (ss ++ [s]) p = (first? ss p).or (if s.place = p then some s else none) := by
  rw [first?, List.find?_append, first?]
  congr 1
  by_cases h : s.place = p <;> simp [h]

structure Holds (ss : List Success) (c : Cache) : Prop where
  places : c.entries.keys = placesOf ss
  trees : ∀ s ∈ ss, c.get? s.place = some s.tree
  compiled : ∀ p s, first? ss p = some s → compile s.text = .ok s.tree

namespace Holds

variable {ss : List Success} {c : Cache}

lemma of_empty (h : c.entries = []) : Holds [] c where
  places := by rw [h]; rfl
  trees _ hs := absurd hs List.not_mem_nil
  compiled _ _ hs := by cases hs

lemma mem_places (h : Holds ss c) {p : Place} : p ∈ placesOf ss ↔ c.get? p ≠ none := by
  rw [← h.places, ne_eq, get?, Table.get?_eq_none_iff, not_not]

lemma get?_eq (h : Holds ss c) (p : Place) :
    c.get? p = (first? ss p).bind fun s => (compile s.text).toOption := by
  cases hs : first? ss p with
  | none =>
    have hnew : p ∉ placesOf ss := by
      rw [placesOf, List.mem_eraseDups, List.mem_map]
      rintro ⟨s, hmem, rfl⟩
      simpa using List.find?_eq_none.mp hs s hmem
    simpa using mt h.mem_places.mpr hnew
  | some s =>
    have hplace : s.place = p := by simpa using List.find?_some hs
    rw [← hplace, h.trees s (List.mem_of_find?_eq_some hs), Option.bind_some, h.compiled p s hs]
    rfl

lemma hit (h : Holds ss c) {p : Place} {e : Expr} (he : c.get? p = some e) (text : String) :
    Holds (ss ++ [⟨p, text, e⟩]) c where
  places := by
    have hmem : p ∈ placesOf ss := h.mem_places.mpr (by rw [he]; exact Option.some_ne_none e)
    rw [placesOf_concat, if_pos hmem, h.places]
  trees := by
    simp only [List.forall_mem_append, List.forall_mem_singleton]
    exact ⟨h.trees, he⟩
  compiled q s hs := by
    rw [first?_concat] at hs
    obtain hold | ⟨hnone, hnew⟩ := Option.or_eq_some_iff.mp hs
    · exact h.compiled q s hold
    · -- a place that is known had its first success before
      obtain ⟨rfl, -⟩ := (Option.ite_none_right_eq_some ..).mp hnew
      rw [h.get?_eq, hnone] at he
      cases he

lemma miss (h : Holds ss c) {p : Place} {text : String} {e : Expr} (hnone : c.get? p = none)
    (he : compile text = .ok e) (n : Nat) :
    Holds (ss ++ [⟨p, text, e⟩]) ⟨c.entries.put p e, n⟩ where
  places := by
    have hnew : p ∉ placesOf ss := fun hmem => h.mem_places.mp hmem hnone
    have hkey : p ∉ c.entries.keys := h.places ▸ hnew
    rw [placesOf_concat, if_neg hnew, Table.keys_put, if_neg hkey, h.places]
  trees := by
    simp only [List.forall_mem_append, List.forall_mem_singleton]
    refine ⟨fun s hs => ?_, ?_⟩
    · have hne : s.place ≠ p := by
        rintro rfl
        rw [h.trees s hs] at hnone
        cases hnone
      rw [get?, Table.get?_put, if_neg hne]
      exact h.trees s hs
    · rw [get?, Table.get?_put, if_pos rfl]
  compiled q s hs := by
    rw [first?_concat] at hs
    obtain hold | ⟨-, hnew⟩ := Option.or_eq_some_iff.mp hs
    · exact h.compiled q s hold
    · obtain ⟨-, heq⟩ := (Option.ite_none_right_eq_some ..).mp hnew
      rw [← Option.some.inj heq]
      exact he

end Holds

structure Memo (h : List (Call × Cache)) (c : Cache) : Prop where
  holds : Holds (successes h) c
  counted : c.compilations = successfulMisses h
  bounded : c.size ≤ c.compilations

namespace Memo

variable {h : List (Call × Cache)} {c : Cache}

lemma idle (hm : Memo h c) {call : Call} (hnone : success? (call, c) = none)
    (hkeeps : call.empties = false) : Memo (h ++ [(call, c)]) c where
  holds := by
    rw [successes_concat, hkeeps, hnone]
    simpa using hm.holds
  counted := by simp [successfulMisses, hnone, hm.counted]
  bounded := hm.bounded

lemma emptied (hm : Memo h c) {call : Call} (hnone : success? (call, c) = none)
    (hempties : call.empties = true) : Memo (h ++ [(call, c)]) c.clear where
  holds := by
    rw [successes_concat, hempties]
    exact .of_empty rfl
  counted := by simp [successfulMisses, hnone, hm.counted, clear]
  bounded := Nat.zero_le _

lemma succeeded (hm : Memo h c) {call : Call} {s : Success} {next : Cache}
    (hkeeps : call.empties = false) (hs : success? (call, c) = some s)
    (hnext : Holds (successes h ++ [s]) next)
    (hcount : next.compilations = c.compilations + if isMiss (call, c) then 1 else 0)
    (hsize : next.size ≤ next.compilations) : Memo (h ++ [(call, c)]) next where
  holds := by
    rw [successes_concat, hkeeps, hs]
    exact hnext
  counted := by simp [successfulMisses, List.countP_singleton, hs, hcount, hm.counted]
  bounded := hsize

lemma fetch (hm : Memo h c) (p : Place) (text : String) :
    Memo (h ++ [(.fetch p text, c)]) (c.fetch p text).2 := by
  have hgives {r : Except CompileError Expr} (hr : (c.fetch p text).1 = r) :
      success? (.fetch p text, c) = r.toOption.map (⟨p, text, ·⟩) := by rw [success?, hr]
  obtain ⟨e, he, hfetch⟩ | ⟨e, hnone, he, hfetch⟩ | ⟨err, hnone, herr, hfetch⟩ :=
    c.fetch_cases p text
  · rw [hfetch]
    refine hm.succeeded rfl (hgives (congrArg Prod.fst hfetch)) (hm.holds.hit he text) ?_ hm.bounded
    simp [isMiss, he]
  · rw [hfetch]
    refine hm.succeeded rfl (hgives (congrArg Prod.fst hfetch)) (hm.holds.miss hnone he _) ?_ ?_
    · simp [isMiss, hnone]
    · have hkey : p ∉ c.entries.keys := Table.get?_eq_none_iff.mp hnone
      rw [size, Table.put_of_not_mem hkey, List.length_append]
      exact Nat.succ_le_succ hm.bounded
  · rw [hfetch]
    exact hm.idle (hgives (congrArg Prod.fst hfetch)) rfl

lemma perform {e : Engine} (hm : Memo h e.cache) (call : Call) :
    Memo (h ++ [(call, e.cache)]) (perform e call).cache := by
  cases call with
  | fetch p text => exact hm.fetch p text
  | get p => exact hm.idle rfl rfl
  | clear => exact hm.emptied rfl rfl
  | phase phase =>
    cases phase with
    | init => exact hm.idle rfl rfl
    | reload => exact hm.emptied rfl rfl
    | shutdown => exact hm.emptied rfl rfl

lemma after {e : Engine} (hempty : e.cache = empty) (calls : List Call) :
    Memo (history e calls) (after e calls).cache := by
  induction calls using List.reverseRecOn with
  | nil =>
    refine ⟨.of_empty ?_, ?_, ?_⟩ <;> rw [Cache.after, List.foldl_nil, hempty] <;> rfl
  | append_singleton calls call ih =>
    rw [history_append, after_concat]
    exact ih.perform call

end Memo

/-- After any calls of the cache of a new engine each place holds the tree of the text that first
succeeded there since the cache was last emptied, and every success since then gave this tree. A
text that does not compile gives its own error at a place that holds nothing, and leaves the cache
as it was. As many places are stored as there were successes at, and the compilations, which no call
resets, are the successful misses of the whole history. -/
theorem cache_follows_history (config : Config) (storage : Roster.Storage) (calls : List Call) :
    let e := Engine.new config storage
    let c := (after e calls).cache
    let ss := successes (history e calls)
    (∀ p, c.get? p = (first? ss p).bind fun s => (compile s.text).toOption) ∧
    (∀ s ∈ ss, c.get? s.place = some s.tree) ∧
    (∀ p text err, (c.fetch p text).1 = .error err ↔
      c.get? p = none ∧ compile text = .error err) ∧
    (∀ p text err, (c.fetch p text).1 = .error err → (c.fetch p text).2 = c) ∧
    c.size = (placesOf ss).length ∧
    c.compilations = successfulMisses (history e calls) ∧
    (∀ more, c.compilations ≤ (after e (calls ++ more)).cache.compilations) ∧
    c.size ≤ c.compilations := by
  intro e c ss
  have hmemo : ∀ calls, Memo (history e calls) (after e calls).cache := Memo.after rfl
  obtain ⟨hholds, hcounted, hbounded⟩ := hmemo calls
  refine ⟨hholds.get?_eq, hholds.trees, fun _ _ _ => fetch_fst_eq_error_iff,
    fun _ _ _ => fetch_snd_of_error, ?_, hcounted, fun more => ?_, hbounded⟩
  · rw [← hholds.places, size, Table.keys, List.length_map]
  · rw [hcounted, (hmemo (calls ++ more)).counted, history_append, successfulMisses,
      successfulMisses, List.countP_append]
    exact Nat.le_add_right _ _

theorem cache_follows_history_cleared :
    let p : Place := ⟨"Health", .tools, "base"⟩
    let q : Place := ⟨"Health", .tools, "bonus"⟩
    let calls : List Call :=
      [.fetch p "1 + 1", .fetch q "3", .clear, .fetch p "1 +", .phase .init, .fetch p "40 + 2",
        .fetch p "1 + 1"]
    let e := Engine.new Config.empty ⟨⟨[], [], []⟩, .memory [] 0⟩
    let c := (after e calls).cache
    c.get? p = (compile "40 + 2").toOption ∧ c.get? q = none ∧
    (∃ s ∈ successes (history e calls), s.text = "1 + 1" ∧ c.get? s.place = some s.tree) ∧
    (∃ err, (c.fetch q "1 +").1 = .error err ∧ (c.fetch q "1 +").2 = c) ∧
    c.size = 1 ∧ c.compilations = 3 := by
  intro p q calls e c
  obtain ⟨hget, htrees, herror, hkept, hsize, hcount, -, -⟩ :=
    cache_follows_history Config.empty ⟨⟨[], [], []⟩, .memory [] 0⟩ calls
  have hfirst : (first? (successes (history e calls)) p).map Success.text = some "40 + 2" := by
    decide +kernel
  have hnone : (first? (successes (history e calls)) q).isNone = true := by decide +kernel
  have hlater : "1 + 1" ∈ (successes (history e calls)).map Success.text := by decide +kernel
  have hrefused : (compile "1 +").toOption.isNone = true := by decide +kernel
  have hgone : c.get? q = none := by
    rw [hget, Option.isNone_iff_eq_none.mp hnone, Option.bind_none]
  refine ⟨?_, hgone, ?_, ?_, ?_, ?_⟩
  · obtain ⟨s, hs, htext⟩ := Option.map_eq_some_iff.mp hfirst
    rw [hget, hs, Option.bind_some, htext]
  · obtain ⟨s, hs, htext⟩ := List.mem_map.mp hlater
    exact ⟨s, hs, htext, htrees s hs⟩
  · cases herr : compile "1 +" with
    | ok tree =>
      rw [herr] at hrefused
      cases hrefused
    | error err =>
      have hanswer : (c.fetch q "1 +").1 = .error err := (herror q "1 +" err).mpr ⟨hgone, herr⟩
      exact ⟨err, hanswer, hkept q "1 +" err hanswer⟩
  · rw [hsize]
    decide +kernel
  · rw [hcount]
    decide +kernel

end DerivedStats.Formula.Cache
