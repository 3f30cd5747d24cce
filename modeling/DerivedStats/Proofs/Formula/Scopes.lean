import DerivedStats.Formula.Context
import DerivedStats.Proofs.Formula.RandomFree
import DerivedStats.Proofs.Table.Listing

/-! A formula without random calls has one meaning in a plain table of values and in a context in
which the same names are bound, as long as no entity has a stat that the formula could read. -/

namespace DerivedStats.Formula

open Attribute (Registry)

def Context.bindAll (c : Context) (bs : List (String × Float)) : Context :=
  bs.foldl (fun c b => c.bind b.1 b.2) c

def Expr.relevant (e : Expr) (bs : List (String × Float)) : List (String × Float) :=
  bs.filter fun b => b.1 ∈ e.variables

def Context.Silent (c : Context) (e : Expr) : Prop :=
  ∀ name ∈ e.variables, c.bindings.get? name = none → ∀ r, Reference.ofName? name = some r →
    ∀ p, c.entities.get? r.role = some p → p.stat? c.registry r.key = none

lemma Context.bindAll_eq (c : Context) (bs : List (String × Float)) :
    c.bindAll bs = { c with bindings := bs.foldl (fun t b => t.put b.1 b.2) c.bindings } := by
  induction bs generalizing c with
  | nil => rfl
  | cons b bs ih => exact ih (c.bind b.1 b.2)

lemma Context.resolve_of_silent {c : Context} {e : Expr} (h : c.Silent e) {name : String}
    (hname : name ∈ e.variables) : c.resolve name = (c.bindings.get? name).getD 0 := by
  rw [resolve]
  cases hbound : c.bindings.get? name with
  | some x => rfl
  | none =>
    cases href : Reference.ofName? name with
    | none => rfl
    | some r =>
      dsimp only
      cases hentity : c.entities.get? r.role with
      | none => rfl
      | some p =>
        rw [Option.elim_some, Profile.stat, h name hname hbound r href p hentity]

lemma Context.silent_none (r : Registry) (t : Table String Float) (e : Expr) :
    (Context.mk r .none t).Silent e := by
  intro name _ _ ref _ p hentity
  cases hrole : ref.role <;> simp [hrole, Entities.get?, Entities.none] at hentity

lemma get?_relevant {e : Expr} {bs more : List (String × Float)}
    (h : e.relevant more = e.relevant bs) {name : String} (hname : name ∈ e.variables) :
    (Table.ofPairs more).get? name = (Table.ofPairs bs).get? name := by
  have hlast (bs : List (String × Float)) :
      (Table.ofPairs bs).get? name = Table.get? (e.relevant bs).reverse name := by
    rw [Table.get?_ofPairs, Expr.relevant, ← List.filter_reverse]
    exact (Table.get?_filter (· ∈ e.variables) (decide_eq_true hname) bs.reverse).symm
  rw [hlast, hlast, h]

lemma evaluate_of_agree {e : Expr} (hfree : e.randomFree) {s t : Scope}
    (h : ∀ name ∈ e.variables, t.value name = s.value name) (n : Nat) :
    e.evaluate t n = ((e.evaluate s 0).1, n) := by
  have halike := sample_endAlike e h
  rw [randomCalls_eq_zero hfree] at halike
  obtain ⟨result, k, hk, ht, hs⟩ := halike n 0 fun _ hk => absurd hk (Nat.not_lt_zero _)
  obtain rfl := Nat.le_zero.mp hk
  rw [Expr.evaluate, Expr.evaluate, ht, hs, Nat.add_zero]

/-- A formula without random calls gives the same value or the same error for every source of
samples in a table filled from a list of bindings and in a context in which they are bound one after
the other. Further bindings of names that the formula does not list change nothing, wherever they
stand in the list, and neither do entities that have none of the stats it could read. -/
theorem plain_bindings_suffice (e : Expr) (hfree : e.randomFree) (bs : List (String × Float)) :
    ∃ result, ∀ unit n,
      e.evaluate (.ofTable (Table.ofPairs bs) unit) n = (result, n) ∧
      (∀ registry, e.evaluate (((Context.mk registry .none []).bindAll bs).scope unit) n =
        (result, n)) ∧
      ∀ more, e.relevant more = e.relevant bs →
        e.evaluate (.ofTable (Table.ofPairs more) unit) n = (result, n) ∧
        ∀ registry entities, ((Context.mk registry entities []).bindAll more).Silent e →
          e.evaluate (((Context.mk registry entities []).bindAll more).scope unit) n =
            (result, n) := by
  let plain : Scope := .ofTable (Table.ofPairs bs) fun _ => 0
  have htable (more) (hmore : e.relevant more = e.relevant bs) (unit n) :
      e.evaluate (.ofTable (Table.ofPairs more) unit) n = ((e.evaluate plain 0).1, n) :=
    evaluate_of_agree hfree (fun name hname => by
      change ((Table.ofPairs more).get? name).getD 0 = ((Table.ofPairs bs).get? name).getD 0
      rw [get?_relevant hmore hname]) n
  have hcontext (more) (hmore : e.relevant more = e.relevant bs) (registry entities)
      (hsilent : ((Context.mk registry entities []).bindAll more).Silent e) (unit n) :
      e.evaluate (((Context.mk registry entities []).bindAll more).scope unit) n =
        ((e.evaluate plain 0).1, n) :=
    evaluate_of_agree hfree (fun name hname => by
      change Context.resolve _ name = ((Table.ofPairs bs).get? name).getD 0
      rw [Context.resolve_of_silent hsilent hname, Context.bindAll_eq,
        ← get?_relevant hmore hname]
      rfl) n
  refine ⟨_, fun unit n => ⟨htable bs rfl unit n, fun registry => ?_, fun more hmore => ?_⟩⟩
  · refine hcontext bs rfl registry .none ?_ unit n
    rw [Context.bindAll_eq]
    exact Context.silent_none _ _ e
  · exact ⟨htable more hmore unit n,
      fun registry entities hsilent => hcontext more hmore registry entities hsilent unit n⟩

def charge : Expr :=
  .binary .add (.var "attacker_STR") (.call .max [.var "x", .var "entity-status#DEF#target"])

def joust : Entities :=
  ⟨some ⟨⟨1⟩, "Knight", [("str", 30)], []⟩, some ⟨⟨2⟩, "Dragon", [("max_health", 90)], []⟩⟩

theorem plain_bindings_suffice_charge :
    let bs : List (String × Float) := [("x", 1), ("attacker_STR", 5), ("x", 2)]
    let more : List (String × Float) := [("x", 1), ("attacker_STR", 5), ("y", 9), ("x", 2)]
    let c : Context := (Context.mk .unloaded joust []).bindAll more
    charge.randomFree = true ∧ charge.relevant more = charge.relevant bs ∧ c.Silent charge ∧
    ∃ result, ∀ unit n,
      charge.evaluate (.ofTable (Table.ofPairs bs) unit) n = (result, n) ∧
      charge.evaluate (.ofTable (Table.ofPairs more) unit) n = (result, n) ∧
      charge.evaluate (c.scope unit) n = (result, n) := by
  intro bs more c
  have hfree : charge.randomFree = true := by decide
  have hmore : charge.relevant more = charge.relevant bs := rfl
  have hsilent : c.Silent charge := by
    intro name hname hunbound r href p hentity
    have hnames : charge.variables.all (fun name => (c.bindings.get? name).isSome ||
        name == "entity-status#DEF#target") = true := by decide +kernel
    have hlast : name = "entity-status#DEF#target" := by
      simpa [hunbound] using List.all_eq_true.mp hnames name hname
    have hdefense : Reference.ofName? "entity-status#DEF#target" = some ⟨"DEF", .secondary⟩ := by
      decide +kernel
    rw [hlast, hdefense] at href
    cases href
    cases hentity
    have hkey : Attribute.canonicalKey "DEF" = "def" := by decide +kernel
    rw [Profile.stat?, hkey]
    rfl
  obtain ⟨result, hsame⟩ := plain_bindings_suffice charge hfree bs
  refine ⟨hfree, hmore, hsilent, result, fun unit n => ?_⟩
  obtain ⟨hplain, -, hothers⟩ := hsame unit n
  obtain ⟨htable, hcontext⟩ := hothers more hmore
  exact ⟨hplain, htable, hcontext .unloaded joust hsilent⟩

end DerivedStats.Formula
