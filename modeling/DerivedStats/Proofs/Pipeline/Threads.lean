import DerivedStats.Proofs.Pipeline.Lookups

/-! The update of a profile, cut into steps between which other updates may run. A look-up that
misses the cache takes two steps, one to look and one to insert what was compiled in between. -/

namespace DerivedStats.Pipeline

open Formula (Cache Expr Place Section compile)

/-- What comes next depends on what the step gives. -/
inductive Thread (α : Type) : Type 1
  | done (a : α)
  | step {β : Type} (act : Run β) (next : β → Thread α)

def keep (c : Cache) (p : Place) (e : Expr) : Expr × Cache :=
  match c.get? p with
  | some kept => (kept, ⟨c.entries, c.compilations + 1⟩)
  | none => (e, ⟨c.entries.put p e, c.compilations + 1⟩)

def seek (p : Place) : Run (Option Expr) := do return (← get).cache.get? p

def insert (p : Place) (e : Expr) : Run Expr := do
  let s ← get
  let (kept, cache) := keep s.cache p e
  set { s with cache }
  return kept

namespace Thread

def bind {α β : Type} (t : Thread α) (f : α → Thread β) : Thread β :=
  match t with
  | .done a => f a
  | .step act next => .step act fun b => (next b).bind f

instance : Monad Thread where
  pure := done
  bind := bind

def once {α : Type} (act : Run α) : Thread α := .step act .done

def alone {α : Type} : Thread α → Run α
  | .done a => return a
  | .step act next => act >>= fun b => alone (next b)

section

variable (setting : Setting) (i : Invocation)

def fetch (x : Source) : Thread (Option Expr) := do
  match ← once (seek x.place) with
  | some e => return some e
  | none =>
    match compile x.text with
    | .error err => do
      once (note (.formulaUncompiled x.place.owner x.place.part x.name x.text err))
      return none
    | .ok e => return some (← once (insert x.place e))

def evaluate (bindings : Table String Float) (x : Source) : Thread (Option Float) := do
  match ← fetch x with
  | none => return none
  | some e => once (sample setting i bindings x e)

def bindAll (owner : String) (part : Section) :
    Formulas → Table String Float → Thread (Table String Float)
  | [], bindings => return bindings
  | (name, text) :: rest, bindings => do
    let x ← evaluate setting i bindings ⟨⟨owner, part, name⟩, name, text⟩
    bindAll owner part rest (bindings.put name (x.getD 0))

def writeBack (definition : Formulas) (name : String) (value : Float) : Thread (List Write) :=
  match (definition.get? name).bind writeBackTarget? with
  | none => return []
  | some key => do
    let applied ← once (store setting i.primary key value)
    return [⟨key, value, applied⟩]

def calculateAll (owner mode : String) (definition : Formulas) :
    Formulas → Progress → Thread Progress
  | [], p => return p
  | (name, text) :: rest, p => do
    let source : Source := ⟨⟨owner, .calculate, calculationKey mode name⟩, name, text⟩
    match ← evaluate setting i p.bindings source with
    | none => calculateAll owner mode definition rest p
    | some x => do
      let writes ← writeBack setting i definition name x
      calculateAll owner mode definition rest
        ⟨p.bindings.put name x, p.outputs.put name x, p.writes ++ writes⟩

def run (owner : String) (spec : Spec) : Thread Outcome := do
  let given := Table.ofPairs i.bindings
  let defined ← bindAll setting i owner .definition spec.definition given
  let tooled ← bindAll setting i owner .tools spec.tools defined
  match spec.calculate.select? i.resolvedMode with
  | none => do
    once (note (.noCalculation owner i.resolvedMode))
    return .empty
  | some (mode, formulas) => do
    let p ← calculateAll setting i owner mode spec.definition formulas ⟨tooled, [], []⟩
    return ⟨mode, p.outputs, p.writes, Outcome.finalOf p.outputs⟩

def updateProfile (id : EntityId) : Systems → Thread (List (String × Outcome))
  | [] => return []
  | (name, spec) :: rest => do
    let outcome ← run setting (.solo id) name spec
    let outcomes ← updateProfile id rest
    return (name, outcome) :: outcomes

end

section

variable {α β : Type}

lemma alone_bind (t : Thread α) (f : α → Thread β) :
    (t >>= f).alone = t.alone >>= fun a => (f a).alone := by
  induction t with
  | done a => rfl
  | step act next ih =>
    rw [alone, bind_assoc]
    exact bind_congr fun b => ih b

lemma alone_pure (a : α) : (pure a : Thread α).alone = pure a := rfl

lemma alone_once (act : Run α) : (once act).alone = act := bind_pure act

lemma alone_fetch (x : Source) : (fetch x).alone = Pipeline.fetch x := by
  funext s
  rw [fetch, alone_bind, alone_once]
  change StateT.run (m := Id) (alone _) s = (Pipeline.fetch x).run s
  simp only [Pipeline.fetch, StateT.run_bind, StateT.run_get, StateT.run_set, pure_bind, Cache.fetch]
  cases hcached : s.cache.get? x.place with
  | some e => rfl
  | none =>
    cases compile x.text with
    | error err => rfl
    | ok e =>
      change (some (keep s.cache x.place e).1, { s with cache := (keep s.cache x.place e).2 }) = _
      rw [keep, hcached]
      rfl

variable (setting : Setting) (i : Invocation)

lemma alone_evaluate (bindings : Table String Float) (x : Source) :
    (evaluate setting i bindings x).alone = Pipeline.evaluate setting i bindings x := by
  rw [evaluate, alone_bind, alone_fetch]
  refine bind_congr fun found => ?_
  cases found with
  | none => rfl
  | some e => exact alone_once _

lemma alone_bindAll (owner : String) (part : Section) (formulas : Formulas)
    (bindings : Table String Float) :
    (bindAll setting i owner part formulas bindings).alone =
      Pipeline.bindAll setting i owner part formulas bindings := by
  induction formulas generalizing bindings with
  | nil => rfl
  | cons f rest ih =>
    rw [bindAll, alone_bind, alone_evaluate]
    exact bind_congr fun x => ih _

lemma alone_writeBack (definition : Formulas) (name : String) (value : Float) :
    (writeBack setting i definition name value).alone =
      Pipeline.writeBack setting i definition name value := by
  rw [writeBack, Pipeline.writeBack]
  cases (definition.get? name).bind writeBackTarget? with
  | none => rfl
  | some key =>
    simp only [alone_bind, alone_once, alone_pure]

lemma alone_calculateAll (owner mode : String) (definition formulas : Formulas) (p : Progress) :
    (calculateAll setting i owner mode definition formulas p).alone =
      Pipeline.calculateAll setting i owner mode definition formulas p := by
  induction formulas generalizing p with
  | nil => rfl
  | cons f rest ih =>
    rw [calculateAll, alone_bind, alone_evaluate]
    refine bind_congr fun result => ?_
    cases result with
    | none => exact ih p
    | some x =>
      simp only [alone_bind, alone_writeBack]
      exact bind_congr fun writes => ih _

lemma alone_run (owner : String) (spec : Spec) :
    (run setting i owner spec).alone = Pipeline.run setting owner spec i := by
  simp only [run, alone_bind, alone_bindAll]
  refine bind_congr fun defined => bind_congr fun tooled => ?_
  cases spec.calculate.select? i.resolvedMode with
  | none => simp only [alone_bind, alone_once, alone_pure]
  | some selected => simp only [alone_bind, alone_calculateAll, alone_pure]

theorem alone_updateProfile (id : EntityId) (systems : Systems) :
    (updateProfile setting id systems).alone = Pipeline.updateProfile setting id systems := by
  induction systems with
  | nil => rfl
  | cons system rest ih => simp only [updateProfile, alone_bind, alone_run, ih]; rfl

end

end Thread

end DerivedStats.Pipeline
