import DerivedStats.Proofs.Pipeline.Lookups

/-! Sequences of calls on one cache, and the same calls with the cache changed before every look-up
of a formula. -/

namespace DerivedStats.Pipeline

open Formula (Cache Section)

section Prepared

variable (prepare : Cache → Cache) (setting : Setting) (i : Invocation)

def prepared : Run Unit := modify fun s => { s with cache := prepare s.cache }

def evaluateAfter (bindings : Table String Float) (source : Source) : Run (Option Float) := do
  prepared prepare
  evaluate setting i bindings source

def bindAllAfter (owner : String) (part : Section) :
    Formulas → Table String Float → Run (Table String Float)
  | [], bindings => return bindings
  | (name, text) :: rest, bindings => do
    let x ← evaluateAfter prepare setting i bindings ⟨⟨owner, part, name⟩, name, text⟩
    bindAllAfter owner part rest (bindings.put name (x.getD 0))

def calculateAllAfter (owner mode : String) (definition : Formulas) :
    Formulas → Progress → Run Progress
  | [], p => return p
  | (name, text) :: rest, p => do
    let source : Source := ⟨⟨owner, .calculate, calculationKey mode name⟩, name, text⟩
    match ← evaluateAfter prepare setting i p.bindings source with
    | none => calculateAllAfter owner mode definition rest p
    | some x => do
      let writes ← writeBack setting i definition name x
      calculateAllAfter owner mode definition rest
        ⟨p.bindings.put name x, p.outputs.put name x, p.writes ++ writes⟩

def runAfter (owner : String) (spec : Spec) : Run Outcome := do
  let given := Table.ofPairs i.bindings
  let defined ← bindAllAfter prepare setting i owner .definition spec.definition given
  let tooled ← bindAllAfter prepare setting i owner .tools spec.tools defined
  match spec.calculate.select? i.resolvedMode with
  | none => do
    note (.noCalculation owner i.resolvedMode)
    return .empty
  | some (mode, formulas) => do
    let p ← calculateAllAfter prepare setting i owner mode spec.definition formulas ⟨tooled, [], []⟩
    return ⟨mode, p.outputs, p.writes, Outcome.finalOf p.outputs⟩

def updateProfileAfter (id : EntityId) : Systems → Run (List (String × Outcome))
  | [] => return []
  | (name, spec) :: rest => do
    let outcome ← runAfter prepare setting (.solo id) name spec
    let outcomes ← updateProfileAfter id rest
    return (name, outcome) :: outcomes

end Prepared

inductive Call
  | run (owner : String) (spec : Spec) (i : Invocation)
  | damage (battle : Battle) (attacker : EntityId) (defender : Option EntityId) (attack : Attack)
  | update (id : EntityId) (systems : Systems)
  | calculate (text : String) (primary secondary : Option EntityId)
  | clear

inductive Reply
  | outcome (o : Outcome)
  | outcomes (os : List (String × Outcome))
  | value (x : Float)
  | done

namespace Call

def lookups : Call → List Source
  | run owner spec i => spec.lookups owner i.resolvedMode
  | damage b attacker defender a =>
    b.spec.lookups battleOwner (a.invocation b attacker defender).resolvedMode
  | update id systems => systemLookups systems (Invocation.solo id).resolvedMode
  | calculate text _ _ => [⟨⟨Engine.adhocOwner, .adhoc, text⟩, text, text⟩]
  | clear => []

def perform (setting : Setting) : Call → Run Reply
  | run owner spec i => return .outcome (← Pipeline.run setting owner spec i)
  | damage b attacker defender a => return .outcome (← computeDamage setting b attacker defender a)
  | update id systems => return .outcomes (← updateProfile setting id systems)
  | calculate text primary secondary =>
    return .value (← Engine.calculateRun text primary secondary setting)
  | clear => do
    prepared Cache.clear
    return .done

def performAfter (prepare : Cache → Cache) (setting : Setting) : Call → Run Reply
  | run owner spec i => return .outcome (← runAfter prepare setting i owner spec)
  | damage b attacker defender a =>
    return .outcome
      (← runAfter prepare setting (a.invocation b attacker defender) battleOwner b.spec)
  | update id systems => return .outcomes (← updateProfileAfter prepare setting id systems)
  | calculate text primary secondary => do
    prepared prepare
    return .value (← Engine.calculateRun text primary secondary setting)
  | clear => do
    prepared Cache.clear
    return .done

lemma looks (setting : Setting) (call : Call) (hclear : call ≠ .clear) :
    Looks call.lookups (call.perform setting) := by
  cases call with
  | run owner spec i => exact (Looks.run setting owner spec i).map _
  | damage b attacker defender a => exact (Looks.run setting battleOwner b.spec _).map _
  | update id systems => exact (Looks.updateProfile setting id systems).map _
  | calculate text primary secondary => exact (Looks.calculate text primary secondary setting).map _
  | clear => exact absurd rfl hclear

end Call

structure Observation where
  reply : Reply
  profiles : Profiles
  drawn : Nat
  notices : List Notice

def observe (act : Call → Run Reply) : List Call → Session → List Observation
  | [], _ => []
  | call :: calls, s =>
    let (reply, s) := (act call).run s
    ⟨reply, s.profiles, s.drawn, s.notices⟩ :: observe act calls s

lemma observe_cons (act : Call → Run Reply) (call : Call) (calls : List Call) (s : Session) :
    observe act (call :: calls) s =
      ⟨((act call).run s).1, ((act call).run s).2.profiles, ((act call).run s).2.drawn,
        ((act call).run s).2.notices⟩ :: observe act calls ((act call).run s).2 := rfl

lemma prepared_id : prepared id = pure () := rfl

lemma evaluateAfter_id (setting : Setting) (i : Invocation) (bindings : Table String Float)
    (source : Source) :
    evaluateAfter id setting i bindings source = evaluate setting i bindings source := rfl

lemma bindAllAfter_id (setting : Setting) (i : Invocation) (owner : String) (part : Section)
    (formulas : Formulas) (bindings : Table String Float) :
    bindAllAfter id setting i owner part formulas bindings
      = bindAll setting i owner part formulas bindings := by
  induction formulas generalizing bindings with
  | nil => rfl
  | cons f rest ih =>
    obtain ⟨name, text⟩ := f
    simp only [bindAllAfter, bindAll, evaluateAfter_id, ih]

lemma calculateAllAfter_id (setting : Setting) (i : Invocation) (owner mode : String)
    (definition formulas : Formulas) (p : Progress) :
    calculateAllAfter id setting i owner mode definition formulas p
      = calculateAll setting i owner mode definition formulas p := by
  induction formulas generalizing p with
  | nil => rfl
  | cons f rest ih =>
    refine bind_congr fun result => ?_
    cases result with
    | none => exact ih p
    | some x => exact bind_congr fun writes => ih _

lemma runAfter_id (setting : Setting) (i : Invocation) (owner : String) (spec : Spec) :
    runAfter id setting i owner spec = run setting owner spec i := by
  simp only [runAfter, run, bindAllAfter_id]
  refine bind_congr fun defined => bind_congr fun tooled => ?_
  cases spec.calculate.select? i.resolvedMode with
  | none => rfl
  | some selected =>
    change (calculateAllAfter id setting i owner _ _ _ _ >>= _) = (calculateAll _ _ _ _ _ _ _ >>= _)
    rw [calculateAllAfter_id]

lemma updateProfileAfter_id (setting : Setting) (id' : EntityId) (systems : Systems) :
    updateProfileAfter id setting id' systems = updateProfile setting id' systems := by
  induction systems with
  | nil => rfl
  | cons system rest ih =>
    obtain ⟨name, spec⟩ := system
    simp only [updateProfileAfter, updateProfile, runAfter_id, ih]

theorem Call.performAfter_id (setting : Setting) (call : Call) :
    call.performAfter id setting = call.perform setting := by
  cases call <;> simp only [performAfter, perform, computeDamage, runAfter_id,
    updateProfileAfter_id, prepared_id, pure_bind]

end DerivedStats.Pipeline
