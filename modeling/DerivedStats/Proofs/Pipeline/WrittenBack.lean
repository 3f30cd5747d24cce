import DerivedStats.Proofs.Formula.Depth
import DerivedStats.Proofs.Formula.References
import DerivedStats.Proofs.Pipeline.Isolation
import DerivedStats.Proofs.Table.Listing

/-! A result is written back to the attribute that its definition reads. The text of a definition is
read twice, by the compiler and in search of a target, and both readings find the same stat. -/

namespace DerivedStats.Pipeline

open Attribute (canonicalKey)
open Formula (Cache Context Entities Expr Reference Role compile)

lemma target_is_reference {text key : String} (h : writeBackTarget? text = some key) :
    ∃ n, compile text = .ok (.var n) ∧ Reference.dynamic? n = some ⟨key, .primary⟩ := by
  obtain ⟨name, hdynamic, hcompile⟩ := writeBackTarget?_eq_some h
  exact ⟨_, hcompile, Reference.dynamic?_trimmed hdynamic⟩

def Composite (e : Expr) : Prop :=
  0 < e.operatorCount ∨ (∃ path, e.Path path ∧ 0 < Expr.callCount path) ∨ 1 < e.variables.length ∨
    ∃ n ∈ e.variables, ∃ key, Reference.dynamic? n = some ⟨key, .secondary⟩

lemma not_composite {n key : String} (h : Reference.dynamic? n = some ⟨key, .primary⟩) :
    ¬ Composite (.var n) := by
  rintro (hoperator | ⟨path, hpath, hcall⟩ | hmany | ⟨m, hm, other, hother⟩)
  · simp [Expr.operatorCount] at hoperator
  · cases hpath
    simp at hcall
  · simp [Expr.variables] at hmany
  · obtain rfl : m = n := by simpa [Expr.variables] using hm
    rw [h] at hother
    cases hother

lemma no_target_of_composite {text : String} {e : Expr} (hcompile : compile text = .ok e)
    (hcomposite : Composite e) : writeBackTarget? text = none := by
  refine Option.eq_none_iff_forall_ne_some.mpr fun key hkey => ?_
  obtain ⟨n, hcompile', href⟩ := target_is_reference hkey
  rw [hcompile] at hcompile'
  cases hcompile'
  exact not_composite href hcomposite

section

variable {setting : Setting} {owner : String} {spec : Spec} {i : Invocation} {s : Session}
  {p : Profile}

lemma resolve_primary {r : Attribute.Registry} {entities : Entities}
    {bindings : Table String Float} {n key : String} (hunbound : bindings.get? n = none)
    (hprimary : entities.primary = some p)
    (href : Reference.dynamic? n = some ⟨key, .primary⟩) :
    (Context.mk r entities bindings).resolve n = p.stat r key := by
  simp [Context.resolve, Reference.ofName?, Entities.get?, hunbound, href, hprimary]

variable (setting owner i) in
lemma bindAll_get?_of_not_mem (part : Formula.Section) {formulas : Formulas} {n : String}
    (h : n ∉ formulas.keys) (bindings : Table String Float) (s : Session) :
    ((bindAll setting i owner part formulas bindings).run s).1.get? n = bindings.get? n := by
  induction formulas generalizing bindings s with
  | nil => rfl
  | cons f rest ih =>
    obtain ⟨hfirst, hrest⟩ := not_or.mp (mt List.mem_cons.mpr h)
    rw [bindAll, run_bind, ih hrest, Table.get?_put, if_neg hfirst]

lemma given_get?_of_not_mem {n : String} (h : n ∉ i.bindings.map Prod.fst) :
    (Table.ofPairs i.bindings).get? n = none := by
  rw [Table.get?_ofPairs]
  apply Table.get?_eq_none_of_not_mem
  simpa [Table.keys] using h

variable (setting owner spec i s p) in
/-- The definition of a name is nothing but a reference to an attribute of the primary entity, and
when the run comes to it it gives the stat under the canonical key of this attribute, unless what it
refers to is bound already. -/
structure Refers (front : Formulas) (name text : String) (back : Formulas) (n key : String) :
    Prop where
  entry : spec.definition = front ++ (name, text) :: back
  first : name ∉ front.keys
  compiled : compile text = .ok (.var n)
  reference : Reference.dynamic? n = some ⟨key, .primary⟩
  value : n ∉ i.bindings.map Prod.fst → n ∉ front.keys →
    let reached := (bindAll setting i owner .definition front (Table.ofPairs i.bindings)).run s
    ((evaluate setting i reached.1 ⟨⟨owner, .definition, name⟩, name, text⟩).run reached.2).1 =
      some (if setting.registry.permits (canonicalKey key) then
        (p.stats.get? (canonicalKey key)).getD 0 else 0)

lemma refers_of_target (hempty : s.cache.entries = [])
    (hprimary : s.profiles.get? i.primary = some p) {name text key : String}
    (hdefined : spec.definition.get? name = some text) (htarget : writeBackTarget? text = some key) :
    ∃ front back n, Refers setting owner spec i s p front name text back n key := by
  obtain ⟨front, back, hentry, hfirst⟩ := Table.split_of_get? hdefined
  obtain ⟨n, hcompiled, href⟩ := target_is_reference htarget
  refine ⟨front, back, n, hentry, hfirst, hcompiled, href, fun hgiven hbefore => ?_⟩
  have hreached := bindAll_profiles setting i owner .definition front (Table.ofPairs i.bindings) s
  have hunbound := (bindAll_get?_of_not_mem setting owner i .definition hbefore
    (Table.ofPairs i.bindings) s).trans (given_get?_of_not_mem hgiven)
  have hnew : ((bindAll setting i owner .definition front (Table.ofPairs i.bindings)).run
      s).2.cache.get? ⟨owner, .definition, name⟩ = none := by
    rw [(Looks.bindAll setting i owner .definition _ _).get? (place_ne_of_listed hfirst),
      Cache.get?_of_empty hempty]
  intro reached
  rw [evaluate_eq_some_iff, ← Profile.stat_eq]
  refine ⟨.var n, .inr ⟨hnew, hcompiled⟩, ?_⟩
  exact congrArg Except.ok (resolve_primary hunbound (by rw [← hprimary, ← hreached]; rfl) href)

lemma target_of_write {formulas : Formulas} {outputs : Table String Float} {writes : List Write}
    {profiles : Profiles}
    (h : Report setting owner spec i s p formulas outputs writes profiles) {w : Write}
    (hw : w ∈ writes) : ∃ name text, (name, w.value) ∈ outputs ∧
      spec.definition.get? name = some text ∧ writeBackTarget? text = some w.attributeName := by
  have hmem : (w.attributeName, w.value) ∈ writes.map fun w => (w.attributeName, w.value) :=
    List.mem_map_of_mem hw
  rw [h.targets] at hmem
  obtain ⟨⟨name, value⟩, houtput, htarget⟩ := List.mem_filterMap.mp hmem
  obtain ⟨key, hkey, hpair⟩ := Option.map_eq_some_iff.mp htarget
  obtain ⟨text, hdefined, hreads⟩ := Option.bind_eq_some_iff.mp hkey
  cases hpair
  exact ⟨name, text, houtput, hdefined, hreads⟩

/-- A text with a target is one reference to this attribute of the primary entity, so one with an
operator, a call, a second name or a secondary role has none. Each write of a run that starts with
an empty cache belongs to an output whose definition refers to the attribute that is written. -/
theorem written_attribute_is_read (setting : Setting) (owner : String) (spec : Spec)
    (i : Invocation) (s : Session) (p : Profile) (hempty : s.cache.entries = [])
    (hprimary : s.profiles.get? i.primary = some p) (hnames : (spec.selected i).2.keys.Nodup) :
    (∀ text key, writeBackTarget? text = some key →
      ∃ n, compile text = .ok (.var n) ∧ Reference.dynamic? n = some ⟨key, .primary⟩) ∧
    (∀ text e, compile text = .ok e → Composite e → writeBackTarget? text = none) ∧
    ∀ w ∈ ((run setting owner spec i).run s).1.writes, ∃ front name text back n,
      (name, w.value) ∈ ((run setting owner spec i).run s).1.outputs ∧
        Refers setting owner spec i s p front name text back n w.attributeName := by
  refine ⟨fun _ _ => target_is_reference, fun _ _ => no_target_of_composite, fun w hw => ?_⟩
  rw [(run_eq_calculating setting owner spec i s).1] at hw ⊢
  obtain ⟨name, text, houtput, hdefined, htarget⟩ :=
    target_of_write (report_calculating hprimary _ hnames) hw
  obtain ⟨front, back, n, hrefers⟩ := refers_of_target hempty hprimary hdefined htarget
  exact ⟨front, name, text, back, n, houtput, hrefers⟩

end

def empowering : Spec :=
  ⟨[("bonus", "2"), ("power", " %player-status# Max Power # Attacker % ")], [],
    .flat [("power", "power + bonus")]⟩

theorem written_attribute_is_read_empowering :
    let setting : Setting := ⟨.unloaded, fun _ => 0⟩
    let s : Session := ⟨.empty, 0, [(⟨1⟩, ⟨⟨1⟩, "Knight", [("max_power", 10)], []⟩)], []⟩
    let outcome := ((run setting "Power" empowering (.solo ⟨1⟩)).run s).1
    (outcome.writes.map Write.attributeName = ["Max Power"] ∧ s.cache.entries = []) ∧
    (∀ text key, writeBackTarget? text = some key →
      ∃ n, compile text = .ok (.var n) ∧ Reference.dynamic? n = some ⟨key, .primary⟩) ∧
    (∀ text e, compile text = .ok e → Composite e → writeBackTarget? text = none) ∧
    ∀ w ∈ outcome.writes, ∃ front name text back n, (name, w.value) ∈ outcome.outputs ∧
      Refers setting "Power" empowering (.solo ⟨1⟩) s ⟨⟨1⟩, "Knight", [("max_power", 10)], []⟩
        front name text back n w.attributeName := by
  intro setting s outcome
  have hwrites : outcome.writes.map Write.attributeName = ["Max Power"] := by decide +kernel
  exact ⟨⟨hwrites, rfl⟩, written_attribute_is_read setting "Power" empowering (.solo ⟨1⟩) s _ rfl rfl
    (by decide)⟩

end DerivedStats.Pipeline
