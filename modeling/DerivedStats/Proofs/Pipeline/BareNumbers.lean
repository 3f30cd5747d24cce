import DerivedStats.Pipeline.Spec
import DerivedStats.Proofs.Formula.Constants
import DerivedStats.Proofs.Toml.Records

/-! Numbers that stand for formulas: the texts that are stored for them, and which of
them these texts mean. -/

namespace DerivedStats.Pipeline

open Decimal (IsNearest)
open Formula (Constant Expr compile constant_integer constant_plainText not_constant_plainText)
open Formula.Grammar (bind_eq_ok)
open Toml (Excess Gives)

inductive Number
  | integer (n : Int64)
  | float (x : Float)

namespace Number

def value : Number → Toml.Value
  | .integer n => .integer n.toInt
  | .float x => .float x

def IsFinite : Number → Prop
  | .integer _ => True
  | .float x => x.isFinite

def Means : Number → Float → Prop
  | .integer n, y => IsNearest n.toInt y
  | .float x, y => y = x ∨ x = -0 ∧ y = 0

end Number

inductive FormulaTable
  | definition | tools | calculate
  | mode (name : String)

inductive Entered (excess : Excess) (document : Toml.Value) (name : String) (v : Toml.Value) :
    FormulaTable → Prop
  | definition {es : List (String × Toml.Value)} :
      Gives (Spec.members excess) document 0 (.table es) → (name, v) ∈ es →
      Entered excess document name v .definition
  | tools {es : List (String × Toml.Value)} :
      Gives (Spec.members excess) document 1 (.table es) → (name, v) ∈ es →
      Entered excess document name v .tools
  | calculate {es : List (String × Toml.Value)} :
      Gives (Spec.members excess) document 2 (.table es) → (name, v) ∈ es →
      Entered excess document name v .calculate
  | mode {modes es : List (String × Toml.Value)} {mode : String} :
      Gives (Spec.members excess) document 2 (.table modes) → (mode, .table es) ∈ modes →
      (name, v) ∈ es → Entered excess document name v (.mode mode)

inductive StoredAs (s : Spec) (name text : String) : FormulaTable → Prop
  | definition : (name, text) ∈ s.definition → StoredAs s name text .definition
  | tools : (name, text) ∈ s.tools → StoredAs s name text .tools
  | calculate {formulas : Formulas} : s.calculate = .flat formulas → (name, text) ∈ formulas →
      StoredAs s name text .calculate
  | mode {modes : Table String Formulas} {mode : String} {formulas : Formulas} :
      s.calculate = .byMode modes → (mode, formulas) ∈ modes → (name, text) ∈ formulas →
      StoredAs s name text (.mode mode)

section

variable {excess : Excess} {name text : String} {v : Number} {es : List (String × Toml.Value)}
  {formulas : Formulas}

lemma member_set {j : ℕ} {f : Toml.Member Spec} {x : Toml.Value} {s t : Spec}
    (hf : (Spec.members excess)[j]? = some f) (h : f.set x s = .ok t) :
    (j = 0 ∨ t.definition = s.definition) ∧ (j = 1 ∨ t.tools = s.tools) ∧
      (j = 2 ∨ t.calculate = s.calculate) := by
  match j, hf with
  | 0, hf | 1, hf | 2, hf =>
    cases hf
    obtain ⟨part, -, ht⟩ := bind_eq_ok.mp h
    obtain rfl := Except.ok.inj ht
    simp
  | j + 3, hf => cases hf

lemma setBy_definition : Toml.SetBy (Spec.members excess) Spec.definition 0 :=
  fun _ _ hf hj _ _ _ h => (member_set hf h).1.resolve_left hj

lemma setBy_tools : Toml.SetBy (Spec.members excess) Spec.tools 1 :=
  fun _ _ hf hj _ _ _ h => (member_set hf h).2.1.resolve_left hj

lemma setBy_calculate : Toml.SetBy (Spec.members excess) Spec.calculate 2 :=
  fun _ _ hf hj _ _ _ h => (member_set hf h).2.2.resolve_left hj

section

variable {document x : Toml.Value} {s : Spec}

lemma decode_definition (h : Spec.decode excess document = .ok s)
    (hx : Gives (Spec.members excess) document 0 x) :
    Spec.formulas excess x = .ok s.definition := by
  obtain ⟨s₁, t₁, hset, hpart⟩ := setBy_definition.record_given rfl hx h
  obtain ⟨formulas, hformulas, ht⟩ := bind_eq_ok.mp hset
  obtain rfl := Except.ok.inj ht
  rwa [hpart]

lemma decode_tools (h : Spec.decode excess document = .ok s)
    (hx : Gives (Spec.members excess) document 1 x) : Spec.formulas excess x = .ok s.tools := by
  obtain ⟨s₁, t₁, hset, hpart⟩ := setBy_tools.record_given rfl hx h
  obtain ⟨formulas, hformulas, ht⟩ := bind_eq_ok.mp hset
  obtain rfl := Except.ok.inj ht
  rwa [hpart]

lemma decode_calculate (h : Spec.decode excess document = .ok s)
    (hx : Gives (Spec.members excess) document 2 x) :
    Spec.calculation excess x = .ok s.calculate := by
  obtain ⟨s₁, t₁, hset, hpart⟩ := setBy_calculate.record_given rfl hx h
  obtain ⟨calculation, hcalculation, ht⟩ := bind_eq_ok.mp hset
  obtain rfl := Except.ok.inj ht
  rwa [hpart]

end

lemma formulasOf_mem {x : Toml.Value} (h : Spec.formulasOf es = .ok formulas)
    (hmem : (name, x) ∈ es) :
    ∃ text, Spec.formulaText name x = .ok text ∧ (name, text) ∈ formulas := by
  obtain ⟨p, hp, hmem⟩ := Toml.mapM_mem h hmem
  obtain ⟨text, htext, hp⟩ := bind_eq_ok.mp hp
  obtain rfl := Except.ok.inj hp
  exact ⟨text, htext, hmem⟩

lemma settled_value (v : Number) : Toml.settled excess v.value = .ok v.value := by
  cases v
  all_goals rfl

lemma settledEntries_mem {settled : List (String × Toml.Value)}
    (htext : Spec.formulaText name v.value = .ok text)
    (hsettled : Toml.settledEntries excess es = .ok settled)
    (h : Spec.formulasOf settled = .ok formulas) (hmem : (name, v.value) ∈ es) :
    (name, text) ∈ formulas := by
  obtain ⟨y, hy, hmem⟩ := Toml.settledEntries_mem hsettled hmem
  rw [settled_value, Except.ok.injEq] at hy
  subst hy
  obtain ⟨text', htext', hmem⟩ := formulasOf_mem h hmem
  rw [htext, Except.ok.injEq] at htext'
  rwa [htext']

lemma formulas_mem (htext : Spec.formulaText name v.value = .ok text)
    (h : Spec.formulas excess (.table es) = .ok formulas) (hmem : (name, v.value) ∈ es) :
    (name, text) ∈ formulas := by
  obtain ⟨es', hes, h⟩ := bind_eq_ok.mp h
  obtain rfl := Except.ok.inj hes
  obtain ⟨settled, hsettled, h⟩ := bind_eq_ok.mp h
  exact settledEntries_mem htext hsettled h hmem

variable {c : Calculation}

lemma calculation_settled (h : Spec.calculation excess (.table es) = .ok c) :
    ∃ settled, Toml.settledEntries excess es = .ok settled ∧
      Spec.calculationOf (.table settled) = .ok c := by
  obtain ⟨x, hx, h⟩ := bind_eq_ok.mp h
  obtain ⟨_, rfl⟩ | ⟨settled, hsettled, rfl⟩ := Toml.settled_table hx
  · cases h
  · exact ⟨settled, hsettled, h⟩

lemma calculation_flat (htext : Spec.formulaText name v.value = .ok text)
    (h : Spec.calculation excess (.table es) = .ok c) (hmem : (name, v.value) ∈ es) :
    ∃ formulas, c = .flat formulas ∧ (name, text) ∈ formulas := by
  obtain ⟨settled, hsettled, h⟩ := calculation_settled h
  obtain ⟨y, hy, hnumber⟩ := Toml.settledEntries_mem hsettled hmem
  rw [settled_value, Except.ok.injEq] at hy
  rw [Spec.calculationOf] at h
  split_ifs at h with hmodes
  · -- A number is no table of a mode.
    have htable := List.all_eq_true.mp (Bool.and_eq_true_iff.mp hmodes).2 _ hnumber
    rw [← hy] at htable
    cases v
    all_goals cases htable
  · obtain ⟨formulas, hformulas, h⟩ := bind_eq_ok.mp h
    exact ⟨formulas, (Except.ok.inj h).symm, settledEntries_mem htext hsettled hformulas hmem⟩

lemma calculation_mode {modes : List (String × Toml.Value)} {mode : String}
    (htext : Spec.formulaText name v.value = .ok text)
    (h : Spec.calculation excess (.table modes) = .ok c) (hmode : (mode, .table es) ∈ modes)
    (hmem : (name, v.value) ∈ es) :
    ∃ tables formulas, c = .byMode tables ∧ (mode, formulas) ∈ tables ∧
      (name, text) ∈ formulas := by
  obtain ⟨settled, hsettled, h⟩ := calculation_settled h
  obtain ⟨y, hy, hmode⟩ := Toml.settledEntries_mem hsettled hmode
  have hsettled_table := Toml.settled_table hy
  rw [Spec.calculationOf] at h
  split_ifs at h with hmodes
  · have htable := List.all_eq_true.mp (Bool.and_eq_true_iff.mp hmodes).2 _ hmode
    obtain ⟨_, rfl⟩ | ⟨settled', hsettled', rfl⟩ := hsettled_table
    · cases htable
    · obtain ⟨tables, htables, h⟩ := bind_eq_ok.mp h
      obtain ⟨p, hp, htables⟩ := Toml.mapM_mem htables hmode
      obtain ⟨es', hes', hp⟩ := bind_eq_ok.mp hp
      obtain rfl := Except.ok.inj hes'
      obtain ⟨formulas, hformulas, hp⟩ := bind_eq_ok.mp hp
      obtain rfl := Except.ok.inj hp
      exact ⟨tables, formulas, (Except.ok.inj h).symm, htables,
        settledEntries_mem htext hsettled' hformulas hmem⟩
  · obtain ⟨formulas, hformulas, -⟩ := bind_eq_ok.mp h
    obtain ⟨text', htext', -⟩ := formulasOf_mem hformulas hmode
    obtain ⟨_, rfl⟩ | ⟨settled', -, rfl⟩ := hsettled_table
    · cases htext'
    · cases htext'

lemma stored_of_entered {document : Toml.Value} {s : Spec} {table : FormulaTable}
    (htext : Spec.formulaText name v.value = .ok text) (h : Spec.decode excess document = .ok s)
    (hentered : Entered excess document name v.value table) : StoredAs s name text table := by
  cases hentered with
  | definition hgiven hmem => exact .definition (formulas_mem htext (decode_definition h hgiven) hmem)
  | tools hgiven hmem => exact .tools (formulas_mem htext (decode_tools h hgiven) hmem)
  | calculate hgiven hmem =>
    obtain ⟨formulas, hflat, hmem⟩ := calculation_flat htext (decode_calculate h hgiven) hmem
    exact .calculate hflat hmem
  | mode hgiven hmode hmem =>
    obtain ⟨tables, formulas, hmodes, hmode, hmem⟩ :=
      calculation_mode htext (decode_calculate h hgiven) hmode hmem
    exact .mode hmodes hmode hmem

end

lemma text_means_iff_isFinite (v : Number) (name : String) :
    ∃ text, Spec.formulaText name v.value = .ok text ∧
      ((∃ y, v.Means y ∧ Constant text y) ↔ v.IsFinite) := by
  cases v with
  | integer n =>
    have hsize : n.toInt.natAbs < 2 ^ 64 := by
      have hlow := n.le_toInt
      have hhigh := n.toInt_lt
      omega
    exact ⟨_, rfl, iff_of_true (constant_integer hsize) trivial⟩
  | float x =>
    refine ⟨_, rfl, ?_, fun hfinite => constant_plainText hfinite⟩
    rintro ⟨y, -, hconstant⟩
    by_contra hnot
    exact not_constant_plainText (Bool.eq_false_of_not_eq_true hnot) y hconstant

/-- A number in the place of a formula is stored as a text; if it is finite, this text is a formula
that has the number for its value in every scope, and otherwise the text is a name. -/
theorem bare_number_means_itself (v : Number) (name : String) :
    ∃ text, Spec.formulaText name v.value = .ok text ∧
      (∀ excess document s table, Spec.decode excess document = .ok s →
        Entered excess document name v.value table → StoredAs s name text table) ∧
      ((∃ y, v.Means y ∧ Constant text y) ↔ v.IsFinite) := by
  obtain ⟨text, htext, hmeans⟩ := text_means_iff_isFinite v name
  exact ⟨text, htext, fun _ _ _ _ h hentered => stored_of_entered htext h hentered, hmeans⟩

theorem bare_number_means_itself_tiny :
    let v : Number := .float (-1e-7)
    let document : Toml.Value := .table [("Definition", .table [("base", .integer (-3))]),
      ("Calculate", .table [("Burst", .table [("final", v.value)])])]
    let s : Spec := ⟨[("base", "-3")], [], .byMode [("Burst", [("final", "-0.0000001")])]⟩
    (Spec.decode .refused document = .ok s ∧
      Entered .refused document "final" v.value (.mode "Burst")) ∧
    ∃ text, Spec.formulaText "final" v.value = .ok text ∧
      StoredAs s "final" text (.mode "Burst") ∧ ∃ y, v.Means y ∧ Constant text y := by
  intro v document s
  have hwritten : Decimal.plainText (-1e-7) = "-0.0000001" := by decide +kernel
  have hdecode : Spec.decode .refused document =
      .ok ⟨[("base", "-3")], [], .byMode [("Burst", [("final", Decimal.plainText (-1e-7))])]⟩ := rfl
  rw [hwritten] at hdecode
  have hentered : Entered .refused document "final" v.value (.mode "Burst") :=
    .mode (.named rfl (List.mem_cons_of_mem _ List.mem_cons_self) rfl) List.mem_cons_self
      List.mem_cons_self
  have hfinite : (-1e-7 : Float).isFinite := by decide +kernel
  obtain ⟨text, htext, hstored, hmeans⟩ := bare_number_means_itself v "final"
  exact ⟨⟨hdecode, hentered⟩, text, htext, hstored _ _ s _ hdecode hentered, hmeans.mpr hfinite⟩

theorem bare_infinity_is_variable :
    let v : Number := .float Decimal.infinity
    let document : Toml.Value := .table [("Calculate", .table [("final", v.value)])]
    Spec.decode .refused document = .ok ⟨[], [], .flat [("final", "inf")]⟩ ∧
      Entered .refused document "final" v.value .calculate ∧
      compile "inf" = .ok (.var "inf") ∧ (Expr.var "inf").variables = ["inf"] ∧
      ∀ y, ∃ s : Formula.Scope, ∀ drawn, (Expr.var "inf").evaluate s drawn = (.ok y, drawn) := by
  intro v document
  have hwritten : Decimal.plainText Decimal.infinity = "inf" := by decide +kernel
  have hdecode : Spec.decode .refused document =
      .ok ⟨[], [], .flat [("final", Decimal.plainText Decimal.infinity)]⟩ := rfl
  rw [hwritten] at hdecode
  have hcompile : compile "inf" = .ok (.var "inf") :=
    (Formula.Grammar.isOperand_name _).compile_eq Formula.spelled_infinity
  refine ⟨hdecode, .calculate (.named rfl List.mem_cons_self rfl) List.mem_cons_self, hcompile, rfl,
    fun y => ⟨⟨fun _ => y, fun _ => 0⟩, fun _ => rfl⟩⟩

end DerivedStats.Pipeline
