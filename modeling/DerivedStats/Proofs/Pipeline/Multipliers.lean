import DerivedStats.Pipeline.Battle
import DerivedStats.Proofs.Table.Listing
import Mathlib.Data.List.Forall2

/-! The context multiplier without look-ups: from left to right, the product of the multipliers that
the tags name in letters of any case. -/

namespace DerivedStats.Pipeline

def NamedApart {α : Type} (t : Table String α) : Prop :=
  t.keys.Pairwise fun a b => ¬ Text.sameLetters a b

instance {α : Type} (t : Table String α) : Decidable (NamedApart t) :=
  inferInstanceAs (Decidable (List.Pairwise _ _))

section

variable {α : Type} {t u : Table String α} {name : String}

lemma namedApart_iff : NamedApart t ↔ (t.map fun p => Text.lower p.1).Nodup := by
  simp [NamedApart, Table.keys, List.Nodup, List.pairwise_map, Text.sameLetters_iff]

lemma NamedApart.of_perm (h : NamedApart t) (hperm : t.keys.Perm u.keys) : NamedApart u := by
  refine (hperm.pairwise_iff fun hab hba => hab ?_).mp h
  rw [Text.sameLetters_iff] at hba ⊢
  exact hba.symm

lemma NamedApart.eq_of_mem (h : NamedApart t) {p q : String × α} (hp : p ∈ t) (hq : q ∈ t)
    (hpname : Text.sameLetters p.1 name) (hqname : Text.sameLetters q.1 name) : p = q := by
  rw [Text.sameLetters_iff] at hpname hqname
  exact List.inj_on_of_nodup_map (namedApart_iff.mp h) hp hq (hpname.trans hqname.symm)

lemma mem_of_lookupName? {value : α} (h : lookupName? t name = some value) :
    ∃ k, (k, value) ∈ t ∧ Text.sameLetters k name := by
  rcases Option.or_eq_some_iff.mp h with hexact | ⟨-, hcased⟩
  · exact ⟨name, Table.mem_of_get? hexact, Text.sameLetters_iff.mpr rfl⟩
  · obtain ⟨⟨k, v⟩, hfound, rfl⟩ := Option.map_eq_some_iff.mp hcased
    have hname := List.find?_some hfound
    exact ⟨k, List.mem_of_find?_eq_some hfound, hname⟩

lemma lookupName?_ne_none {p : String × α} (hp : p ∈ t) (hname : Text.sameLetters p.1 name) :
    lookupName? t name ≠ none := by
  intro h
  obtain ⟨-, hcased⟩ := Option.or_eq_none_iff.mp h
  rw [Option.map_eq_none_iff, List.find?_eq_none] at hcased
  exact hcased p hp hname

lemma lookupName?_eq_some_iff (h : NamedApart t) {value : α} :
    lookupName? t name = some value ↔ ∃ k, (k, value) ∈ t ∧ Text.sameLetters k name := by
  refine ⟨mem_of_lookupName?, fun ⟨k, hmem, hname⟩ => ?_⟩
  obtain ⟨other, hother⟩ := Option.ne_none_iff_exists'.mp (lookupName?_ne_none hmem hname)
  obtain ⟨k', hmem', hname'⟩ := mem_of_lookupName? hother
  cases h.eq_of_mem hmem hmem' hname hname'
  exact hother

end

namespace Categories

structure Apart (categories : Categories) : Prop where
  names : NamedApart categories
  values : ∀ category ∈ categories, NamedApart category.2

inductive Counts : CategoryEntry → Float → Prop
  | bare (x : Float) : Counts (.bare x) x
  | detailed (displayName : Option String) (x : Float) (description : Option String) :
      Counts (.detailed displayName x description) x

/-- Some category that the tag names has a value that the tag names, and `x` is what its entry
counts. -/
def Grants (categories : Categories) (tag : DamageTag) (x : Float) : Prop :=
  ∃ category ∈ categories, Text.sameLetters category.1 tag.category ∧
    ∃ value ∈ category.2, Text.sameLetters value.1 tag.value ∧ Counts value.2 x

inductive Product (categories : Categories) : List DamageTag → Float → Prop
  | one : Product categories [] 1
  | granted {tags : List DamageTag} {tag : DamageTag} {x m : Float} : Product categories tags x →
      categories.Grants tag m → Product categories (tags ++ [tag]) (x * m)
  | unmatched {tags : List DamageTag} {tag : DamageTag} {x : Float} : Product categories tags x →
      (∀ m, ¬ categories.Grants tag m) → Product categories (tags ++ [tag]) x

def Rearranged (categories other : Categories) : Prop :=
  ∃ middle : Categories, categories.Perm middle ∧
    List.Forall₂ (fun p q => p.1 = q.1 ∧ p.2.Perm q.2) middle other

end Categories

open Categories

variable {α : Type} {categories other : Categories} {tag : DamageTag}

lemma counts_iff {entry : CategoryEntry} {x : Float} : Counts entry x ↔ entry.multiplier = x := by
  constructor
  · rintro (_ | _) <;> rfl
  · rintro rfl
    cases entry with
    | bare x => exact .bare x
    | detailed displayName x description => exact .detailed displayName x description

lemma multiplierOf?_eq_some_iff (h : categories.Apart) {x : Float} :
    multiplierOf? categories tag = some x ↔ categories.Grants tag x := by
  constructor
  · intro hx
    obtain ⟨values, hvalues, hx⟩ := Option.bind_eq_some_iff.mp hx
    obtain ⟨entry, hentry, hx⟩ := Option.bind_eq_some_iff.mp hx
    obtain rfl := Option.some.inj hx
    obtain ⟨category, hcategory, hnamed⟩ := mem_of_lookupName? hvalues
    obtain ⟨value, hvalue, hnamed'⟩ := mem_of_lookupName? hentry
    exact ⟨_, hcategory, hnamed, _, hvalue, hnamed', counts_iff.mpr rfl⟩
  · rintro ⟨category, hcategory, hnamed, value, hvalue, hnamed', hx⟩
    obtain rfl := counts_iff.mp hx
    have hvalues := (lookupName?_eq_some_iff h.names).mpr ⟨category.1, hcategory, hnamed⟩
    have hentry := (lookupName?_eq_some_iff (h.values category hcategory)).mpr
      ⟨value.1, hvalue, hnamed'⟩
    simp [multiplierOf?, hvalues, hentry]

lemma multiplierOf?_eq_none_iff (h : categories.Apart) :
    multiplierOf? categories tag = none ↔ ∀ x, ¬ categories.Grants tag x := by
  simp only [Option.eq_none_iff_forall_ne_some, ne_eq, multiplierOf?_eq_some_iff h]

lemma contextMultiplier_concat (categories : Categories) (tags : List DamageTag)
    (tag : DamageTag) : contextMultiplier categories (tags ++ [tag]) =
      (multiplierOf? categories tag).elim (contextMultiplier categories tags)
        (contextMultiplier categories tags * ·) := by
  simp only [contextMultiplier, List.filterMap_append, List.foldl_append]
  cases h : multiplierOf? categories tag with
  | none => simp [h]
  | some x => simp [h]

lemma product_iff (h : categories.Apart) (tags : List DamageTag) (x : Float) :
    Product categories tags x ↔ x = contextMultiplier categories tags := by
  constructor
  · intro hproduct
    induction hproduct with
    | one => rfl
    | granted _ hgrants ih =>
      rw [contextMultiplier_concat, (multiplierOf?_eq_some_iff h).mpr hgrants, ← ih]
      rfl
    | unmatched _ hnone ih =>
      rw [contextMultiplier_concat, (multiplierOf?_eq_none_iff h).mpr hnone, ← ih]
      rfl
  · rintro rfl
    induction tags using List.reverseRecOn with
    | nil => exact .one
    | append_singleton tags tag ih =>
      rw [contextMultiplier_concat]
      cases hm : multiplierOf? categories tag with
      | none => exact .unmatched ih ((multiplierOf?_eq_none_iff h).mp hm)
      | some m => exact .granted ih ((multiplierOf?_eq_some_iff h).mp hm)

lemma contextMultiplier_congr (h : categories.Apart) (h' : other.Apart)
    {tags tags' : List DamageTag}
    (hgrants : List.Forall₂ (fun tag tag' => ∀ x, categories.Grants tag x ↔ other.Grants tag' x)
      tags tags') :
    contextMultiplier other tags' = contextMultiplier categories tags := by
  have hsame : tags'.filterMap (multiplierOf? other) =
      tags.filterMap (multiplierOf? categories) := by
    induction hgrants with
    | nil => rfl
    | @cons tag tag' _ _ hfirst _ ih =>
      have hone : multiplierOf? other tag' = multiplierOf? categories tag := by
        ext x
        rw [multiplierOf?_eq_some_iff h, multiplierOf?_eq_some_iff h', hfirst]
      rw [List.filterMap_cons, List.filterMap_cons, hone, ih]
  rw [contextMultiplier, contextMultiplier, hsame]

namespace Categories

lemma grants_cased {tag' : DamageTag} (hcategory : Text.sameLetters tag.category tag'.category)
    (hvalue : Text.sameLetters tag.value tag'.value) (x : Float) :
    categories.Grants tag x ↔ categories.Grants tag' x := by
  rw [Text.sameLetters_iff] at hcategory hvalue
  simp only [Grants, Text.sameLetters_iff, hcategory, hvalue]

lemma mem_of_rows {R : α → α → Prop} {rows rows' : List α} (h : List.Forall₂ R rows rows') :
    (∀ p ∈ rows, ∃ q ∈ rows', R p q) ∧ ∀ q ∈ rows', ∃ p ∈ rows, R p q := by
  induction h with
  | nil => simp
  | cons hrow _ ih =>
    simp only [List.forall_mem_cons, List.exists_mem_cons_iff]
    exact ⟨⟨.inl hrow, fun p hp => .inr (ih.1 p hp)⟩, .inl hrow, fun q hq => .inr (ih.2 q hq)⟩

lemma keys_of_rows (h : List.Forall₂ (fun p q => p.1 = q.1 ∧ p.2.Perm q.2) categories other) :
    Table.keys categories = Table.keys other := by
  induction h with
  | nil => rfl
  | cons hrow _ ih => exact congrArg₂ List.cons hrow.1 ih

lemma Rearranged.mem (h : Rearranged categories other) :
    (∀ p ∈ categories, ∃ q ∈ other, p.1 = q.1 ∧ p.2.Perm q.2) ∧
      ∀ q ∈ other, ∃ p ∈ categories, p.1 = q.1 ∧ p.2.Perm q.2 := by
  obtain ⟨middle, hperm, hrows⟩ := h
  simp only [hperm.mem_iff]
  exact mem_of_rows hrows

lemma Rearranged.keys_perm (h : Rearranged categories other) :
    (Table.keys categories).Perm (Table.keys other) := by
  obtain ⟨middle, hperm, hrows⟩ := h
  exact keys_of_rows hrows ▸ hperm.map Prod.fst

lemma Rearranged.apart (h : Rearranged categories other) (hapart : categories.Apart) :
    other.Apart := by
  refine ⟨hapart.names.of_perm h.keys_perm, fun q hq => ?_⟩
  obtain ⟨p, hp, -, hvalues⟩ := h.mem.2 q hq
  exact (hapart.values p hp).of_perm (hvalues.map Prod.fst)

lemma Rearranged.grants (h : Rearranged categories other) (tag : DamageTag) (x : Float) :
    categories.Grants tag x ↔ other.Grants tag x := by
  constructor
  · rintro ⟨p, hp, hcategory, value, hvalue, hgranted⟩
    obtain ⟨q, hq, hname, hvalues⟩ := h.mem.1 p hp
    exact ⟨q, hq, hname ▸ hcategory, value, hvalues.mem_iff.mp hvalue, hgranted⟩
  · rintro ⟨q, hq, hcategory, value, hvalue, hgranted⟩
    obtain ⟨p, hp, hname, hvalues⟩ := h.mem.2 q hq
    exact ⟨p, hp, hname ▸ hcategory, value, hvalues.mem_iff.mpr hvalue, hgranted⟩

end Categories

def DamageTag.Recased (tag tag' : DamageTag) : Prop :=
  Text.sameLetters tag.category tag'.category ∧ Text.sameLetters tag.value tag'.value

instance (tag tag' : DamageTag) : Decidable (tag.Recased tag') :=
  inferInstanceAs (Decidable (_ ∧ _))

/-- The context multiplier is the product of what is granted to the tags, and so it depends neither
on letter case, nor on tags to which nothing is granted, nor on the order of the table. -/
theorem contextMultiplier_is_product (categories : Categories) (hapart : categories.Apart)
    (tags : List DamageTag) :
    (∀ x, Product categories tags x ↔ x = contextMultiplier categories tags) ∧
    (∀ tags', List.Forall₂ DamageTag.Recased tags tags' →
      contextMultiplier categories tags' = contextMultiplier categories tags) ∧
    (∀ front extra back, tags = front ++ back →
      (∀ tag ∈ extra, ∀ x, ¬ categories.Grants tag x) →
      contextMultiplier categories (front ++ extra ++ back) =
        contextMultiplier categories tags) ∧
    ∀ other, Rearranged categories other →
      contextMultiplier other tags = contextMultiplier categories tags := by
  refine ⟨product_iff hapart tags, fun tags' hcased => ?_, fun front extra back htags hnone => ?_,
    fun other hother => ?_⟩
  · apply contextMultiplier_congr hapart hapart
    exact hcased.imp fun tag tag' h => grants_cased h.1 h.2
  · have hextra : extra.filterMap (multiplierOf? categories) = [] := by
      rw [List.filterMap_eq_nil_iff]
      intro tag htag
      exact (multiplierOf?_eq_none_iff hapart).mpr (hnone tag htag)
    simp only [contextMultiplier, htags, List.filterMap_append, hextra, List.append_nil]
  · apply contextMultiplier_congr hapart (hother.apart hapart)
    rw [List.forall₂_same]
    exact fun tag _ => hother.grants tag

def attackTypes : Table String CategoryEntry := [("melee", .bare 1.5), ("ranged", .bare 0.8)]

def elements : Table String CategoryEntry := [("fire", .detailed (some "Fire") 2 none)]

theorem contextMultiplier_is_product_arena :
    let categories : Categories := [("Attack-Type", attackTypes), ("Element", elements)]
    let other : Categories := [("Element", elements), ("Attack-Type", attackTypes.reverse)]
    let fire : DamageTag := ⟨"Element", "fire"⟩
    let tags : List DamageTag := [fire, ⟨"Attack-Type", "melee"⟩, fire]
    let tags' : List DamageTag := [⟨"element", "Fire"⟩, ⟨"attack-type", "MELEE"⟩, ⟨"ELEMENT", "fire"⟩]
    let rain : DamageTag := ⟨"weather", "rain"⟩
    (categories.Apart ∧ List.Forall₂ DamageTag.Recased tags tags' ∧
      (∀ x, ¬ categories.Grants rain x) ∧ Rearranged categories other) ∧
    contextMultiplier categories tags = 6 ∧
    contextMultiplier categories tags' = 6 ∧
    contextMultiplier categories [fire, rain, ⟨"Attack-Type", "melee"⟩, fire] = 6 ∧
    contextMultiplier other tags = 6 := by
  intro categories other fire tags tags' rain
  have hapart : categories.Apart := ⟨by decide +kernel, by decide +kernel⟩
  have hcased : List.Forall₂ DamageTag.Recased tags tags' :=
    .cons (by decide +kernel) (.cons (by decide +kernel) (.cons (by decide +kernel) .nil))
  have hrain : ∀ x, ¬ categories.Grants rain x := by
    rintro x ⟨category, hcategory, hname, -⟩
    have hnone : ∀ category ∈ categories, ¬ Text.sameLetters category.1 "weather" := by
      decide +kernel
    exact hnone category hcategory hname
  have hother : Rearranged categories other :=
    ⟨_, .swap _ _ _, .cons ⟨rfl, .refl _⟩ (.cons ⟨rfl, (List.reverse_perm _).symm⟩ .nil)⟩
  have hfire : categories.Grants fire 2 :=
    ⟨_, .tail _ (.head _), by decide +kernel, _, .head _, by decide +kernel, .detailed _ _ _⟩
  have hmelee : categories.Grants ⟨"Attack-Type", "melee"⟩ 1.5 :=
    ⟨_, .head _, by decide +kernel, _, .head _, by decide +kernel, .bare _⟩
  obtain ⟨hproduct, hcase, hextra, horder⟩ := contextMultiplier_is_product categories hapart tags
  have hsix : contextMultiplier categories tags = 6 := by
    have hgranted : Product categories tags (1 * 2 * 1.5 * 2) :=
      ((Product.one.granted hfire).granted hmelee).granted hfire
    rw [← (hproduct _).mp hgranted]
    decide +kernel
  refine ⟨⟨hapart, hcased, hrain, hother⟩, hsix, (hcase tags' hcased).trans hsix, ?_,
    (horder other hother).trans hsix⟩
  rw [← hsix]
  exact hextra [fire] [rain] _ rfl (by simpa using hrain)

end DerivedStats.Pipeline
