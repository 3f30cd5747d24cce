import DerivedStats.Proofs.ClassTree.Links

/-! The arena of classes: parents and children mirror each other, and a class without a parent is
either a root or reported. -/

namespace DerivedStats.ClassTree

def FirstNamed (classes : Table String ClassConfig) (name : String) (i : Nat) : Prop :=
  (∃ p, classes[i]? = some p ∧ Text.sameLetters p.1 name) ∧
    ∀ k < i, ∀ p, classes[k]? = some p → ¬ Text.sameLetters p.1 name

lemma firstNamed_iff (classes : Table String ClassConfig) (name : String) (i : Nat) :
    FirstNamed classes name i ↔
      classes.findIdx? (fun p => Text.sameLetters p.1 name) = some i := by
  rw [List.findIdx?_eq_some_iff_getElem]
  constructor
  · rintro ⟨⟨p, hp, hname⟩, hfirst⟩
    obtain ⟨hi, rfl⟩ := List.getElem?_eq_some_iff.mp hp
    refine ⟨hi, hname, fun k hk => ?_⟩
    exact hfirst k hk _ (List.getElem?_eq_getElem (by omega))
  · rintro ⟨hi, hname, hfirst⟩
    refine ⟨⟨_, List.getElem?_eq_getElem hi, hname⟩, fun k hk p hp => ?_⟩
    obtain ⟨-, rfl⟩ := List.getElem?_eq_some_iff.mp hp
    exact hfirst k hk

structure Adds (link : Nat → Option Nat) (entries : List ((String × ClassConfig) × Nat))
    (t t' : ClassTree) (notices : List Notice) : Prop where
  children : ∀ i, t'.children i =
    t.children i ++ (entries.filter fun q => link q.2 = some i).map Prod.snd
  roots : t'.roots =
    t.roots ++ (entries.filter fun q => link q.2 = none ∧ q.1.2.tier ≤ 1).map Prod.snd
  notices : notices = (entries.filter fun q => link q.2 = none ∧ 1 < q.1.2.tier).map
    fun q => .strandedClass q.1.1 q.1.2.tier q.1.2.parent

variable {link : Nat → Option Nat} {t t' t'' : ClassTree}

lemma Adds.nil : Adds link [] t t [] := ⟨fun i => by simp, by simp, by simp⟩

lemma Adds.append {front back : List ((String × ClassConfig) × Nat)} {notices more : List Notice}
    (h : Adds link front t t' notices) (h' : Adds link back t' t'' more) :
    Adds link (front ++ back) t t'' (notices ++ more) where
  children i := by simp only [h'.children, h.children, List.filter_append, List.map_append,
    List.append_assoc]
  roots := by simp only [h'.roots, h.roots, List.filter_append, List.map_append, List.append_assoc]
  notices := by simp only [h'.notices, h.notices, List.filter_append, List.map_append]

lemma find?_lt {name : String} {i : Nat} (h : t.find? name = some i) : i < t.nodes.size := by
  rw [find?_eq, List.findIdx?_eq_some_iff_getElem] at h
  obtain ⟨hi, -⟩ := h
  simpa using hi

lemma children_link {child parent : Nat} (hparent : parent < t.nodes.size) (i : Nat) :
    (t.link child parent).children i =
      if i = parent then t.children i ++ [child] else t.children i := by
  simp only [children, link, Array.getElem?_modify]
  by_cases h : i = parent
  · subst h
    rw [if_pos rfl, if_pos rfl, Array.getElem?_eq_getElem hparent]
    split <;> rfl
  · rw [if_neg h, if_neg (Ne.symm h)]
    split
    · cases t.nodes[i]? <;> rfl
    · rfl

lemma place_adds (t : ClassTree) (i : Nat) (p : String × ClassConfig)
    (hlink : link i = (p.2.parent.bind t.find?).filter (· ≠ i)) :
    Adds link [(p, i)] t (t.place i p.1 p.2).1 (t.place i p.1 p.2).2 := by
  rw [place, ← hlink]
  cases htarget : link i with
  | some parent =>
    have hnamed : p.2.parent.bind t.find? = some parent :=
      (Option.filter_eq_some_iff.mp (hlink.symm.trans htarget)).1
    obtain ⟨name, -, hfound⟩ := Option.bind_eq_some_iff.mp hnamed
    have hroots : (t.link i parent).roots = t.roots := rfl
    refine ⟨fun j => ?_, by simp [htarget, hroots], by simp [htarget]⟩
    rw [children_link (find?_lt hfound)]
    by_cases hj : j = parent
    · simp [hj, htarget]
    · simp [hj, htarget, Ne.symm hj]
  | none =>
    by_cases htier : p.2.tier ≤ 1
    · have hchildren : ({ t with roots := t.roots ++ [i] } : ClassTree).children = t.children := rfl
      refine ⟨fun j => ?_, by simp [htarget, htier], by simp [htarget, htier]⟩
      simp [htarget, htier, hchildren]
    · refine ⟨fun j => ?_, by simp [htarget, htier], ?_⟩
      · simp [htarget, htier]
      · simp [htarget, htier, Nat.lt_of_not_le htier]

lemma placeAll_adds (t : ClassTree) (i : Nat) (classes : Table String ClassConfig)
    (hlink : ∀ q ∈ classes.zipIdx i,
      link q.2 = (q.1.2.parent.bind t.find?).filter (· ≠ q.2)) :
    Adds link (classes.zipIdx i) t (t.placeAll i classes).1 (t.placeAll i classes).2 := by
  induction classes generalizing t i with
  | nil => exact .nil
  | cons p rest ih =>
    rw [List.zipIdx_cons, List.forall_mem_cons] at hlink
    obtain ⟨hfirst, hrest⟩ := hlink
    rw [List.zipIdx_cons, ← List.singleton_append]
    apply (place_adds t i p hfirst).append
    apply ih
    rw [find?_place]
    exact hrest

lemma build_adds (classes : Table String ClassConfig) :
    Adds (named? classes) classes.zipIdx (unlinked classes) (build classes).1
      (build classes).2 := by
  apply placeAll_adds
  rintro ⟨p, i⟩ hmem
  rw [named?, List.mk_mem_zipIdx_iff_getElem?.mp hmem]
  congr 2
  funext name
  exact (find?_unlinked classes name).symm

lemma indices_pairwise (classes : Table String ClassConfig)
    (test : (String × ClassConfig) × Nat → Bool) :
    ((classes.zipIdx.filter test).map Prod.snd).Pairwise (· < ·) := by
  have hall : (classes.zipIdx.map Prod.snd).Pairwise (· < ·) := by
    rw [List.zipIdx_map_snd]
    exact List.pairwise_lt_range'
  exact hall.sublist (List.filter_sublist.map Prod.snd)

lemma mem_indices {classes : Table String ClassConfig}
    {test : (String × ClassConfig) × Nat → Bool} {i : Nat} :
    i ∈ (classes.zipIdx.filter test).map Prod.snd ↔
      ∃ p, classes[i]? = some p ∧ test (p, i) = true := by
  simp [List.mk_mem_zipIdx_iff_getElem?]

structure Arena (classes : Table String ClassConfig) (t : ClassTree) (notices : List Notice) :
    Prop where
  labels : t.nodes.toList.map ClassNode.label =
    classes.map fun p => (p.1, p.2.displayName.getD p.1, p.2.tier)
  inRange : (∀ i j, t.parent? i = some j → j < t.nodes.size) ∧
    (∀ i, ∀ j ∈ t.children i, j < t.nodes.size) ∧ ∀ i ∈ t.roots, i < t.nodes.size
  mirrored : ∀ i j, j ∈ t.children i ↔ t.parent? j = some i
  ordered : ∀ i, (t.children i).Pairwise (· < ·)
  parent : ∀ i j, t.parent? j = some i ↔ i ≠ j ∧
    ∃ p name, classes[j]? = some p ∧ p.2.parent = some name ∧ FirstNamed classes name i
  roots : t.roots.Pairwise (· < ·) ∧ ∀ i, i ∈ t.roots ↔
    ∃ p, classes[i]? = some p ∧ t.parent? i = none ∧ p.2.tier ≤ 1
  reported : notices =
    (classes.zipIdx.filter fun q => t.parent? q.2 = none ∧ 1 < q.1.2.tier).map
      fun q => .strandedClass q.1.1 q.1.2.tier q.1.2.parent
  found : ∀ name i, t.find? name = some i ↔ FirstNamed classes name i
  advance : ∀ a b, t.canAdvance a b = true ↔
    ∃ i j, FirstNamed classes a i ∧ FirstNamed classes b j ∧ t.parent? j = some i

lemma named?_eq_some_iff (classes : Table String ClassConfig) (i j : Nat) :
    named? classes j = some i ↔ i ≠ j ∧
      ∃ p name, classes[j]? = some p ∧ p.2.parent = some name ∧ FirstNamed classes name i := by
  simp only [named?, Option.filter_eq_some_iff, Option.bind_eq_some_iff, firstNamed_iff,
    decide_eq_true_eq]
  constructor
  · rintro ⟨⟨name, ⟨p, hp, hparent⟩, hfirst⟩, hne⟩
    exact ⟨hne, p, name, hp, hparent, hfirst⟩
  · rintro ⟨hne, p, name, hp, hparent, hfirst⟩
    exact ⟨⟨name, ⟨p, hp, hparent⟩, hfirst⟩, hne⟩

lemma canAdvance_iff (t : ClassTree) (a b : String) :
    t.canAdvance a b = true ↔
      ∃ i j, t.find? a = some i ∧ t.find? b = some j ∧ j ∈ t.children i := by
  rw [canAdvance]
  cases t.find? a with
  | none => simp
  | some i =>
    cases t.find? b with
    | none => simp
    | some j => simp

section

variable (classes : Table String ClassConfig)

lemma children_build (i : Nat) : (build classes).1.children i =
    (classes.zipIdx.filter fun q => named? classes q.2 = some i).map Prod.snd := by
  have hnone : (unlinked classes).children i = [] := by
    simp only [children, unlinked, List.getElem?_toArray, List.getElem?_map]
    cases classes[i]? <;> rfl
  rw [(build_adds classes).children, hnone, List.nil_append]

lemma roots_build : (build classes).1.roots =
    (classes.zipIdx.filter fun q => named? classes q.2 = none ∧ q.1.2.tier ≤ 1).map Prod.snd :=
  (build_adds classes).roots

variable {classes}

lemma lt_size_build {i : Nat} {p : String × ClassConfig} (h : classes[i]? = some p) :
    i < (build classes).1.nodes.size := by
  rw [size_build]
  exact (List.getElem?_eq_some_iff.mp h).1

lemma mem_children_build {i j : Nat} :
    j ∈ (build classes).1.children i ↔ (build classes).1.parent? j = some i := by
  simp only [children_build, parent?_build, mem_indices, decide_eq_true_eq]
  constructor
  · rintro ⟨-, -, h⟩
    exact h
  · intro h
    obtain ⟨-, p, -, hp, -⟩ := (named?_eq_some_iff classes i j).mp h
    exact ⟨p, hp, h⟩

lemma mem_roots_build {i : Nat} : i ∈ (build classes).1.roots ↔
    ∃ p, classes[i]? = some p ∧ (build classes).1.parent? i = none ∧ p.2.tier ≤ 1 := by
  simp only [roots_build, parent?_build, mem_indices, decide_eq_true_eq]

lemma inRange_build :
    (∀ i j, (build classes).1.parent? i = some j → j < (build classes).1.nodes.size) ∧
      (∀ i, ∀ j ∈ (build classes).1.children i, j < (build classes).1.nodes.size) ∧
      ∀ i ∈ (build classes).1.roots, i < (build classes).1.nodes.size := by
  refine ⟨fun i j h => ?_, fun i j h => ?_, fun i h => ?_⟩
  · rw [parent?_build, named?_eq_some_iff] at h
    obtain ⟨-, p, name, -, -, ⟨q, hq, -⟩, -⟩ := h
    exact lt_size_build hq
  · rw [children_build] at h
    obtain ⟨p, hp, -⟩ := mem_indices.mp h
    exact lt_size_build hp
  · obtain ⟨p, hp, -⟩ := mem_roots_build.mp h
    exact lt_size_build hp

end

theorem build_arena (classes : Table String ClassConfig) :
    Arena classes (build classes).1 (build classes).2 where
  labels := labels_build classes
  inRange := inRange_build
  mirrored i j := mem_children_build
  ordered i := by
    rw [children_build]
    exact indices_pairwise classes _
  parent i j := by
    rw [parent?_build]
    exact named?_eq_some_iff classes i j
  roots := by
    refine ⟨?_, fun i => mem_roots_build⟩
    rw [roots_build]
    exact indices_pairwise classes _
  reported := by
    simp only [parent?_build]
    exact (build_adds classes).notices
  found name i := by rw [find?_build, firstNamed_iff]
  advance a b := by
    simp only [canAdvance_iff, find?_build, firstNamed_iff, mem_children_build]

end DerivedStats.ClassTree
