import DerivedStats.Proofs.Formula.SoundLevels
import DerivedStats.Toml.Decode

/-! What a document gives to the members of a record, and what becomes of the entries of a table. -/

namespace DerivedStats.Toml

open Formula.Grammar (bind_eq_ok)

lemma mapM_mem {ε α β : Type} {f : α → Except ε β} {xs : List α} {ys : List β} {x : α}
    (h : xs.mapM f = .ok ys) (hx : x ∈ xs) : ∃ y, f x = .ok y ∧ y ∈ ys := by
  induction xs generalizing ys with
  | nil => cases hx
  | cons a xs ih =>
    rw [List.mapM_cons] at h
    obtain ⟨b, hb, h⟩ := bind_eq_ok.mp h
    obtain ⟨bs, hbs, h⟩ := bind_eq_ok.mp h
    obtain rfl := Except.ok.inj h
    obtain rfl | hx := List.mem_cons.mp hx
    · exact ⟨b, hb, List.mem_cons_self⟩
    · obtain ⟨y, hy, hmem⟩ := ih hbs hx
      exact ⟨y, hy, List.mem_cons_of_mem _ hmem⟩

section

variable {σ β : Type} {members : List (Member σ)} {f : Member σ} {i : ℕ} {x : Value} {s t : σ}
  {excess : Excess}

/-- The document has this value for the member at a place: under one of its names, or at its place
in a list. -/
inductive Gives (members : List (Member σ)) : Value → ℕ → Value → Prop
  | named {v : Value} {es : List (String × Value)} {name : String} {i : ℕ} {x : Value} :
      entries v = .ok es → (name, x) ∈ es →
      members.findIdx? (fun f => f.names.contains name) = some i → Gives members v i x
  | listed {items : List Value} {i : ℕ} {x : Value} :
      items[i]? = some x → Gives members (.array items) i x

def SetBy (members : List (Member σ)) (part : σ → β) (i : ℕ) : Prop :=
  ∀ j f, members[j]? = some f → j ≠ i → ∀ x s t, f.set x s = .ok t → part t = part s

variable {part : σ → β}

lemma SetBy.setNamed_kept (hpart : SetBy members part i) {es : List (String × Value)}
    {seen : List ℕ} (hseen : i ∈ seen) (h : setNamed members es seen s = .ok t) :
    part t = part s := by
  induction es generalizing seen s with
  | nil =>
    obtain rfl := Except.ok.inj h
    rfl
  | cons p es ih =>
    obtain ⟨name, x⟩ := p
    rw [setNamed] at h
    split at h
    · exact ih hseen h
    · next j _ =>
      split_ifs at h with hj
      split at h
      · exact ih hseen h
      · next f hf =>
        obtain ⟨u, hu, h⟩ := bind_eq_ok.mp h
        have hne : j ≠ i := by
          rintro rfl
          exact hj (List.contains_iff_mem.mpr hseen)
        rw [ih (List.mem_cons_of_mem _ hseen) h, hpart j f hf hne x s u hu]

lemma SetBy.setNamed_given (hpart : SetBy members part i) (hf : members[i]? = some f) {name : String}
    (hindex : members.findIdx? (fun f => f.names.contains name) = some i)
    {es : List (String × Value)} {seen : List ℕ} (hmem : (name, x) ∈ es)
    (h : setNamed members es seen s = .ok t) :
    ∃ s₁ t₁, f.set x s₁ = .ok t₁ ∧ part t = part t₁ := by
  induction es generalizing seen s with
  | nil => cases hmem
  | cons p es ih =>
    obtain hp | hmem := List.mem_cons.mp hmem
    · subst hp
      simp only [setNamed, hindex, hf] at h
      split_ifs at h
      obtain ⟨u, hu, h⟩ := bind_eq_ok.mp h
      exact ⟨s, u, hu, hpart.setNamed_kept List.mem_cons_self h⟩
    · rw [setNamed] at h
      split at h
      · exact ih hmem h
      · split_ifs at h
        split at h
        · exact ih hmem h
        · obtain ⟨u, -, h⟩ := bind_eq_ok.mp h
          exact ih hmem h

lemma setListed_kept (hpart : ∀ f ∈ members, ∀ x s t, f.set x s = .ok t → part t = part s)
    {items : List Value} (h : setListed excess members items s = .ok t) : part t = part s := by
  induction items generalizing members s with
  | nil =>
    cases members
    all_goals
      obtain rfl := Except.ok.inj h
      rfl
  | cons x items ih =>
    cases members with
    | nil =>
      rw [setListed] at h
      split_ifs at h
      obtain rfl := Except.ok.inj h
      rfl
    | cons f members =>
      obtain ⟨u, hu, h⟩ := bind_eq_ok.mp h
      obtain ⟨hfirst, hrest⟩ := List.forall_mem_cons.mp hpart
      rw [ih hrest h, hfirst x s u hu]

lemma SetBy.setListed_given (hpart : SetBy members part i) (hf : members[i]? = some f)
    {items : List Value} (hx : items[i]? = some x)
    (h : setListed excess members items s = .ok t) :
    ∃ s₁ t₁, f.set x s₁ = .ok t₁ ∧ part t = part t₁ := by
  induction items generalizing members i s with
  | nil => cases hx
  | cons y items ih =>
    cases members with
    | nil => cases hf
    | cons g members =>
      obtain ⟨u, hu, hrest⟩ := bind_eq_ok.mp h
      cases i with
      | zero =>
        cases hf
        cases hx
        refine ⟨s, u, hu, setListed_kept (fun f hf => ?_) hrest⟩
        obtain ⟨j, hj⟩ := List.mem_iff_getElem?.mp hf
        exact hpart (j + 1) f hj (Nat.succ_ne_zero j)
      | succ i => exact ih (fun j f hj hne => hpart (j + 1) f hj (by omega)) hf hx hrest

lemma SetBy.record_given (hpart : SetBy members part i) (hf : members[i]? = some f) {v : Value}
    (hx : Gives members v i x) (h : record excess members s v = .ok t) :
    ∃ s₁ t₁, f.set x s₁ = .ok t₁ ∧ part t = part t₁ := by
  cases hx with
  | named hentries hmem hindex =>
    cases v with
    | array items => cases hentries
    | _ =>
      obtain ⟨es, hes, h⟩ := bind_eq_ok.mp h
      rw [hentries, Except.ok.injEq] at hes
      subst hes
      exact hpart.setNamed_given hf hindex hmem h
  | listed hx => exact hpart.setListed_given hf hx h

lemma settledEntries_mem {es settled' : List (String × Value)} {name : String}
    (h : settledEntries excess es = .ok settled') (hmem : (name, x) ∈ es) :
    ∃ y, settled excess x = .ok y ∧ (name, y) ∈ settled' := by
  induction es generalizing settled' with
  | nil => cases hmem
  | cons p es ih =>
    obtain ⟨key, v⟩ := p
    obtain ⟨y, hy, h⟩ := bind_eq_ok.mp h
    obtain ⟨rest, hrest, h⟩ := bind_eq_ok.mp h
    obtain rfl := Except.ok.inj h
    obtain hp | hmem := List.mem_cons.mp hmem
    · cases hp
      exact ⟨y, hy, List.mem_cons_self⟩
    · obtain ⟨z, hz, hmem⟩ := ih hrest hmem
      exact ⟨z, hz, List.mem_cons_of_mem _ hmem⟩

lemma datetimeOf_eq_ok {es : List (String × Value)} (h : datetimeOf excess es = .ok x) :
    ∃ text, x = .datetime text := by
  rw [datetimeOf.eq_def] at h
  split at h
  · split at h
    · split_ifs at h
      exact ⟨_, (Except.ok.inj h).symm⟩
    · cases h
  · cases h

lemma settled_table {es : List (String × Value)} (h : settled excess (.table es) = .ok x) :
    (∃ text, x = .datetime text) ∨
      ∃ settled', settledEntries excess es = .ok settled' ∧ x = .table settled' := by
  rw [settled] at h
  split_ifs at h
  · exact .inl (datetimeOf_eq_ok h)
  · obtain ⟨settled', hsettled, h⟩ := bind_eq_ok.mp h
    exact .inr ⟨settled', hsettled, (Except.ok.inj h).symm⟩

end

end DerivedStats.Toml
