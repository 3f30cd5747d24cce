/-! Values under keys, in the order in which the keys first came. -/

namespace DerivedStats

abbrev Table (κ α : Type) := List (κ × α)

namespace Table

variable {κ α : Type} [DecidableEq κ]

def get? (t : Table κ α) (key : κ) : Option α := t.lookup key

def has (t : Table κ α) (key : κ) : Bool := (t.get? key).isSome

def put (t : Table κ α) (key : κ) (value : α) : Table κ α :=
  match t with
  | [] => [(key, value)]
  | (k, v) :: t => if k = key then (key, value) :: t else (k, v) :: put t key value

def erase (t : Table κ α) (key : κ) : Table κ α := t.filter fun p => p.1 ≠ key

def keys (t : Table κ α) : List κ := t.map Prod.fst

def ofPairs (pairs : List (κ × α)) : Table κ α := pairs.foldl (fun t p => t.put p.1 p.2) []

def sorted (t : Table String α) : List (String × α) := t.mergeSort fun a b => !(b.1 < a.1)

theorem get?_cons (k : κ) (v : α) (t : Table κ α) (key : κ) :
    get? ((k, v) :: t) key = if key = k then some v else t.get? key := by
  unfold get?
  rw [List.lookup_cons]
  split <;> simp_all

theorem get?_put (t : Table κ α) (key other : κ) (value : α) :
    (t.put key value).get? other = if other = key then some value else t.get? other := by
  induction t with
  | nil => rw [put, get?_cons]
  | cons p t ih =>
    obtain ⟨k, v⟩ := p
    rw [put]
    split
    · rename_i h
      rw [get?_cons, get?_cons, h]
      split <;> rfl
    · rw [get?_cons, get?_cons, ih]
      split <;> split <;> simp_all

end Table

end DerivedStats
