import DerivedStats.Pipeline.Run

/-! Battle damage: the tags of an attack give a multiplier, and the battle formulas the damage. -/

namespace DerivedStats.Pipeline

open Toml (Decoder Member)

inductive CategoryEntry
  | bare (multiplier : Float)
  | detailed (displayName : Option String) (multiplier : Float) (description : Option String)

namespace CategoryEntry

def multiplier : CategoryEntry → Float
  | .bare x => x
  | .detailed _ x _ => x

structure Detail where
  displayName : Option String
  multiplier : Float
  description : Option String

def members : List (Member Detail) := [
  ⟨["display-name"], fun v d => do return { d with displayName := some (← Toml.text v) }⟩,
  ⟨["default-multiplier"], fun v d => do return { d with multiplier := ← Toml.number v }⟩,
  ⟨["description"], fun v d => do return { d with description := some (← Toml.text v) }⟩]

def decode : Decoder CategoryEntry := fun v =>
  match Toml.number v with
  | .ok x => .ok (.bare x)
  | .error _ => do
    let d ← Toml.record .refused members ⟨none, 1, none⟩ v
    return .detailed d.displayName d.multiplier d.description

end CategoryEntry

abbrev Categories := Table String (Table String CategoryEntry)

structure DamageTag where
  category : String
  value : String
deriving DecidableEq, Repr

namespace DamageTag

def isSeparator (c : Char) : Bool := c == '.' || c == ':'

def ofText? (s : String) : Option DamageTag :=
  match s.toList.dropWhile (!isSeparator ·) with
  | [] => none
  | _ :: rest =>
    let category := Text.trimmed (s.toList.takeWhile (!isSeparator ·))
    let value := Text.trimmed rest
    if category.isEmpty || value.isEmpty then none
    else some ⟨String.ofList category, String.ofList value⟩

end DamageTag

def lookupName? {α : Type} (t : Table String α) (name : String) : Option α :=
  (t.get? name).or ((t.find? fun p => Text.sameLetters p.1 name).map Prod.snd)

def multiplierOf? (categories : Categories) (tag : DamageTag) : Option Float := do
  let values ← lookupName? categories tag.category
  let entry ← lookupName? values tag.value
  return entry.multiplier

def contextMultiplier (categories : Categories) (tags : List DamageTag) : Float :=
  (tags.filterMap (multiplierOf? categories)).foldl (· * ·) 1

structure Battle where
  categories : Categories
  spec : Spec

namespace Battle

def decodeCategories : Decoder Categories := Toml.tableOf (Toml.tableOf CategoryEntry.decode)

def categoryMembers : List (Member Categories) :=
  [⟨["Damage-Category", "damage-category"], fun v _ => decodeCategories v⟩]

def decode : Decoder Battle := fun v => do
  let entries ← Toml.entries v
  let categories ← Toml.setNamed categoryMembers entries [] []
  let spec ← Toml.setNamed (Spec.members .refused) entries [] .empty
  return ⟨categories, spec⟩

end Battle

structure Attack where
  tags : List DamageTag
  mode : Option String
  baseDamage : Option Float

def battleOwner : String := "Battle"

def Attack.invocation (a : Attack) (b : Battle) (attacker : EntityId)
    (defender : Option EntityId) : Invocation where
  primary := attacker
  secondary := defender
  mode := a.mode
  bindings := ("context_multiplier", contextMultiplier b.categories a.tags) ::
    a.baseDamage.elim [] fun x => [("base_damage", x)]

def computeDamage (setting : Setting) (b : Battle) (attacker : EntityId)
    (defender : Option EntityId) (a : Attack) : Run Outcome :=
  run setting battleOwner b.spec (a.invocation b attacker defender)

end DerivedStats.Pipeline
