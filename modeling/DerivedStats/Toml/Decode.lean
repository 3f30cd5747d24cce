import DerivedStats.Table
import DerivedStats.Toml.Datetime
import DerivedStats.Toml.Value

/-! Reading records from configuration values. The first fault in document order is reported. -/

namespace DerivedStats.Toml

inductive DecodeError
  | shape
  | formula (name kind : String)
  | calculation (kind : String)
deriving DecidableEq, Repr

def DecodeError.message? : DecodeError → Option String
  | .shape => none
  | .formula name kind => some s!"formula '{name}' must be a string or number, found {kind}"
  | .calculation kind => some s!"Calculate must be a table, found {kind}"

abbrev Decoder (α : Type) := Value → Except DecodeError α

/-- What becomes of the values that a list has beyond the members of a record, and of the entries
that a table has beyond a date-time. -/
inductive Excess
  | refused | ignored
deriving DecidableEq, Repr

def datetimeKey : String := "$__toml_private_datetime"

def entries : Decoder (List (String × Value))
  | .table entries => .ok entries
  | .datetime text => .ok [(datetimeKey, .string text)]
  | _ => .error .shape

def datetimeOf (excess : Excess) : List (String × Value) → Except DecodeError Value
  | (_, .string s) :: rest =>
    match Datetime.ofText? s with
    | some text => if rest.isEmpty ∨ excess = .ignored then .ok (.datetime text) else .error .shape
    | none => .error .shape
  | _ => .error .shape

def startsDatetime (entries : List (String × Value)) : Bool :=
  entries.head?.any fun p => p.1 == datetimeKey

mutual

/-- A value as it is where any kind of value may stand: every table in it that starts with the key
of a date-time has become one. -/
def settled (excess : Excess) : Decoder Value
  | .table entries =>
    if startsDatetime entries then datetimeOf excess entries
    else do return .table (← settledEntries excess entries)
  | .array items => do return .array (← settledItems excess items)
  | v => .ok v

def settledEntries (excess : Excess) :
    List (String × Value) → Except DecodeError (List (String × Value))
  | [] => .ok []
  | (key, v) :: rest => do
    let v ← settled excess v
    return (key, v) :: (← settledEntries excess rest)

def settledItems (excess : Excess) : List Value → Except DecodeError (List Value)
  | [] => .ok []
  | v :: rest => do
    let v ← settled excess v
    return v :: (← settledItems excess rest)

end

def text : Decoder String
  | .string s => .ok s
  | _ => .error .shape

def flag : Decoder Bool
  | .boolean b => .ok b
  | _ => .error .shape

def number : Decoder Float
  | .integer n => .ok (Float.ofInt n)
  | .float x => .ok x
  | _ => .error .shape

def natural32 : Decoder Nat
  | .integer n => if 0 ≤ n ∧ n < UInt32.size then .ok n.toNat else .error .shape
  | _ => .error .shape

def tableOf {α : Type} (decode : Decoder α) : Decoder (Table String α) := fun v => do
  (← entries v).mapM fun (name, v) => do return (name, ← decode v)

structure Member (σ : Type) where
  names : List String
  set : Value → σ → Except DecodeError σ

def setNamed {σ : Type} (members : List (Member σ)) :
    List (String × Value) → List Nat → σ → Except DecodeError σ
  | [], _, s => .ok s
  | (name, v) :: rest, seen, s =>
    match members.findIdx? fun f => f.names.contains name with
    | none => setNamed members rest seen s
    | some i =>
      if seen.contains i then .error .shape
      else
        match members[i]? with
        | none => setNamed members rest seen s
        | some f => do setNamed members rest (i :: seen) (← f.set v s)

def setListed {σ : Type} (excess : Excess) :
    List (Member σ) → List Value → σ → Except DecodeError σ
  | _, [], s => .ok s
  | [], _ :: _, s => if excess = .ignored then .ok s else .error .shape
  | f :: members, v :: vs, s => do setListed excess members vs (← f.set v s)

def record {σ : Type} (excess : Excess) (members : List (Member σ)) (start : σ) : Decoder σ
  | .array items => setListed excess members items start
  | v => do setNamed members (← entries v) [] start

end DerivedStats.Toml
