import DerivedStats.Random.ChaCha

/-! Sources of unit samples: each draw has its sample in `[0, 1)`. -/

namespace DerivedStats.Random

abbrev Units := Nat → Float

def spread (s : UInt64) : UInt64 := s * 6364136223846793005 + 11634580027462260723

def spreadWord (s : UInt64) : UInt32 :=
  let x := (((s >>> 18) ^^^ s) >>> 27).toUInt32
  let r := (s >>> 59).toUInt32
  (x >>> r) ||| (x <<< ((32 - r) &&& 31))

def seedKey (seed : UInt64) : Key :=
  Vector.ofFn fun i => spreadWord (Nat.repeat spread (i.val + 1) seed)

def unitOf (x : UInt64) : Float := Float.ofScientific (x >>> 11).toNat false 0 / 9007199254740992

def seeded (seed : UInt64) : Units := fun n => unitOf (pair (seedKey seed) n)

def cycle (units : List Float) : Units := fun n => units.getD (n % units.length) 0.5

end DerivedStats.Random
