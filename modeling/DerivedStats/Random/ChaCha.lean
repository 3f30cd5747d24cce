/-! The ChaCha stream with eight rounds, a 64-bit block counter and a zero stream number. -/

namespace DerivedStats.Random

abbrev Words := Vector UInt32 16

def rotateLeft (x : UInt32) (n : UInt32) : UInt32 := (x <<< n) ||| (x >>> (32 - n))

def quarter (s : Words) (a b c d : Fin 16) : Words :=
  let s := s.set a (s[a] + s[b])
  let s := s.set d (rotateLeft (s[d] ^^^ s[a]) 16)
  let s := s.set c (s[c] + s[d])
  let s := s.set b (rotateLeft (s[b] ^^^ s[c]) 12)
  let s := s.set a (s[a] + s[b])
  let s := s.set d (rotateLeft (s[d] ^^^ s[a]) 8)
  let s := s.set c (s[c] + s[d])
  s.set b (rotateLeft (s[b] ^^^ s[c]) 7)

def doubleRound (s : Words) : Words :=
  let s := quarter (quarter s 0 4 8 12) 1 5 9 13
  let s := quarter (quarter s 2 6 10 14) 3 7 11 15
  let s := quarter (quarter s 0 5 10 15) 1 6 11 12
  quarter (quarter s 2 7 8 13) 3 4 9 14

abbrev Key := Vector UInt32 8

def initial (key : Key) (counter : UInt64) : Words :=
  #v[0x61707865, 0x3320646e, 0x79622d32, 0x6b206574,
    key[0], key[1], key[2], key[3], key[4], key[5], key[6], key[7],
    counter.toUInt32, (counter >>> 32).toUInt32, 0, 0]

def block (key : Key) (counter : UInt64) : Words :=
  let s := initial key counter
  Vector.zipWith (· + ·) (Nat.repeat doubleRound 4 s) s

def pair (key : Key) (n : Nat) : UInt64 :=
  let b := block key (UInt64.ofNat (n / 8))
  let i := n % 8
  have : i < 8 := Nat.mod_lt n (by decide)
  b[2 * i].toUInt64 ||| (b[2 * i + 1].toUInt64 <<< 32)

end DerivedStats.Random
