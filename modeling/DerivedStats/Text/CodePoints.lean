/-! Sets of code points, given by the ascending list of the points where membership changes. -/

namespace DerivedStats.Text

/-- The list `[a, b, c, d]` stands for the code points from `a` below `b` and from `c` below `d`. -/
abbrev Boundaries := List Nat

def Boundaries.member (n : Nat) : Bool → Boundaries → Bool
  | inside, [] => inside
  | inside, b :: bs => if n < b then inside else member n (!inside) bs

def Boundaries.covers (bs : Boundaries) (c : Char) : Bool :=
  bs.member c.toNat false

end DerivedStats.Text
