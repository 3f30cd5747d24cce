/-! Letter case. Only the letters A to Z have one here; every other character is its own
lower case. -/

namespace DerivedStats.Text

def lower (s : String) : String := String.ofList (s.toList.map Char.toLower)

def sameLetters (a b : String) : Bool := lower a == lower b

theorem sameLetters_iff {a b : String} : sameLetters a b = true ↔ lower a = lower b := beq_iff_eq

end DerivedStats.Text
