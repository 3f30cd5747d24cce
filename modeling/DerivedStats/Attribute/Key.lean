import DerivedStats.Text.Blank

/-! Canonical attribute keys: all spellings of an attribute share one. -/

namespace DerivedStats.Attribute

def canonicalChar (c : Char) : Char :=
  if c = '-' ∨ Text.isBlank c then '_' else c.toLower

def canonicalKey (s : String) : String :=
  String.ofList ((Text.trimmed s.toList).map canonicalChar)

end DerivedStats.Attribute
