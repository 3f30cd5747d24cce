import DerivedStats.Attribute.Registry
import DerivedStats.Notice

/-! Putting a schema in force. -/

namespace DerivedStats.Attribute.Registry

def collisionNotice (c : Collision) : Notice := .duplicateAttribute c.key c.winning c.replaced

def rebuild (s : Schema) : Registry × List Notice :=
  let r := ofSchema s
  (r, (if s.isEmpty then [.emptySchema] else []) ++ r.collisions.map collisionNotice)

end DerivedStats.Attribute.Registry
