/-! JSON values. Members keep their order, and a name may occur more than once. -/

namespace DerivedStats.Json

inductive Value
  | null
  | boolean (b : Bool)
  | integer (n : Int)
  | real (x : Float)
  | string (s : String)
  | array (items : List Value)
  | object (members : List (String × Value))
  -- a number beyond every float, half a surrogate pair, or an object with such a name
  | unreadable
deriving Inhabited

namespace Value

def member? (name : String) : Value → Option Value
  | .object members => members.reverse.lookup name
  | _ => none

end Value

end DerivedStats.Json
