/-! Why a text is no formula. -/

namespace DerivedStats.Formula

inductive Fault
  | unexpectedChar (c : Char)
  | unexpectedEnd
  | unterminatedVariable
  | emptyVariable
  | invalidNumber (lexeme : String)
  | unknownFunction (name : String)
  | tooDeep
deriving DecidableEq, Repr

def Fault.message : Fault → String
  | .unexpectedChar c => s!"unexpected character '{c}'"
  | .unexpectedEnd => "unexpected end of formula"
  | .unterminatedVariable => "unterminated %variable%"
  | .emptyVariable => "empty %variable%"
  | .invalidNumber lexeme => s!"invalid number '{lexeme}'"
  | .unknownFunction name => s!"unknown function '{name}'"
  | .tooDeep => "formula too large or nested too deeply"

structure CompileError where
  fault : Fault
  position : Nat
deriving DecidableEq, Repr

def CompileError.message (e : CompileError) : String :=
  s!"Parse error at {e.position}: {e.fault.message}"

end DerivedStats.Formula
