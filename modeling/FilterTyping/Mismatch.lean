import FilterTyping.Token.Basic

/-!
# Mismatches

A parameter whose type is none of those that the field it is compared with expects.
-/

namespace FilterTyping

structure Mismatch where
  parameter : String
  actual : TypeToken
  expected : List TypeToken
  field : String
  deriving DecidableEq, Repr

/-! ## Expected types as text -/

namespace TypeToken

def quoted (token : TypeToken) : String :=
  "\"" ++ token.render ++ "\""

/-- One type stands alone. Any other number of them, none included, is shown as a list. -/
def renderExpected : List TypeToken → String
  | [token] => token.quoted
  | tokens => "one of: [" ++ ", ".intercalate (tokens.map quoted) ++ "]"

end TypeToken

namespace Mismatch

def expectedNames (m : Mismatch) : List String :=
  m.expected.map (·.render)

def message (m : Mismatch) : String :=
  "parameter \"" ++ m.parameter ++ "\" is of type " ++ m.actual.quoted ++ ", but expected "
    ++ TypeToken.renderExpected m.expected ++ " (because it's used in expression with "
    ++ m.field ++ ")"

end Mismatch

end FilterTyping
