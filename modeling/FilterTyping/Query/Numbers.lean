import FilterTyping.Query.Statement
import FilterTyping.Value.Numbers

/-!
# Numbers in statements

The floating-point numbers that the literals of a statement hold, at every depth and in the parts
that are never checked too, and the statement with one zero in place of the two.
-/

namespace FilterTyping

/-! ## Terms -/

def Literal.floats : Literal → List Binary64
  | float x => [x]
  | null | bool _ | int _ | text _ => []

def Literal.mergeZeros : Literal → Literal
  | float x => float x.mergeZeros
  | value => value

mutual

def Term.floats : Term → List Binary64
  | .path _ | .parameter _ => []
  | .literal value => value.floats
  | .function _ args => Term.floatsAll args
  | .binary _ left right => Term.floats left ++ Term.floats right

def Term.floatsAll : List Term → List Binary64
  | [] => []
  | term :: terms => Term.floats term ++ Term.floatsAll terms

end

mutual

def Term.mergeZeros : Term → Term
  | .path p => .path p
  | .parameter name => .parameter name
  | .literal value => .literal value.mergeZeros
  | .function name args => .function name (Term.mergeZerosAll args)
  | .binary op left right => .binary op (Term.mergeZeros left) (Term.mergeZeros right)

def Term.mergeZerosAll : List Term → List Term
  | [] => []
  | term :: terms => Term.mergeZeros term :: Term.mergeZerosAll terms

end

/-! ## Statements -/

mutual

def Statement.floats : Statement → List Binary64
  | ⟨_, filter, groupFilter⟩ => Condition.floatsClause filter ++ Condition.floatsClause groupFilter

def Condition.floatsClause : Option Condition → List Binary64
  | none => []
  | some condition => Condition.floats condition

def Condition.floats : Condition → List Binary64
  | .or branches | .and branches => Condition.floatsAll branches
  | .not inner | .group inner => Condition.floats inner
  | .compare left _ right => Operand.floats left ++ Operand.floats right
  | .unchecked _ => []

def Condition.floatsAll : List Condition → List Binary64
  | [] => []
  | condition :: conditions => Condition.floats condition ++ Condition.floatsAll conditions

def Operand.floats : Operand → List Binary64
  | .term term => term.floats
  | .subselect statement | .quantified _ statement => Statement.floats statement

end

mutual

def Statement.mergeZeros : Statement → Statement
  | ⟨sources, filter, groupFilter⟩ =>
    ⟨sources, Condition.mergeZerosClause filter, Condition.mergeZerosClause groupFilter⟩

def Condition.mergeZerosClause : Option Condition → Option Condition
  | none => none
  | some condition => some (Condition.mergeZeros condition)

def Condition.mergeZeros : Condition → Condition
  | .or branches => .or (Condition.mergeZerosAll branches)
  | .and branches => .and (Condition.mergeZerosAll branches)
  | .not inner => .not (Condition.mergeZeros inner)
  | .group inner => .group (Condition.mergeZeros inner)
  | .compare left op right => .compare (Operand.mergeZeros left) op (Operand.mergeZeros right)
  | .unchecked text => .unchecked text

def Condition.mergeZerosAll : List Condition → List Condition
  | [] => []
  | condition :: conditions => Condition.mergeZeros condition :: Condition.mergeZerosAll conditions

def Operand.mergeZeros : Operand → Operand
  | .term term => .term term.mergeZeros
  | .subselect statement => .subselect (Statement.mergeZeros statement)
  | .quantified quantifier statement => .quantified quantifier (Statement.mergeZeros statement)

end

end FilterTyping
