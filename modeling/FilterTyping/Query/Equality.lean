import FilterTyping.Query.Statement

/-!
# Equality of statements

Statements are equal part by part. Floating-point literals are compared as IEEE 754 says, so a
statement that holds a NaN does not equal itself.
-/

namespace FilterTyping

/-! ## Terms -/

def Literal.eqv : Literal → Literal → Bool
  | null, null => true
  | bool a, bool b => a == b
  | int a, int b => a == b
  | float a, float b => a.eqv b
  | text a, text b => a == b
  | _, _ => false

mutual

def Term.eqv : Term → Term → Bool
  | .path p, .path q => p == q
  | .parameter a, .parameter b => a == b
  | .literal a, .literal b => a.eqv b
  | .function f as, .function g bs => f == g && Term.eqvAll as bs
  | .binary o a b, .binary p c d => o == p && Term.eqv a c && Term.eqv b d
  | _, _ => false

def Term.eqvAll : List Term → List Term → Bool
  | [], [] => true
  | a :: as, b :: bs => Term.eqv a b && Term.eqvAll as bs
  | _, _ => false

end

/-! ## Statements -/

mutual

def Statement.eqv : Statement → Statement → Bool
  | ⟨as, f, g⟩, ⟨bs, f', g'⟩ => as == bs && Condition.eqvClause f f' && Condition.eqvClause g g'
termination_by structural x _ => x

def Condition.eqvClause : Option Condition → Option Condition → Bool
  | none, none => true
  | some a, some b => Condition.eqv a b
  | _, _ => false
termination_by structural x _ => x

def Condition.eqv : Condition → Condition → Bool
  | .or as, .or bs => Condition.eqvAll as bs
  | .and as, .and bs => Condition.eqvAll as bs
  | .not a, .not b => Condition.eqv a b
  | .group a, .group b => Condition.eqv a b
  | .compare l o r, .compare l' o' r' => Operand.eqv l l' && o == o' && Operand.eqv r r'
  | .unchecked a, .unchecked b => a == b
  | _, _ => false
termination_by structural x _ => x

def Condition.eqvAll : List Condition → List Condition → Bool
  | [], [] => true
  | a :: as, b :: bs => Condition.eqv a b && Condition.eqvAll as bs
  | _, _ => false
termination_by structural x _ => x

def Operand.eqv : Operand → Operand → Bool
  | .term a, .term b => a.eqv b
  | .subselect a, .subselect b => Statement.eqv a b
  | .quantified q a, .quantified p b => q == p && Statement.eqv a b
  | _, _ => false
termination_by structural x _ => x

end

end FilterTyping
