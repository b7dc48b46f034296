import FilterTyping.Check.Walk

/-!
# The comparisons of a statement

The comparisons that a walk judges, as one list in the order of the text.
-/

namespace FilterTyping

mutual

def Statement.comparisons (outer : Scope) : Statement → List Comparison
  | ⟨sources, filter, groupFilter⟩ =>
    Condition.clauseComparisons (sources :: outer) filter
      ++ Condition.clauseComparisons (sources :: outer) groupFilter

def Condition.clauseComparisons (scope : Scope) : Option Condition → List Comparison
  | none => []
  | some condition => Condition.comparisons scope condition

def Condition.comparisons (scope : Scope) : Condition → List Comparison
  | .or branches => Condition.branchComparisons scope branches
  | .and branches => Condition.branchComparisons scope branches
  | .not inner => Condition.comparisons scope inner
  | .group inner => Condition.comparisons scope inner
  | .compare (.quantified _ _) _ _ => []
  | .compare _ _ (.quantified _ _) => []
  | .compare (.term (.path path)) _ (.term (.parameter name)) => [⟨scope, path, name⟩]
  | .compare (.term (.parameter name)) _ (.term (.path path)) => [⟨scope, path, name⟩]
  | .compare left _ right =>
    Operand.subselectComparisons scope left ++ Operand.subselectComparisons scope right
  | .unchecked _ => []

def Condition.branchComparisons (scope : Scope) : List Condition → List Comparison
  | [] => []
  | condition :: conditions =>
    Condition.comparisons scope condition ++ Condition.branchComparisons scope conditions

def Operand.subselectComparisons (scope : Scope) : Operand → List Comparison
  | .subselect statement => Statement.comparisons scope statement
  | _ => []

end

/-- Verifies comparisons in order and stops at the first failure. -/
def Comparison.verifyAll {m : Type → Type} [Monad m] (ctx : Context) (obs : Observer m) :
    List Comparison → ExceptT Failure m Unit
  | [] => pure ()
  | c :: cs => do
    c.verify ctx obs
    verifyAll ctx obs cs

theorem Comparison.verifyAll_append {m : Type → Type} [Monad m] [LawfulMonad m] (ctx : Context)
    (obs : Observer m) (as bs : List Comparison) :
    verifyAll ctx obs (as ++ bs) = (do verifyAll ctx obs as; verifyAll ctx obs bs) := by
  induction as with
  | nil => simp [verifyAll]
  | cons a as ih => simp [verifyAll, ih, bind_assoc]

end FilterTyping
