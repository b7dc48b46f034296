import FilterTyping.Check.Comparison

/-!
# Walking a statement

A walk judges the comparisons of a statement one after the other and stops at the first failure.
What becomes of a mismatch is for an observer to say, in a monad of its own.
-/

namespace FilterTyping

/-! ## Observers -/

inductive Ruling where
  | proceed
  | abort (mismatch : Mismatch)
  deriving DecidableEq, Repr

structure Skip where
  parameter : String
  field : String
  deriving DecidableEq, Repr

/-- Hears of every comparison that is passed over, and decides on every mismatch. -/
structure Observer (m : Type → Type) where
  skipped : Skip → m Unit
  report : Mismatch → m Ruling

variable {m : Type → Type} [Monad m]

def Comparison.skip (c : Comparison) : Skip :=
  ⟨c.parameter, c.path.render⟩

def Comparison.verify (ctx : Context) (obs : Observer m) (c : Comparison) :
    ExceptT Failure m Unit :=
  match c.judge ctx with
  | .unresolved => ExceptT.lift (obs.skipped c.skip)
  | .compatible => pure ()
  | .incompatible mismatch => do
    match ← ExceptT.lift (obs.report mismatch) with
    | .proceed => pure ()
    | .abort mismatch => throw (.mismatch mismatch)
  | .defective defect => throw (.defect defect)

/-! ## The walk -/

mutual

/-- The row filter, then the group filter, with the statement's own aliases innermost. -/
def Statement.walk (ctx : Context) (obs : Observer m) (outer : Scope) :
    Statement → ExceptT Failure m Unit
  | ⟨sources, filter, groupFilter⟩ => do
    Condition.walkClause ctx obs (sources :: outer) filter
    Condition.walkClause ctx obs (sources :: outer) groupFilter

def Condition.walkClause (ctx : Context) (obs : Observer m) (scope : Scope) :
    Option Condition → ExceptT Failure m Unit
  | none => pure ()
  | some condition => Condition.walk ctx obs scope condition

/-- Each side is taken with the other. A comparison with a quantified side is left alone. -/
def Condition.walk (ctx : Context) (obs : Observer m) (scope : Scope) :
    Condition → ExceptT Failure m Unit
  | .or branches => Condition.walkAll ctx obs scope branches
  | .and branches => Condition.walkAll ctx obs scope branches
  | .not inner => Condition.walk ctx obs scope inner
  | .group inner => Condition.walk ctx obs scope inner
  | .compare left _ right =>
    if left.isQuantified || right.isQuantified then pure ()
    else do
      Operand.walk ctx obs scope left right
      Operand.walk ctx obs scope right left
  | .unchecked _ => pure ()

def Condition.walkAll (ctx : Context) (obs : Observer m) (scope : Scope) :
    List Condition → ExceptT Failure m Unit
  | [] => pure ()
  | condition :: conditions => do
    Condition.walk ctx obs scope condition
    Condition.walkAll ctx obs scope conditions

def Operand.walk (ctx : Context) (obs : Observer m) (scope : Scope) :
    Operand → Operand → ExceptT Failure m Unit
  | .term (.path path), .term (.parameter name) => Comparison.verify ctx obs ⟨scope, path, name⟩
  | .subselect statement, _ => Statement.walk ctx obs scope statement
  | _, _ => pure ()

end

end FilterTyping
