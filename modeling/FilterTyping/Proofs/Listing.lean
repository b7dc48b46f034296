import FilterTyping.Check.Listing
import FilterTyping.Schema.Basic

/-!
# A walk verifies the listed comparisons

The walk recurses through the statement and takes every comparison from both sides. It comes to the
same as verifying the comparisons of one flat list, in their order.
-/

namespace FilterTyping

/-! ## The list, side by side -/

def Operand.comparisonsAgainst (scope : Scope) : Operand → Operand → List Comparison
  | .term (.path path), .term (.parameter name) => [⟨scope, path, name⟩]
  | .subselect statement, _ => statement.comparisons scope
  | _, _ => []

theorem Condition.comparisons_compare (scope : Scope) (left : Operand) (op : CompareOp)
    (right : Operand) :
    Condition.comparisons scope (.compare left op right) =
      if left.isQuantified || right.isQuantified then []
      else left.comparisonsAgainst scope right ++ right.comparisonsAgainst scope left := by
  rcases left with (_ | _ | _ | _ | _) | _ | _ <;>
  rcases right with (_ | _ | _ | _ | _) | _ | _ <;>
  simp [Condition.comparisons, Operand.isQuantified, Operand.comparisonsAgainst,
    Operand.subselectComparisons]

/-! ## The walk -/

open Comparison (verifyAll verifyAll_append)

variable {m : Type → Type} [Monad m] (ctx : Context) (obs : Observer m)

-- One theorem for each function of the walk. The induction is on the tree, and the scope changes
-- only where a subselect adds its aliases.
mutual

theorem Statement.walk_eq [LawfulMonad m] (outer : Scope) : ∀ statement : Statement,
    statement.walk ctx obs outer = verifyAll ctx obs (statement.comparisons outer)
  | ⟨sources, filter, groupFilter⟩ => by
    rw [Statement.walk, Statement.comparisons, verifyAll_append,
      Condition.walkClause_eq (sources :: outer) filter,
      Condition.walkClause_eq (sources :: outer) groupFilter]

theorem Condition.walkClause_eq [LawfulMonad m] (scope : Scope) : ∀ clause : Option Condition,
    Condition.walkClause ctx obs scope clause =
      verifyAll ctx obs (Condition.clauseComparisons scope clause)
  | none => rfl
  | some condition => Condition.walk_eq scope condition

theorem Condition.walk_eq [LawfulMonad m] (scope : Scope) : ∀ condition : Condition,
    condition.walk ctx obs scope = verifyAll ctx obs (condition.comparisons scope)
  | .or branches => by
    rw [Condition.walk, Condition.comparisons, Condition.walkAll_eq scope branches]
  | .and branches => by
    rw [Condition.walk, Condition.comparisons, Condition.walkAll_eq scope branches]
  | .not inner => by
    rw [Condition.walk, Condition.comparisons, Condition.walk_eq scope inner]
  | .group inner => by
    rw [Condition.walk, Condition.comparisons, Condition.walk_eq scope inner]
  | .compare left op right => by
    rw [Condition.walk, Condition.comparisons_compare]
    split
    · rfl
    · rw [verifyAll_append, Operand.walk_eq scope left right, Operand.walk_eq scope right left]
  | .unchecked _ => by
    rw [Condition.walk, Condition.comparisons, verifyAll]

theorem Condition.walkAll_eq [LawfulMonad m] (scope : Scope) : ∀ branches : List Condition,
    Condition.walkAll ctx obs scope branches =
      verifyAll ctx obs (Condition.branchComparisons scope branches)
  | [] => rfl
  | condition :: conditions => by
    rw [Condition.walkAll, Condition.branchComparisons, verifyAll_append,
      Condition.walk_eq scope condition, Condition.walkAll_eq scope conditions]

theorem Operand.walk_eq [LawfulMonad m] (scope : Scope) : ∀ operand other : Operand,
    operand.walk ctx obs scope other = verifyAll ctx obs (operand.comparisonsAgainst scope other)
  | .subselect statement, other => by
    rw [Operand.walk, Operand.comparisonsAgainst, Statement.walk_eq scope statement]
  | .quantified _ _, other => by
    simp [Operand.walk, Operand.comparisonsAgainst, verifyAll]
  | .term term, other => by
    -- Only a path across from a parameter is verified.
    rcases term with _ | _ | _ | _ | _ <;>
    rcases other with (_ | _ | _ | _ | _) | _ | _ <;>
    simp [Operand.walk, Operand.comparisonsAgainst, verifyAll]

end

/-- A walk verifies the listed comparisons one after the other, whatever the observer does. -/
theorem walk_statement_eq_verifyAll_comparisons [LawfulMonad m] (statement : Statement) :
    statement.walk ctx obs [] = verifyAll ctx obs (statement.comparisons []) :=
  Statement.walk_eq ctx obs [] statement

/-- Two subselects side by side, one that a quantified side hides, and a missing field at the
end. -/
def nestedStatement : Statement :=
  let compared (parameter field : String) : Condition :=
    .compare (.term (.parameter parameter)) .eq (.term (.path ⟨"o", some field, .state⟩))
  let inner (name parameter : String) : Statement :=
    ⟨[⟨name, "Item"⟩], some (compared parameter "price"), none⟩
  ⟨[⟨"o", "Order"⟩],
    some (.and [
      .compare (.subselect (inner "i" "low")) .le (.subselect (inner "j" "high")),
      .not (.compare (.subselect (inner "k" "low")) .eq (.quantified .any (inner "l" "low")))]),
    some (.or [compared "total" "price", compared "total" "sum", compared "high" "price"])⟩

def flagsForPrices : Context where
  schema := Schema.empty.insert { path := "Order", fields := [⟨"price", .column .integer, none⟩] }
  parameters := Parameters.ofList
    [⟨":low", some (.column .boolean), none⟩, ⟨":total", none, some (.bool true)⟩]

def Observer.recording (ruling : Mismatch → Ruling) :
    Observer (StateM (List (Skip ⊕ Mismatch))) where
  skipped skip := modify (· ++ [.inl skip])
  report mismatch := do
    modify (· ++ [.inr mismatch])
    return ruling mismatch

theorem walk_nestedStatement :
    let low : Mismatch := ⟨"low", .column .boolean, [.column .integer], "o.price"⟩
    let total : Mismatch := ⟨"total", .column .boolean, [.column .integer], "o.price"⟩
    (nestedStatement.walk flagsForPrices (.recording fun _ => .proceed) []).run.run [] =
        (.error (.defect (.schema (.unknownField "Order" "sum"))),
          [.inr low, .inl ⟨"high", "o.price"⟩, .inr total]) ∧
      (nestedStatement.walk flagsForPrices (.recording .abort) []).run.run [] =
        (.error (.mismatch low), [.inr low]) := by
  rw [walk_statement_eq_verifyAll_comparisons, walk_statement_eq_verifyAll_comparisons]
  exact ⟨rfl, rfl⟩

end FilterTyping
