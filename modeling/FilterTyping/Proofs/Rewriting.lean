import FilterTyping.Proofs.Findings
import Mathlib.Logic.Relation

/-!
# Rewriting a statement

Changes to a statement that no check can tell. They leave the list of its comparisons as it is, and
a walk depends on nothing else.
-/

namespace FilterTyping

/-! ## Rewrites -/

inductive Junction where
  | or
  | and
  deriving DecidableEq, Repr

def Condition.join : Junction → List Condition → Condition
  | .or => .or
  | .and => .and

inductive Condition.Idle : Condition → Prop
  | unchecked {text : String} : Idle (.unchecked text)
  | empty {junction : Junction} : Idle (.join junction [])

def Operand.isSubselect : Operand → Bool
  | .subselect _ => true
  | _ => false

mutual

/-- One change, at any depth. -/
inductive Statement.Rewrite : Statement → Statement → Prop
  | move {sources : List Source} {condition : Condition} :
    Statement.Rewrite ⟨sources, some condition, none⟩ ⟨sources, none, some condition⟩
  | filter {sources : List Source} {clause clause' groupFilter : Option Condition}
    (hinside : Condition.RewriteClause clause clause') :
    Statement.Rewrite ⟨sources, clause, groupFilter⟩ ⟨sources, clause', groupFilter⟩
  | groupFilter {sources : List Source} {filter clause clause' : Option Condition}
    (hinside : Condition.RewriteClause clause clause') :
    Statement.Rewrite ⟨sources, filter, clause⟩ ⟨sources, filter, clause'⟩

inductive Condition.RewriteClause : Option Condition → Option Condition → Prop
  | insert {condition : Condition} (hidle : condition.Idle) :
    Condition.RewriteClause none (some condition)
  | inside {condition condition' : Condition} (hinside : Condition.Rewrite condition condition') :
    Condition.RewriteClause (some condition) (some condition')

inductive Condition.Rewrite : Condition → Condition → Prop
  | unwrapNot {inner : Condition} : Condition.Rewrite (.not inner) inner
  | unwrapGroup {inner : Condition} : Condition.Rewrite (.group inner) inner
  | exchange {old new : Junction} {branches : List Condition} :
    Condition.Rewrite (.join old branches) (.join new branches)
  -- The branches of a branch take its place.
  | splice {outer inner : Junction} {before branches after : List Condition} :
    Condition.Rewrite (.join outer (before ++ .join inner branches :: after))
      (.join outer (before ++ branches ++ after))
  | insert {junction : Junction} {before after : List Condition} {condition : Condition}
    (hidle : condition.Idle) :
    Condition.Rewrite (.join junction (before ++ after))
      (.join junction (before ++ condition :: after))
  | operator {left right : Operand} {old new : CompareOp} :
    Condition.Rewrite (.compare left old right) (.compare left new right)
  -- Two subselects are walked in the order in which they stand, so they stay where they are.
  | swap {left right : Operand} {op : CompareOp}
    (hone : ¬(left.isSubselect ∧ right.isSubselect)) :
    Condition.Rewrite (.compare left op right) (.compare right op left)
  | not {inner inner' : Condition} (hinside : Condition.Rewrite inner inner') :
    Condition.Rewrite (.not inner) (.not inner')
  | group {inner inner' : Condition} (hinside : Condition.Rewrite inner inner') :
    Condition.Rewrite (.group inner) (.group inner')
  | branch {junction : Junction} {before after : List Condition} {condition condition' : Condition}
    (hinside : Condition.Rewrite condition condition') :
    Condition.Rewrite (.join junction (before ++ condition :: after))
      (.join junction (before ++ condition' :: after))
  | left {left left' right : Operand} {op : CompareOp} (hinside : Operand.Rewrite left left') :
    Condition.Rewrite (.compare left op right) (.compare left' op right)
  | right {left right right' : Operand} {op : CompareOp} (hinside : Operand.Rewrite right right') :
    Condition.Rewrite (.compare left op right) (.compare left op right')

-- Quantified statements and the insides of terms are not looked at.
inductive Operand.Rewrite : Operand → Operand → Prop
  | literal {old new : Literal} :
    Operand.Rewrite (.term (.literal old)) (.term (.literal new))
  | function {name name' : String} {args args' : List Term} :
    Operand.Rewrite (.term (.function name args)) (.term (.function name' args'))
  | binary {op op' : ArithmeticOp} {left left' right right' : Term} :
    Operand.Rewrite (.term (.binary op left right)) (.term (.binary op' left' right'))
  | quantified {quantifier : Quantifier} {old new : Statement} :
    Operand.Rewrite (.quantified quantifier old) (.quantified quantifier new)
  | subselect {statement statement' : Statement}
    (hinside : Statement.Rewrite statement statement') :
    Operand.Rewrite (.subselect statement) (.subselect statement')

end

/-! ## Comparisons -/

namespace Condition

variable (scope : Scope)

theorem branchComparisons_append (before after : List Condition) :
    branchComparisons scope (before ++ after) =
      branchComparisons scope before ++ branchComparisons scope after := by
  induction before with
  | nil => rfl
  | cons condition before ih =>
    rw [List.cons_append, branchComparisons, branchComparisons, ih, List.append_assoc]

theorem comparisons_join (junction : Junction) (branches : List Condition) :
    comparisons scope (join junction branches) = branchComparisons scope branches := by
  cases junction with
  | or => rw [join, comparisons]
  | and => rw [join, comparisons]

theorem comparisons_join_branch (junction : Junction) (before after : List Condition)
    (condition : Condition) :
    comparisons scope (join junction (before ++ condition :: after)) =
      branchComparisons scope before ++ comparisons scope condition ++
        branchComparisons scope after := by
  rw [comparisons_join, branchComparisons_append, branchComparisons, List.append_assoc]

theorem Idle.comparisons_eq {condition : Condition} (hidle : condition.Idle) :
    comparisons scope condition = [] := by
  cases hidle with
  | unchecked => rw [comparisons]
  | empty => rw [comparisons_join, branchComparisons]

theorem comparisons_swap {left right : Operand} (hone : ¬(left.isSubselect ∧ right.isSubselect))
    (op : CompareOp) :
    comparisons scope (.compare left op right) = comparisons scope (.compare right op left) := by
  -- A side that is no subselect adds something only as a path across from a parameter, and then the
  -- other side adds nothing. So at most one side adds anything.
  rcases left with (_ | _ | _ | _ | _) | _ | _ <;>
  rcases right with (_ | _ | _ | _ | _) | _ | _ <;>
  simp [comparisons, Operand.subselectComparisons, Operand.isSubselect] at hone ⊢

theorem comparisons_compare_congr {left left' right right' : Operand} (op op' : CompareOp)
    (hleft : left.isQuantified = left'.isQuantified)
    (hright : right.isQuantified = right'.isQuantified)
    (hforth : left.comparisonsAgainst scope right = left'.comparisonsAgainst scope right')
    (hback : right.comparisonsAgainst scope left = right'.comparisonsAgainst scope left') :
    comparisons scope (.compare left op right) = comparisons scope (.compare left' op' right') := by
  rw [comparisons_compare, comparisons_compare, hleft, hright, hforth, hback]

end Condition

/-- One operand does for the other on either side of any comparison. -/
structure Operand.Interchangeable (operand operand' : Operand) : Prop where
  isQuantified_eq : operand.isQuantified = operand'.isQuantified
  against_eq (scope : Scope) (other : Operand) :
    operand.comparisonsAgainst scope other = operand'.comparisonsAgainst scope other
  across_eq (scope : Scope) (other : Operand) :
    other.comparisonsAgainst scope operand = other.comparisonsAgainst scope operand'

theorem Operand.Interchangeable.subselect {statement statement' : Statement}
    (hsame : ∀ scope, statement.comparisons scope = statement'.comparisons scope) :
    (Operand.subselect statement).Interchangeable (.subselect statement') := by
  refine ⟨rfl, fun scope _ => hsame scope, fun _ other => ?_⟩
  rcases other with (_ | _ | _ | _ | _) | _ | _ <;> rfl

/-! ## Rewrites keep the comparisons -/

-- The induction is on the place of the change, and the scope grows where it lies in a subselect.
mutual

theorem Statement.Rewrite.comparisons_eq : ∀ {statement statement' : Statement},
    statement.Rewrite statement' → ∀ outer : Scope,
      statement.comparisons outer = statement'.comparisons outer
  | _, _, .move, outer => by
    simp only [Statement.comparisons, Condition.clauseComparisons, List.append_nil,
      List.nil_append]
  | _, _, .filter hinside, outer => by
    rw [Statement.comparisons, Statement.comparisons, hinside.comparisons_eq]
  | _, _, .groupFilter hinside, outer => by
    rw [Statement.comparisons, Statement.comparisons, hinside.comparisons_eq]

theorem Condition.RewriteClause.comparisons_eq : ∀ {clause clause' : Option Condition},
    Condition.RewriteClause clause clause' → ∀ scope : Scope,
      Condition.clauseComparisons scope clause = Condition.clauseComparisons scope clause'
  | _, _, .insert hidle, scope => by
    rw [Condition.clauseComparisons, Condition.clauseComparisons, hidle.comparisons_eq]
  | _, _, .inside hinside, scope => by
    rw [Condition.clauseComparisons, Condition.clauseComparisons, hinside.comparisons_eq]

theorem Condition.Rewrite.comparisons_eq : ∀ {condition condition' : Condition},
    condition.Rewrite condition' → ∀ scope : Scope,
      condition.comparisons scope = condition'.comparisons scope
  | _, _, .unwrapNot, scope => by rw [Condition.comparisons]
  | _, _, .unwrapGroup, scope => by rw [Condition.comparisons]
  | _, _, .exchange, scope => by rw [Condition.comparisons_join, Condition.comparisons_join]
  | _, _, .splice, scope => by
    rw [Condition.comparisons_join_branch, Condition.comparisons_join, Condition.comparisons_join,
      Condition.branchComparisons_append, Condition.branchComparisons_append]
  | _, _, .insert hidle, scope => by
    rw [Condition.comparisons_join_branch, hidle.comparisons_eq, List.append_nil,
      Condition.comparisons_join, Condition.branchComparisons_append]
  | _, _, .operator, scope => Condition.comparisons_compare_congr scope _ _ rfl rfl rfl rfl
  | _, _, .swap hone, scope => Condition.comparisons_swap scope hone _
  | _, _, .not hinside, scope => by
    rw [Condition.comparisons, Condition.comparisons, hinside.comparisons_eq]
  | _, _, .group hinside, scope => by
    rw [Condition.comparisons, Condition.comparisons, hinside.comparisons_eq]
  | _, _, .branch hinside, scope => by
    rw [Condition.comparisons_join_branch, Condition.comparisons_join_branch,
      hinside.comparisons_eq]
  | _, _, .left hinside, scope => by
    have hsame := hinside.interchangeable
    exact Condition.comparisons_compare_congr scope _ _ hsame.isQuantified_eq rfl
      (hsame.against_eq scope _) (hsame.across_eq scope _)
  | _, _, .right hinside, scope => by
    have hsame := hinside.interchangeable
    exact Condition.comparisons_compare_congr scope _ _ rfl hsame.isQuantified_eq
      (hsame.across_eq scope _) (hsame.against_eq scope _)

theorem Operand.Rewrite.interchangeable : ∀ {operand operand' : Operand},
    operand.Rewrite operand' → operand.Interchangeable operand'
  | _, _, .literal | _, _, .function | _, _, .binary | _, _, .quantified => by
    refine ⟨rfl, fun _ _ => rfl, fun _ other => ?_⟩
    rcases other with (_ | _ | _ | _ | _) | _ | _ <;> rfl
  | _, _, .subselect hinside => .subselect hinside.comparisons_eq

end

theorem Statement.comparisons_eq_of_rewrites {statement statement' : Statement}
    (hrewrites : Relation.EqvGen Statement.Rewrite statement statement') (outer : Scope) :
    statement.comparisons outer = statement'.comparisons outer := by
  induction hrewrites with
  | rel _ _ hrewrite => exact hrewrite.comparisons_eq outer
  | refl _ => rfl
  | symm _ _ _ ih => exact ih.symm
  | trans _ _ _ _ _ ih ih' => exact ih.trans ih'

/-- Statements that rewrites lead from one to the other are walked alike, whatever is to hear of
it. -/
theorem walk_eq_of_rewrites {statement statement' : Statement}
    (hrewrites : Relation.EqvGen Statement.Rewrite statement statement') (ctx : Context) :
    (∀ (m : Type → Type) [Monad m] [LawfulMonad m] (obs : Observer m) (outer : Scope),
      statement.walk ctx obs outer = statement'.walk ctx obs outer) ∧
    ∀ (report : Mismatch → HostM Ruling) (h : Host),
      statement.check ctx report h = statement'.check ctx report h := by
  refine ⟨fun m _ _ obs outer => ?_, fun report h => ?_⟩
  · rw [Statement.walk_eq, Statement.walk_eq, Statement.comparisons_eq_of_rewrites hrewrites]
  · rw [Statement.check_eq, Statement.check_eq, Statement.comparisons_eq_of_rewrites hrewrites]

/-! ## A rewritten subselect -/

def belowLimit : Condition :=
  .compare (.term (.path ⟨"i", some "price", .state⟩)) .lt (.term (.parameter "limit"))

def limitBelow : Condition :=
  .compare (.term (.parameter "limit")) .lt (.term (.path ⟨"i", some "price", .state⟩))

def noneEqual (subselect : Statement) : Statement :=
  ⟨[], some (.and [.not (.compare (.subselect subselect) .eq (.term (.literal (.int 0))))]), none⟩

def flagAsLimit : Context where
  schema := Schema.empty.insert { path := "Issue", fields := [⟨"price", .column .integer, none⟩] }
  parameters := Parameters.ofList [⟨"limit", some (.column .boolean), none⟩]

theorem rewritten_subselect_is_reported_alike :
    let original := noneEqual ⟨[⟨"i", "Issue"⟩], some belowLimit, none⟩
    let subselect : Operand := .subselect ⟨[⟨"i", "Issue"⟩], none, some limitBelow⟩
    let rewritten : Statement := ⟨[], some (.and [
      .compare subselect .eq (.term (.literal (.int 0))),
      .unchecked "EXISTS (...)"]), none⟩
    let report := Policy.report (fun _ => pure ()) (.forward (.sink ⟨0⟩))
    Relation.EqvGen Statement.Rewrite original rewritten ∧
      original.check flagAsLimit report {} = rewritten.check flagAsLimit report {} ∧
      (rewritten.check flagAsLimit report {}).1.2.deliveries = [(⟨0⟩,
        Mismatch.notice ⟨"limit", .column .boolean, [.column .integer], "i.price"⟩)] := by
  intro original subselect rewritten report
  have hinside {old new : Statement} (hrewrite : old.Rewrite new) :
      (noneEqual old).Rewrite (noneEqual new) :=
    .filter (.inside (@Condition.Rewrite.branch .and [] [] _ _
      (.not (.left (.subselect hrewrite)))))
  have hmove : (noneEqual ⟨[⟨"i", "Issue"⟩], some belowLimit, none⟩).Rewrite
      (noneEqual ⟨[⟨"i", "Issue"⟩], none, some belowLimit⟩) := hinside .move
  have hswap : (noneEqual ⟨[⟨"i", "Issue"⟩], none, some belowLimit⟩).Rewrite
      (noneEqual ⟨[⟨"i", "Issue"⟩], none, some limitBelow⟩) :=
    hinside (.groupFilter (.inside (.swap (by decide))))
  have hrewrites : Relation.EqvGen Statement.Rewrite original rewritten :=
    .trans _ _ _ (.rel _ _ hmove) (.trans _ _ _ (.rel _ _ hswap) (.trans _ _ _
      (.rel _ _ (.filter (.inside (@Condition.Rewrite.branch .and [] [] _ _ .unwrapNot))))
      (.rel _ _ (.filter (.inside (@Condition.Rewrite.insert .and [_] [] _ .unchecked))))))
  exact ⟨hrewrites, (walk_eq_of_rewrites hrewrites flagAsLimit).2 report {}, by decide +kernel⟩

-- Two subselects are listed in the order in which they stand.
example :
    let price : Operand := .term (.path ⟨"i", some "price", .state⟩)
    let side (name : String) : Operand :=
      .subselect ⟨[⟨"i", "Issue"⟩], some (.compare price .lt (.term (.parameter name))), none⟩
    Condition.comparisons [] (.compare (side "a") .eq (side "b")) ≠
      Condition.comparisons [] (.compare (side "b") .eq (side "a")) := by
  decide

end FilterTyping
