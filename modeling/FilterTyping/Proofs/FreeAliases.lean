import FilterTyping.Check.Walk
import FilterTyping.Schema.Basic

/-!
# Free aliases

An alias of a checked path is free in a statement if neither the statement nor a subselect around
the path declares it. Of the enclosing statements, a walk reads nothing but what they say of the
free aliases.
-/

namespace FilterTyping

mutual

def Statement.freeAliases : Statement → List String
  | ⟨sources, filter, groupFilter⟩ =>
    (Condition.clauseFreeAliases filter ++ Condition.clauseFreeAliases groupFilter).filter
      fun name => sources.all (·.name != name)

def Condition.clauseFreeAliases : Option Condition → List String
  | none => []
  | some condition => Condition.freeAliases condition

def Condition.freeAliases : Condition → List String
  | .or branches => Condition.branchFreeAliases branches
  | .and branches => Condition.branchFreeAliases branches
  | .not inner => Condition.freeAliases inner
  | .group inner => Condition.freeAliases inner
  | .compare left _ right =>
    if left.isQuantified || right.isQuantified then []
    else Operand.freeAliases left right ++ Operand.freeAliases right left
  | .unchecked _ => []

def Condition.branchFreeAliases : List Condition → List String
  | [] => []
  | condition :: conditions =>
    Condition.freeAliases condition ++ Condition.branchFreeAliases conditions

/-- A path is checked across from a parameter only. -/
def Operand.freeAliases : Operand → Operand → List String
  | .term (.path path), .term (.parameter _) => [path.qualifier]
  | .subselect statement, _ => Statement.freeAliases statement
  | _, _ => []

end

/-! ## Scopes that agree -/

namespace Scope

def AgreeOn (names : List String) (scope scope' : Scope) : Prop :=
  ∀ name ∈ names, scope.entityOf? name = scope'.entityOf? name

namespace AgreeOn

variable {names names' : List String} {scope scope' : Scope}

theorem left (hagree : AgreeOn (names ++ names') scope scope') : AgreeOn names scope scope' :=
  fun name hname => hagree name (List.mem_append_left names' hname)

theorem right (hagree : AgreeOn (names ++ names') scope scope') : AgreeOn names' scope scope' :=
  fun name hname => hagree name (List.mem_append_right names hname)

theorem push {sources : List Source}
    (hagree : AgreeOn (names.filter fun name => sources.all (·.name != name)) scope scope') :
    AgreeOn names (sources :: scope) (sources :: scope') := by
  intro name hname
  rw [entityOf?_cons, entityOf?_cons]
  cases hfound : sources.find? (·.name == name) with
  | some source => rfl
  | none =>
    have hfree : sources.all (·.name != name) := by
      rw [List.find?_eq_none] at hfound
      simpa using hfound
    rw [hagree name (List.mem_filter.mpr ⟨hname, hfree⟩)]

end AgreeOn

end Scope

/-! ## Walks -/

variable {m : Type → Type} [Monad m] (ctx : Context) (obs : Observer m)

theorem Comparison.verify_congr {scope scope' : Scope} {path : FieldPath} (parameter : String)
    (hagree : scope.entityOf? path.qualifier = scope'.entityOf? path.qualifier) :
    Comparison.verify ctx obs ⟨scope, path, parameter⟩ =
      Comparison.verify ctx obs ⟨scope', path, parameter⟩ := by
  have hjudge : Comparison.judge ctx ⟨scope, path, parameter⟩ =
      Comparison.judge ctx ⟨scope', path, parameter⟩ := by
    simp only [Comparison.judge, Comparison.expected, hagree]
  rw [Comparison.verify, Comparison.verify, hjudge]
  rfl

-- The induction is on the tree, over two scopes at once: a subselect adds its aliases to both.
mutual

theorem Statement.walk_congr : ∀ (statement : Statement) {outer outer' : Scope},
    Scope.AgreeOn statement.freeAliases outer outer' →
      statement.walk ctx obs outer = statement.walk ctx obs outer'
  | ⟨sources, filter, groupFilter⟩, outer, outer', hagree => by
    rw [Statement.freeAliases] at hagree
    rw [Statement.walk, Statement.walk, Condition.walkClause_congr filter hagree.push.left,
      Condition.walkClause_congr groupFilter hagree.push.right]

theorem Condition.walkClause_congr : ∀ (clause : Option Condition) {scope scope' : Scope},
    Scope.AgreeOn (Condition.clauseFreeAliases clause) scope scope' →
      Condition.walkClause ctx obs scope clause = Condition.walkClause ctx obs scope' clause
  | none, _, _, _ => rfl
  | some condition, _, _, hagree => Condition.walk_congr condition hagree

theorem Condition.walk_congr : ∀ (condition : Condition) {scope scope' : Scope},
    Scope.AgreeOn condition.freeAliases scope scope' →
      condition.walk ctx obs scope = condition.walk ctx obs scope'
  | .or branches, _, _, hagree => by
    rw [Condition.freeAliases] at hagree
    rw [Condition.walk, Condition.walk, Condition.walkAll_congr branches hagree]
  | .and branches, _, _, hagree => by
    rw [Condition.freeAliases] at hagree
    rw [Condition.walk, Condition.walk, Condition.walkAll_congr branches hagree]
  | .not inner, _, _, hagree => by
    rw [Condition.freeAliases] at hagree
    rw [Condition.walk, Condition.walk, Condition.walk_congr inner hagree]
  | .group inner, _, _, hagree => by
    rw [Condition.freeAliases] at hagree
    rw [Condition.walk, Condition.walk, Condition.walk_congr inner hagree]
  | .compare left op right, _, _, hagree => by
    rw [Condition.freeAliases] at hagree
    rw [Condition.walk, Condition.walk]
    split at hagree
    · next hquantified => rw [if_pos hquantified, if_pos hquantified]
    · next hquantified =>
      rw [if_neg hquantified, if_neg hquantified, Operand.walk_congr left right hagree.left,
        Operand.walk_congr right left hagree.right]
  | .unchecked _, _, _, _ => by rw [Condition.walk, Condition.walk]

theorem Condition.walkAll_congr : ∀ (branches : List Condition) {scope scope' : Scope},
    Scope.AgreeOn (Condition.branchFreeAliases branches) scope scope' →
      Condition.walkAll ctx obs scope branches = Condition.walkAll ctx obs scope' branches
  | [], _, _, _ => rfl
  | condition :: conditions, _, _, hagree => by
    rw [Condition.branchFreeAliases] at hagree
    rw [Condition.walkAll, Condition.walkAll, Condition.walk_congr condition hagree.left,
      Condition.walkAll_congr conditions hagree.right]

theorem Operand.walk_congr : ∀ (operand other : Operand) {scope scope' : Scope},
    Scope.AgreeOn (operand.freeAliases other) scope scope' →
      operand.walk ctx obs scope other = operand.walk ctx obs scope' other
  | .subselect statement, other, _, _, hagree => by
    rw [Operand.freeAliases] at hagree
    rw [Operand.walk, Operand.walk, Statement.walk_congr statement hagree]
  | .quantified _ _, other, _, _, _ => by simp only [Operand.walk]
  | .term term, other, _, _, hagree => by
    cases term
    case path path =>
      -- The entity of the path is looked up only across from a parameter.
      rcases other with (_ | parameter | _ | _ | _) | _ | _
      case term.parameter =>
        rw [Operand.freeAliases] at hagree
        rw [Operand.walk, Operand.walk]
        exact Comparison.verify_congr ctx obs parameter
          (hagree path.qualifier List.mem_cons_self)
      all_goals simp only [Operand.walk]
    all_goals simp only [Operand.walk]

end

/-- Walks come to the same if their scopes agree on the free aliases of the statement. A subselect
without any is walked as it is on its own. -/
theorem walk_depends_on_free_aliases (statement : Statement) :
    (∀ outer outer' : Scope,
      (∀ name ∈ statement.freeAliases, outer.entityOf? name = outer'.entityOf? name) →
        statement.walk ctx obs outer = statement.walk ctx obs outer') ∧
    (statement.freeAliases = [] → ∀ (scope : Scope) (other : Operand),
      (Operand.subselect statement).walk ctx obs scope other = statement.walk ctx obs []) := by
  refine ⟨fun _ _ hagree => Statement.walk_congr ctx obs statement hagree, ?_⟩
  intro hclosed scope other
  rw [Operand.walk]
  apply Statement.walk_congr ctx obs statement
  rw [hclosed]
  intro name hname
  cases hname

def cheapItem : Statement :=
  ⟨[⟨"o", "Item"⟩],
    some (.compare (.term (.path ⟨"o", some "price", .state⟩)) .lt (.term (.parameter "price"))),
    none⟩

def orderOfCheapItem : Statement :=
  ⟨[⟨"i", "Item"⟩, ⟨"i", "Order"⟩],
    some (.and [
      .compare (.term (.path ⟨"o", some "total", .state⟩)) .eq (.term (.parameter "total")),
      .compare (.term (.path ⟨"i", some "price", .state⟩)) .eq (.subselect cheapItem)]),
    none⟩

def flagsForNumbers : Context where
  schema := Schema.empty
    |>.insert { path := "Item", fields := [⟨"price", .column .integer, none⟩] }
    |>.insert { path := "Order", fields := [⟨"total", .column .integer, none⟩] }
  parameters := Parameters.ofList
    [⟨"price", some (.column .boolean), none⟩, ⟨"total", some (.column .boolean), none⟩]

theorem orderOfCheapItem_walked_alike :
    let obs : Observer (StateM (List Mismatch)) :=
      ⟨fun _ => pure (), fun mismatch => do modify (· ++ [mismatch]); return .proceed⟩
    let near : Scope := [[⟨"o", "Order"⟩], [⟨"o", "Item"⟩, ⟨"i", "Order"⟩]]
    let far : Scope := [[⟨"p", "Item"⟩], [⟨"o", "Order"⟩, ⟨"o", "Item"⟩]]
    (∀ name ∈ orderOfCheapItem.freeAliases, near.entityOf? name = far.entityOf? name) ∧
      orderOfCheapItem.walk flagsForNumbers obs near =
        orderOfCheapItem.walk flagsForNumbers obs far ∧
      ((orderOfCheapItem.walk flagsForNumbers obs near).run.run []).2 = [
        ⟨"total", .column .boolean, [.column .integer], "o.total"⟩,
        ⟨"price", .column .boolean, [.column .integer], "o.price"⟩] ∧
      cheapItem.freeAliases = [] ∧
      (Operand.subselect cheapItem).walk flagsForNumbers obs near (.term (.literal .null)) =
        cheapItem.walk flagsForNumbers obs [] := by
  intro obs near far
  have hagree : ∀ name ∈ orderOfCheapItem.freeAliases,
      near.entityOf? name = far.entityOf? name := by decide
  have hclosed : cheapItem.freeAliases = [] := by decide
  refine ⟨hagree, (walk_depends_on_free_aliases _ obs _).1 near far hagree, ?_, hclosed,
    (walk_depends_on_free_aliases _ obs _).2 hclosed near _⟩
  decide +kernel

end FilterTyping
