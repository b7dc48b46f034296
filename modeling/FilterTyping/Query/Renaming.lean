import FilterTyping.Query.Statement

/-!
# Renaming aliases

Every alias of a statement under a new name, where it is declared and where a path starts from it,
at every depth. Parts that are never checked are renamed as well.
-/

namespace FilterTyping

variable (rename : String → String)

def FieldPath.mapAlias (p : FieldPath) : FieldPath :=
  { p with qualifier := rename p.qualifier }

def Source.mapAlias (s : Source) : Source :=
  { s with name := rename s.name }

def Scope.mapAlias (scope : Scope) : Scope :=
  scope.map (·.map (·.mapAlias rename))

mutual

def Term.mapAlias : Term → Term
  | .path p => .path (p.mapAlias rename)
  | .parameter name => .parameter name
  | .literal value => .literal value
  | .function name args => .function name (Term.mapAliasAll args)
  | .binary op left right => .binary op (Term.mapAlias left) (Term.mapAlias right)

def Term.mapAliasAll : List Term → List Term
  | [] => []
  | term :: terms => Term.mapAlias term :: Term.mapAliasAll terms

end

mutual

def Statement.mapAlias : Statement → Statement
  | ⟨sources, filter, groupFilter⟩ =>
    ⟨sources.map (·.mapAlias rename), Condition.mapAliasClause filter,
      Condition.mapAliasClause groupFilter⟩

def Condition.mapAliasClause : Option Condition → Option Condition
  | none => none
  | some condition => some (Condition.mapAlias condition)

def Condition.mapAlias : Condition → Condition
  | .or branches => .or (Condition.mapAliasAll branches)
  | .and branches => .and (Condition.mapAliasAll branches)
  | .not inner => .not (Condition.mapAlias inner)
  | .group inner => .group (Condition.mapAlias inner)
  | .compare left op right => .compare (Operand.mapAlias left) op (Operand.mapAlias right)
  | .unchecked text => .unchecked text

def Condition.mapAliasAll : List Condition → List Condition
  | [] => []
  | condition :: conditions => Condition.mapAlias condition :: Condition.mapAliasAll conditions

def Operand.mapAlias : Operand → Operand
  | .term term => .term (term.mapAlias rename)
  | .subselect statement => .subselect (Statement.mapAlias statement)
  | .quantified quantifier statement => .quantified quantifier (Statement.mapAlias statement)

end

/-! ## Look-ups -/

variable {rename}

theorem Source.find?_mapAlias (hinj : Function.Injective rename) (sources : List Source)
    (name : String) :
    (sources.map (·.mapAlias rename)).find? (·.name == rename name) =
      (sources.find? (·.name == name)).map (·.mapAlias rename) := by
  rw [List.find?_map]
  congr 2
  funext source
  exact Bool.eq_iff_iff.mpr (by simp [Source.mapAlias, hinj.eq_iff])

/-- Distinct aliases must keep distinct names, or an inner one could come to hide an outer one. -/
theorem Scope.entityOf?_mapAlias (hinj : Function.Injective rename) (scope : Scope)
    (name : String) : (scope.mapAlias rename).entityOf? (rename name) = scope.entityOf? name := by
  induction scope with
  | nil => rfl
  | cons sources outer ih =>
    change Scope.entityOf? (sources.map (·.mapAlias rename) :: Scope.mapAlias rename outer) _ = _
    rw [Scope.entityOf?_cons, Scope.entityOf?_cons, ih, Source.find?_mapAlias hinj,
      Option.map_map]
    rfl

end FilterTyping
