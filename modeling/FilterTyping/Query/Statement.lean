import FilterTyping.Parameter.Basic

/-!
# Statements

The part of a select statement that filters its rows: the aliases it declares, and the conditions of
its two filter clauses.
-/

namespace FilterTyping

/-! ## Field paths -/

inductive PathKind where
  | state
  | toOne
  | collection
  deriving DecidableEq, Repr

structure FieldPath where
  qualifier : String
  field : Option String
  kind : PathKind
  deriving DecidableEq, Repr

def FieldPath.render (p : FieldPath) : String :=
  match p.field with
  | some field => p.qualifier ++ "." ++ field
  | none => p.qualifier

/-! ## Terms -/

inductive Literal where
  | null
  | bool (b : Bool)
  | int (n : Int)
  | float (x : Binary64)
  | text (s : String)
  deriving DecidableEq, Repr

inductive ArithmeticOp where
  | add | sub | mul | div
  deriving DecidableEq, Repr

inductive Term where
  | path (path : FieldPath)
  | parameter (name : String)
  | literal (value : Literal)
  | function (name : String) (args : List Term)
  | binary (op : ArithmeticOp) (left right : Term)
  deriving Repr

def Term.param (text : String) : Term :=
  .parameter (Parameter.bareName text)

/-! ## Conditions -/

inductive CompareOp where
  | eq | ne | lt | le | gt | ge
  deriving DecidableEq, Repr

namespace CompareOp

def all : List CompareOp := [eq, ne, lt, le, gt, ge]

def symbol : CompareOp → String
  | eq => "="
  | ne => "<>"
  | lt => "<"
  | le => "<="
  | gt => ">"
  | ge => ">="

end CompareOp

inductive Quantifier where
  | all | any | some
  deriving DecidableEq, Repr

structure Source where
  name : String
  entity : String
  deriving DecidableEq, Repr

mutual

structure Statement where
  sources : List Source
  filter : Option Condition
  groupFilter : Option Condition

inductive Condition where
  | or (branches : List Condition)
  | and (branches : List Condition)
  | not (inner : Condition)
  | group (inner : Condition)
  | compare (left : Operand) (op : CompareOp) (right : Operand)
  | unchecked (text : String)

inductive Operand where
  | term (term : Term)
  | subselect (statement : Statement)
  | quantified (quantifier : Quantifier) (statement : Statement)

end

def Operand.isQuantified : Operand → Bool
  | .quantified _ _ => true
  | _ => false

/-! ## Scopes -/

/-- The declarations in sight, those of the innermost statement first. -/
abbrev Scope := List (List Source)

namespace Scope

/-- Inner declarations hide outer ones, and earlier ones hide later ones of their statement. -/
def entityOf? (scope : Scope) (name : String) : Option String :=
  scope.findSome? fun sources => (sources.find? (·.name == name)).map (·.entity)

theorem entityOf?_cons (sources : List Source) (outer : Scope) (name : String) :
    entityOf? (sources :: outer) name =
      ((sources.find? (·.name == name)).map (·.entity)).or (entityOf? outer name) := by
  simp only [entityOf?, List.findSome?_cons]
  cases (sources.find? (·.name == name)).map (·.entity) <;> rfl

theorem entityOf?_eq_none_iff {scope : Scope} {name : String} :
    scope.entityOf? name = none ↔ ∀ sources ∈ scope, ∀ source ∈ sources, source.name ≠ name := by
  simp [entityOf?]

end Scope

end FilterTyping
