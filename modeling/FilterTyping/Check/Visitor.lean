import FilterTyping.Check.Walk

/-!
# Visitors

A visitor looks at a statement and may fail. A chain runs visitors one after the other, and is
itself a visitor.
-/

namespace FilterTyping

abbrev Visitor (m : Type → Type) := Statement → ExceptT Failure m Unit

/-- Visitors put together from chains. A leaf says what to run, in whatever form `α` has. -/
inductive VisitorTree (α : Type) where
  | leaf (visitor : α)
  | chain (visitors : List (VisitorTree α))

namespace VisitorTree

variable {α : Type} {m : Type → Type} [Monad m]

def install (visitors : List (VisitorTree α)) (visitor : VisitorTree α) : List (VisitorTree α) :=
  visitors ++ [visitor]

mutual

def leaves : VisitorTree α → List α
  | leaf visitor => [visitor]
  | chain visitors => leavesAll visitors

def leavesAll : List (VisitorTree α) → List α
  | [] => []
  | visitor :: visitors => leaves visitor ++ leavesAll visitors

end

mutual

/-- Runs the leaves, read as visitors, up to the first failure. -/
def visit (read : α → Visitor m) (statement : Statement) :
    VisitorTree α → ExceptT Failure m Unit
  | leaf visitor => read visitor statement
  | chain visitors => visitAll read statement visitors

def visitAll (read : α → Visitor m) (statement : Statement) :
    List (VisitorTree α) → ExceptT Failure m Unit
  | [] => pure ()
  | visitor :: visitors => do
    visit read statement visitor
    visitAll read statement visitors

end

mutual

def mapM {β : Type} (f : α → m β) : VisitorTree α → m (VisitorTree β)
  | leaf visitor => leaf <$> f visitor
  | chain visitors => chain <$> mapAllM f visitors

def mapAllM {β : Type} (f : α → m β) : List (VisitorTree α) → m (List (VisitorTree β))
  | [] => pure []
  | visitor :: visitors => do
    let visitor ← mapM f visitor
    return visitor :: (← mapAllM f visitors)

end

end VisitorTree

end FilterTyping
