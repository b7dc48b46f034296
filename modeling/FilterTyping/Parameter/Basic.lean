import FilterTyping.Value.Basic
import Std.Data.TreeMap

/-!
# Bound parameters

The parameters of a query, each under its bare name. A parameter may be written with a sigil, which
is not part of its name.
-/

namespace FilterTyping

/-! ## Names -/

namespace Parameter

def isSigil (c : Char) : Bool :=
  c == ':' || c == '?'

/-- The name without its sigil. At most one sigil is taken off. -/
def bareName (text : String) : String :=
  match text.toList with
  | c :: cs => if isSigil c then String.ofList cs else text
  | [] => text

end Parameter

/-! ## Parameters -/

structure Parameter where
  name : String
  declared : Option TypeToken
  value : Option Value

structure ParameterStore where
  find? : String → Option Parameter

structure Binding where
  text : String
  declared : Option TypeToken := none
  value : Option Value := none

structure Parameters where
  entries : Std.TreeMap String Parameter := {}

namespace Parameters

def empty : Parameters := {}

def size (ps : Parameters) : Nat := ps.entries.size

def isEmpty (ps : Parameters) : Bool := ps.entries.isEmpty

def find? (ps : Parameters) (name : String) : Option Parameter := ps.entries[name]?

instance : Coe Parameters ParameterStore where
  coe ps := { find? := ps.find? }

/-- Binds a parameter. Nothing is left of an older binding of its name. -/
def bind (ps : Parameters) (b : Binding) : Parameters :=
  let name := Parameter.bareName b.text
  ⟨ps.entries.insert name ⟨name, b.declared, b.value⟩⟩

@[simp]
theorem find?_empty (name : String) : empty.find? name = none := by
  simp [find?, empty]

theorem find?_bind (ps : Parameters) (b : Binding) (name : String) :
    (ps.bind b).find? name =
      if Parameter.bareName b.text = name then some ⟨name, b.declared, b.value⟩
      else ps.find? name := by
  simp only [find?, bind, Std.TreeMap.getElem?_insert, Std.LawfulEqOrd.compare_eq_iff_eq]
  split
  · next h => rw [h]
  · rfl

def ofList (bs : List Binding) : Parameters :=
  bs.foldl bind empty

end Parameters

end FilterTyping
