import FilterTyping.Value.Basic

/-!
# Numbers in values

The floating-point numbers that a value holds at any depth, and the value with one zero in place of
the two.
-/

namespace FilterTyping

namespace Binary64

/-- The zeros become one, the other numbers and the NaNs stay. -/
def mergeZeros (x : Binary64) : Binary64 :=
  if x.isZero then ⟨0⟩ else x

def NaNFree (numbers : List Binary64) : Prop :=
  ∀ x ∈ numbers, ¬ x.isNaN

@[simp]
theorem nanFree_nil : NaNFree [] := by
  simp [NaNFree]

@[simp]
theorem nanFree_singleton {x : Binary64} : NaNFree [x] ↔ ¬ x.isNaN := by
  simp [NaNFree]

@[simp]
theorem nanFree_append {xs ys : List Binary64} :
    NaNFree (xs ++ ys) ↔ NaNFree xs ∧ NaNFree ys :=
  List.forall_mem_append

theorem mergeZeros_eq_iff {x y : Binary64} :
    x.mergeZeros = y.mergeZeros ↔ x = y ∨ x.isZero ∧ y.isZero := by
  have hzero : isZero ⟨0⟩ := by decide
  unfold mergeZeros
  split <;> split <;> grind

theorem eqv_iff {x y : Binary64} :
    x.eqv y ↔ ¬ x.isNaN ∧ ¬ y.isNaN ∧ x.mergeZeros = y.mergeZeros := by
  have hbits : x.bits = y.bits ↔ x = y := by
    cases x
    cases y
    simp
  simp [eqv, mergeZeros_eq_iff, hbits, and_assoc]

end Binary64

namespace Value

mutual

def floats : Value → List Binary64
  | float x => [x]
  | list items => floatsAll items
  | enumCase _ backing => floats backing
  | null | bool _ | int _ | text _ | date _ | instant _ | object _ => []

def floatsAll : List Value → List Binary64
  | [] => []
  | item :: items => floats item ++ floatsAll items

end

mutual

def mergeZeros : Value → Value
  | float x => float x.mergeZeros
  | list items => list (mergeZerosAll items)
  | enumCase path backing => enumCase path (mergeZeros backing)
  | value => value

def mergeZerosAll : List Value → List Value
  | [] => []
  | item :: items => mergeZeros item :: mergeZerosAll items

end

end Value

end FilterTyping
