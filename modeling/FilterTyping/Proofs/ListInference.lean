import FilterTyping.Value.Basic

/-!
# Tokens of lists

A value by itself passes for an integer through any number of enumeration cases, the first item of a
list through one at most. The two rules agree on all items but cases of cases.
-/

namespace FilterTyping

namespace Value

/-- How many enumeration cases stand one inside the other. -/
def caseDepth : Value → Nat
  | enumCase _ backing => backing.caseDepth + 1
  | _ => 0

theorem inferred_list_ne_integer (items : List Value) :
    (list items).inferred ≠ .binding .integer := by
  cases items with
  | nil => simp [inferred]
  | cons first rest =>
    rw [inferred]
    split <;> simp

theorem isIntegral_iff {value : Value} :
    value.isIntegral ↔ value.inferred = .binding .integer ∧ value.caseDepth ≤ 1 := by
  cases value with
  | enumCase path backing =>
    have hdepth : (enumCase path backing).caseDepth ≤ 1 ↔ backing.caseDepth = 0 := by
      simp [caseDepth]
    rw [hdepth, inferred]
    -- The inference goes on into a backing that is a case itself, which the depth rules out.
    cases backing with
    | list items => simp [isIntegral, inferred_list_ne_integer]
    | _ => simp [isIntegral, inferred, caseDepth]
  | list items => simp [isIntegral, inferred_list_ne_integer]
  | _ => simp [isIntegral, inferred, caseDepth]

end Value

/-- A list is an array of integers just if its first item passes for an integer and is no case of a
case. -/
theorem list_follows_first_item_up_to_one_case (first : Value) (rest : List Value) :
    (Value.list (first :: rest)).inferred =
      if first.inferred = .binding .integer ∧ first.caseDepth ≤ 1 then .binding .integerArray
      else .binding .stringArray := by
  simp only [← Value.isIntegral_iff, Value.inferred]

theorem list_of_nested_case_is_no_array_of_integers :
    let inner := Value.enumCase "Level" (.int 1)
    let outer := Value.enumCase "Grade" inner
    (inner.inferred = .binding .integer ∧ outer.inferred = .binding .integer) ∧
      (Value.list [inner]).inferred = .binding .integerArray ∧
      (Value.list [outer]).inferred = .binding .stringArray ∧
      ¬ ∀ first rest, (Value.list (first :: rest)).inferred = .binding .integerArray ↔
        first.inferred = .binding .integer := by
  intro inner outer
  refine ⟨⟨rfl, rfl⟩, rfl, rfl, fun hagree => ?_⟩
  exact absurd ((hagree outer []).mpr rfl) (by decide)

end FilterTyping
