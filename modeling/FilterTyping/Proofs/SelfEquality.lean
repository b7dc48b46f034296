import FilterTyping.Query.Equality
import FilterTyping.Query.Numbers

/-!
# What equals itself

Values and statements are equal if they are the same up to the sign of zeros and hold no NaN. So
their equality is symmetric and transitive, and a NaN at some depth is all that can keep something
from being equal to itself.
-/

namespace FilterTyping

open Binary64 (NaNFree nanFree_append)

/-! ## Equality up to zeros -/

/-- What equality is like if it goes part by part down to floating-point numbers. -/
structure EqualUpToZeros {α : Type} (eqv : α → α → Bool) (floats : α → List Binary64)
    (mergeZeros : α → α) : Prop where
  symm : ∀ a b, eqv a b → eqv b a
  trans : ∀ a b c, eqv a b → eqv b c → eqv a c
  self_iff : ∀ a, eqv a a ↔ ∀ x ∈ floats a, ¬ x.isNaN
  iff_same : ∀ a b, eqv a b ↔ eqv a a ∧ eqv b b ∧ mergeZeros a = mergeZeros b

theorem EqualUpToZeros.of_eqv_iff {α : Type} {eqv : α → α → Bool} {floats : α → List Binary64}
    {mergeZeros : α → α}
    (heqv : ∀ a b, eqv a b ↔
      NaNFree (floats a) ∧ NaNFree (floats b) ∧ mergeZeros a = mergeZeros b) :
    EqualUpToZeros eqv floats mergeZeros := by
  have hself : ∀ a, eqv a a ↔ NaNFree (floats a) := fun a => by simp [heqv]
  refine ⟨fun a b hab => ?_, fun a b c hab hbc => ?_, hself, fun a b => ?_⟩
  · obtain ⟨ha, hb, hsame⟩ := (heqv a b).mp hab
    exact (heqv b a).mpr ⟨hb, ha, hsame.symm⟩
  · obtain ⟨ha, -, hsame⟩ := (heqv a b).mp hab
    obtain ⟨-, hc, hsame'⟩ := (heqv b c).mp hbc
    exact (heqv a c).mpr ⟨ha, hc, hsame.trans hsame'⟩
  · rw [hself, hself, heqv]

/-! ## Values -/

namespace Value

-- The induction is on the first value. Of two values that differ in kind, both sides are false.
mutual

theorem eqv_iff : ∀ a b : Value,
    a.eqv b ↔ NaNFree a.floats ∧ NaNFree b.floats ∧ a.mergeZeros = b.mergeZeros
  | .float x, b => by
    cases b with
    | float y => simp [eqv, floats, mergeZeros, Binary64.eqv_iff]
    | _ => simp [eqv, mergeZeros]
  | .list items, b => by
    cases b with
    | list items' => simp [eqv, floats, mergeZeros, eqvAll_iff]
    | _ => simp [eqv, mergeZeros]
  | .enumCase path backing, b => by
    cases b with
    | enumCase path' backing' =>
      simp only [eqv, floats, mergeZeros, Bool.and_eq_true, beq_iff_eq, enumCase.injEq,
        eqv_iff backing]
      grind
    | _ => simp [eqv, mergeZeros]
  | .null, b | .bool _, b | .int _, b | .text _, b | .date _, b | .instant _, b | .object _, b => by
    cases b <;> simp [eqv, floats, mergeZeros]

theorem eqvAll_iff : ∀ as bs : List Value,
    eqvAll as bs ↔
      NaNFree (floatsAll as) ∧ NaNFree (floatsAll bs) ∧ mergeZerosAll as = mergeZerosAll bs
  | [], [] => by simp [eqvAll, floatsAll]
  | [], _ :: _ | _ :: _, [] => by simp [eqvAll, mergeZerosAll]
  | a :: as, b :: bs => by
    simp only [eqvAll, floatsAll, mergeZerosAll, Bool.and_eq_true, nanFree_append, List.cons.injEq,
      eqv_iff a, eqvAll_iff as]
    grind

end

end Value

/-! ## Terms -/

theorem Literal.eqv_iff (a b : Literal) :
    a.eqv b ↔ NaNFree a.floats ∧ NaNFree b.floats ∧ a.mergeZeros = b.mergeZeros := by
  cases a <;> cases b <;> simp [eqv, floats, mergeZeros, Binary64.eqv_iff]

namespace Term

mutual

theorem eqv_iff : ∀ a b : Term,
    a.eqv b ↔ NaNFree a.floats ∧ NaNFree b.floats ∧ a.mergeZeros = b.mergeZeros
  | .path _, b | .parameter _, b => by
    cases b <;> simp [eqv, floats, mergeZeros]
  | .literal value, b => by
    cases b with
    | literal value' => simp [eqv, floats, mergeZeros, Literal.eqv_iff]
    | _ => simp [eqv, mergeZeros]
  | .function name args, b => by
    cases b with
    | function name' args' =>
      simp only [eqv, floats, mergeZeros, Bool.and_eq_true, beq_iff_eq, function.injEq,
        eqvAll_iff args]
      grind
    | _ => simp [eqv, mergeZeros]
  | .binary op left right, b => by
    cases b with
    | binary op' left' right' =>
      simp only [eqv, floats, mergeZeros, Bool.and_eq_true, beq_iff_eq, nanFree_append,
        binary.injEq, eqv_iff left, eqv_iff right]
      grind
    | _ => simp [eqv, mergeZeros]

theorem eqvAll_iff : ∀ as bs : List Term,
    eqvAll as bs ↔
      NaNFree (floatsAll as) ∧ NaNFree (floatsAll bs) ∧ mergeZerosAll as = mergeZerosAll bs
  | [], [] => by simp [eqvAll, floatsAll]
  | [], _ :: _ | _ :: _, [] => by simp [eqvAll, mergeZerosAll]
  | a :: as, b :: bs => by
    simp only [eqvAll, floatsAll, mergeZerosAll, Bool.and_eq_true, nanFree_append, List.cons.injEq,
      eqv_iff a, eqvAll_iff as]
    grind

end

end Term

/-! ## Statements -/

mutual

theorem Statement.eqv_iff : ∀ a b : Statement,
    a.eqv b ↔ NaNFree a.floats ∧ NaNFree b.floats ∧ a.mergeZeros = b.mergeZeros
  | ⟨sources, filter, groupFilter⟩, ⟨sources', filter', groupFilter'⟩ => by
    simp only [Statement.eqv, Statement.floats, Statement.mergeZeros, Bool.and_eq_true, beq_iff_eq,
      nanFree_append, Statement.mk.injEq, Condition.eqvClause_iff filter,
      Condition.eqvClause_iff groupFilter]
    grind

theorem Condition.eqvClause_iff : ∀ a b : Option Condition,
    Condition.eqvClause a b ↔
      NaNFree (Condition.floatsClause a) ∧ NaNFree (Condition.floatsClause b) ∧
        Condition.mergeZerosClause a = Condition.mergeZerosClause b
  | none, none => by simp [Condition.eqvClause, Condition.floatsClause]
  | none, some _ | some _, none => by simp [Condition.eqvClause, Condition.mergeZerosClause]
  | some a, some b => by
    simp only [Condition.eqvClause, Condition.floatsClause, Condition.mergeZerosClause,
      Option.some.injEq, Condition.eqv_iff a]

theorem Condition.eqv_iff : ∀ a b : Condition,
    a.eqv b ↔ NaNFree a.floats ∧ NaNFree b.floats ∧ a.mergeZeros = b.mergeZeros
  | .or branches, b => by
    cases b with
    | or branches' =>
      simp only [Condition.eqv, Condition.floats, Condition.mergeZeros, Condition.or.injEq,
        Condition.eqvAll_iff branches]
    | _ => simp [Condition.eqv, Condition.mergeZeros]
  | .and branches, b => by
    cases b with
    | and branches' =>
      simp only [Condition.eqv, Condition.floats, Condition.mergeZeros, Condition.and.injEq,
        Condition.eqvAll_iff branches]
    | _ => simp [Condition.eqv, Condition.mergeZeros]
  | .not inner, b => by
    cases b with
    | not inner' =>
      simp only [Condition.eqv, Condition.floats, Condition.mergeZeros, Condition.not.injEq,
        Condition.eqv_iff inner]
    | _ => simp [Condition.eqv, Condition.mergeZeros]
  | .group inner, b => by
    cases b with
    | group inner' =>
      simp only [Condition.eqv, Condition.floats, Condition.mergeZeros, Condition.group.injEq,
        Condition.eqv_iff inner]
    | _ => simp [Condition.eqv, Condition.mergeZeros]
  | .compare left op right, b => by
    cases b with
    | compare left' op' right' =>
      simp only [Condition.eqv, Condition.floats, Condition.mergeZeros, Bool.and_eq_true,
        beq_iff_eq, nanFree_append, Condition.compare.injEq, Operand.eqv_iff left,
        Operand.eqv_iff right]
      grind
    | _ => simp [Condition.eqv, Condition.mergeZeros]
  | .unchecked text, b => by
    cases b <;> simp [Condition.eqv, Condition.floats, Condition.mergeZeros]

theorem Condition.eqvAll_iff : ∀ as bs : List Condition,
    Condition.eqvAll as bs ↔
      NaNFree (Condition.floatsAll as) ∧ NaNFree (Condition.floatsAll bs) ∧
        Condition.mergeZerosAll as = Condition.mergeZerosAll bs
  | [], [] => by simp [Condition.eqvAll, Condition.floatsAll]
  | [], _ :: _ | _ :: _, [] => by simp [Condition.eqvAll, Condition.mergeZerosAll]
  | a :: as, b :: bs => by
    simp only [Condition.eqvAll, Condition.floatsAll, Condition.mergeZerosAll, Bool.and_eq_true,
      nanFree_append, List.cons.injEq, Condition.eqv_iff a, Condition.eqvAll_iff as]
    grind

theorem Operand.eqv_iff : ∀ a b : Operand,
    a.eqv b ↔ NaNFree a.floats ∧ NaNFree b.floats ∧ a.mergeZeros = b.mergeZeros
  | .term term, b => by
    cases b with
    | term term' =>
      simp only [Operand.eqv, Operand.floats, Operand.mergeZeros, Operand.term.injEq, Term.eqv_iff]
    | _ => simp [Operand.eqv, Operand.mergeZeros]
  | .subselect statement, b => by
    cases b with
    | subselect statement' =>
      simp only [Operand.eqv, Operand.floats, Operand.mergeZeros, Operand.subselect.injEq,
        Statement.eqv_iff statement]
    | _ => simp [Operand.eqv, Operand.mergeZeros]
  | .quantified quantifier statement, b => by
    -- No check looks into a quantified query, but equality does.
    cases b with
    | quantified quantifier' statement' =>
      simp only [Operand.eqv, Operand.floats, Operand.mergeZeros, Bool.and_eq_true, beq_iff_eq,
        Operand.quantified.injEq, Statement.eqv_iff statement]
      grind
    | _ => simp [Operand.eqv, Operand.mergeZeros]

end

/-! ## Reflexivity -/

/-- Equality is symmetric and transitive, and something equals itself just if it holds no NaN. Then
it equals what is the same up to the sign of zeros, and nothing else. -/
theorem equality_fails_at_nan_only :
    EqualUpToZeros Value.eqv Value.floats Value.mergeZeros ∧
    EqualUpToZeros Statement.eqv Statement.floats Statement.mergeZeros ∧
    EqualUpToZeros Condition.eqv Condition.floats Condition.mergeZeros ∧
    EqualUpToZeros Operand.eqv Operand.floats Operand.mergeZeros ∧
    EqualUpToZeros Term.eqv Term.floats Term.mergeZeros ∧
    EqualUpToZeros Literal.eqv Literal.floats Literal.mergeZeros ∧
    EqualUpToZeros (fun a b : Source => a == b) (fun _ => []) id ∧
    EqualUpToZeros (fun a b : FieldPath => a == b) (fun _ => []) id :=
  ⟨.of_eqv_iff Value.eqv_iff, .of_eqv_iff Statement.eqv_iff, .of_eqv_iff Condition.eqv_iff,
    .of_eqv_iff Operand.eqv_iff, .of_eqv_iff Term.eqv_iff, .of_eqv_iff Literal.eqv_iff,
    .of_eqv_iff (by simp), .of_eqv_iff (by simp)⟩

theorem nan_in_quantified_query_differs_from_itself :
    let nan : Binary64 := ⟨0x7FF8000000000001⟩
    let zero : Binary64 := ⟨0⟩
    let minusZero : Binary64 := ⟨0x8000000000000000⟩
    let statement (x : Binary64) : Statement := ⟨[⟨"o", "Order"⟩], none, some (.not (.compare
      (.term (.path ⟨"o", some "total", .state⟩)) .lt (.quantified .all ⟨[], some (.or [.compare
        (.term (.binary .add (.literal (.int 1)) (.function "abs" [.literal (.float x)]))) .eq
        (.subselect ⟨[], none, none⟩)]), none⟩)))⟩
    let value (x : Binary64) : Value := .list [.null, .enumCase "Level" (.list [.float x])]
    (¬ (statement nan).eqv (statement nan) ∧ ¬ (value nan).eqv (value nan)) ∧
    (statement zero ≠ statement minusZero ∧ (statement zero).eqv (statement minusZero) ∧
      (statement minusZero).eqv (statement zero) ∧ (statement zero).eqv (statement zero)) ∧
    (value minusZero).eqv (value zero) ∧ (value minusZero).eqv (value minusZero) := by
  intro nan zero minusZero statement value
  obtain ⟨hvalue, hstatement, -⟩ := equality_fails_at_nan_only
  have hzero : (statement zero).eqv (statement minusZero) := by decide +kernel
  have hzero' : (value zero).eqv (value minusZero) := by decide +kernel
  refine ⟨⟨?_, ?_⟩, ⟨?_, hzero, hstatement.symm _ _ hzero, ?_⟩, hvalue.symm _ _ hzero', ?_⟩
  · intro hself
    exact (hstatement.self_iff _).mp hself nan (by decide) (by decide)
  · intro hself
    exact (hvalue.self_iff _).mp hself nan (by decide) (by decide)
  · intro hsame
    simp [statement, zero, minusZero] at hsame
  · exact hstatement.trans _ _ _ hzero (hstatement.symm _ _ hzero)
  · exact ((hvalue.iff_same _ _).mp hzero').2.1

end FilterTyping
