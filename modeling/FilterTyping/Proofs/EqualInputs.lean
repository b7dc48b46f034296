import FilterTyping.Proofs.Likeness
import FilterTyping.Proofs.Rewriting
import FilterTyping.Query.Equality

/-!
# Equal inputs

Equality goes part by part and is not identity: the two zeros are equal. Nothing that a check looks
at can tell equal statements or equal values apart.
-/

namespace FilterTyping

/-! ## Statements -/

theorem Operand.Interchangeable.refl (operand : Operand) : operand.Interchangeable operand :=
  ⟨rfl, fun _ _ => rfl, fun _ _ => rfl⟩

theorem Term.interchangeable_of_eqv {a b : Term} (heqv : a.eqv b) :
    (Operand.term a).Interchangeable (.term b) := by
  cases a with
  | path p =>
    cases b with
    | path q =>
      obtain rfl : p = q := by simpa [Term.eqv] using heqv
      exact .refl _
    | _ => simp [Term.eqv] at heqv
  | parameter name =>
    cases b with
    | parameter name' =>
      obtain rfl : name = name' := by simpa [Term.eqv] using heqv
      exact .refl _
    | _ => simp [Term.eqv] at heqv
  | literal value =>
    cases b with
    | literal value' => exact Operand.Rewrite.literal.interchangeable
    | _ => simp [Term.eqv] at heqv
  | function name args =>
    cases b with
    | function name' args' => exact Operand.Rewrite.function.interchangeable
    | _ => simp [Term.eqv] at heqv
  | binary op left right =>
    cases b with
    | binary op' left' right' => exact Operand.Rewrite.binary.interchangeable
    | _ => simp [Term.eqv] at heqv

-- The induction is on the first statement, and equality takes the second apart in the same way.
mutual

theorem Statement.comparisons_eq_of_eqv : ∀ {a b : Statement}, a.eqv b → ∀ outer : Scope,
    a.comparisons outer = b.comparisons outer
  | ⟨sources, filter, groupFilter⟩, ⟨sources', filter', groupFilter'⟩, heqv, outer => by
    simp only [Statement.eqv, Bool.and_eq_true, beq_iff_eq] at heqv
    obtain ⟨⟨rfl, hfilter⟩, hgroup⟩ := heqv
    rw [Statement.comparisons, Statement.comparisons,
      Condition.clauseComparisons_eq_of_eqv hfilter, Condition.clauseComparisons_eq_of_eqv hgroup]

theorem Condition.clauseComparisons_eq_of_eqv : ∀ {a b : Option Condition},
    Condition.eqvClause a b → ∀ scope : Scope,
      Condition.clauseComparisons scope a = Condition.clauseComparisons scope b
  | none, none, _, _ => rfl
  | some _, some _, heqv, scope => Condition.comparisons_eq_of_eqv heqv scope
  | none, some _, heqv, _ | some _, none, heqv, _ => by simp [Condition.eqvClause] at heqv

theorem Condition.comparisons_eq_of_eqv : ∀ {a b : Condition}, a.eqv b → ∀ scope : Scope,
    a.comparisons scope = b.comparisons scope
  | .or branches, b, heqv, scope => by
    cases b with
    | or branches' =>
      rw [Condition.eqv] at heqv
      rw [Condition.comparisons, Condition.comparisons,
        Condition.branchComparisons_eq_of_eqv heqv scope]
    | _ => simp [Condition.eqv] at heqv
  | .and branches, b, heqv, scope => by
    cases b with
    | and branches' =>
      rw [Condition.eqv] at heqv
      rw [Condition.comparisons, Condition.comparisons,
        Condition.branchComparisons_eq_of_eqv heqv scope]
    | _ => simp [Condition.eqv] at heqv
  | .not inner, b, heqv, scope => by
    cases b with
    | not inner' =>
      rw [Condition.eqv] at heqv
      rw [Condition.comparisons, Condition.comparisons,
        Condition.comparisons_eq_of_eqv heqv scope]
    | _ => simp [Condition.eqv] at heqv
  | .group inner, b, heqv, scope => by
    cases b with
    | group inner' =>
      rw [Condition.eqv] at heqv
      rw [Condition.comparisons, Condition.comparisons,
        Condition.comparisons_eq_of_eqv heqv scope]
    | _ => simp [Condition.eqv] at heqv
  | .compare left op right, b, heqv, scope => by
    cases b with
    | compare left' op' right' =>
      simp only [Condition.eqv, Bool.and_eq_true] at heqv
      have hleft := Operand.interchangeable_of_eqv heqv.1.1
      have hright := Operand.interchangeable_of_eqv heqv.2
      refine Condition.comparisons_compare_congr scope op op' hleft.isQuantified_eq
        hright.isQuantified_eq ?_ ?_
      · rw [hleft.against_eq, hright.across_eq]
      · rw [hright.against_eq, hleft.across_eq]
    | _ => simp [Condition.eqv] at heqv
  | .unchecked text, b, heqv, scope => by
    cases b with
    | unchecked text' => rw [Condition.comparisons, Condition.comparisons]
    | _ => simp [Condition.eqv] at heqv

theorem Condition.branchComparisons_eq_of_eqv : ∀ {as bs : List Condition},
    Condition.eqvAll as bs → ∀ scope : Scope,
      Condition.branchComparisons scope as = Condition.branchComparisons scope bs
  | [], [], _, _ => rfl
  | a :: as, b :: bs, heqv, scope => by
    simp only [Condition.eqvAll, Bool.and_eq_true] at heqv
    rw [Condition.branchComparisons, Condition.branchComparisons,
      Condition.comparisons_eq_of_eqv heqv.1 scope,
      Condition.branchComparisons_eq_of_eqv heqv.2 scope]
  | [], _ :: _, heqv, _ | _ :: _, [], heqv, _ => by simp [Condition.eqvAll] at heqv

theorem Operand.interchangeable_of_eqv : ∀ {a b : Operand}, a.eqv b → a.Interchangeable b
  | .term term, b, heqv => by
    cases b with
    | term term' =>
      rw [Operand.eqv] at heqv
      exact Term.interchangeable_of_eqv heqv
    | _ => simp [Operand.eqv] at heqv
  | .subselect statement, b, heqv => by
    cases b with
    | subselect statement' =>
      rw [Operand.eqv] at heqv
      exact .subselect (Statement.comparisons_eq_of_eqv heqv)
    | _ => simp [Operand.eqv] at heqv
  | .quantified quantifier statement, b, heqv => by
    cases b with
    | quantified quantifier' statement' =>
      simp only [Operand.eqv, Bool.and_eq_true, beq_iff_eq] at heqv
      rw [heqv.1]
      exact Operand.Rewrite.quantified.interchangeable
    | _ => simp [Operand.eqv] at heqv

end

/-! ## Values -/

namespace Value

variable {a b : Value}

theorem isIntegral_eq_of_eqv (heqv : a.eqv b) : a.isIntegral = b.isIntegral := by
  cases a with
  | enumCase path backing =>
    cases b with
    | enumCase path' backing' =>
      simp only [eqv, Bool.and_eq_true] at heqv
      -- Equal backings are of one kind, and nothing more of them is looked at.
      obtain ⟨-, hbacking⟩ := heqv
      cases backing <;> cases backing' <;> simp_all [eqv, isIntegral]
    | _ => simp [eqv] at heqv
  | _ => cases b <;> simp_all [eqv, isIntegral]

theorem inferred_list_eq_of_eqv {as bs : List Value} (heqv : eqvAll as bs) :
    inferred (.list as) = inferred (.list bs) := by
  cases as with
  | nil =>
    cases bs with
    | nil => rfl
    | cons b bs => simp [eqvAll] at heqv
  | cons a as =>
    cases bs with
    | nil => simp [eqvAll] at heqv
    | cons b bs =>
      simp only [eqvAll, Bool.and_eq_true] at heqv
      rw [inferred, inferred, isIntegral_eq_of_eqv heqv.1]

end Value

theorem Context.valueToken?_eq_of_eqv {ctx ctx' : Context} (hschema : ctx.schema = ctx'.schema)
    (hinfer : ctx.infer = Value.inferred) (hinfer' : ctx'.infer = Value.inferred) {a b : Value}
    (heqv : a.eqv b) : ctx.valueToken? a = ctx'.valueToken? b := by
  cases a with
  | list items =>
    cases b with
    | list items' =>
      rw [Value.eqv] at heqv
      simp only [valueToken?, hinfer, hinfer', Value.inferred_list_eq_of_eqv heqv]
    | _ => simp [Value.eqv] at heqv
  | object className =>
    cases b with
    | object className' =>
      obtain rfl : className = className' := by simpa [Value.eqv] using heqv
      rw [valueToken?, valueToken?, hschema, hinfer, hinfer']
    | _ => simp [Value.eqv] at heqv
  | _ => cases b <;> simp_all [Value.eqv, valueToken?, Value.inferred]

/-! ## Parameters -/

structure Parameter.Eqv (p p' : Parameter) : Prop where
  declared_eq : p.declared = p'.declared
  value : Option.Rel (fun value value' => value.eqv value' = true) p.value p'.value

def ParameterStore.Eqv (ps ps' : ParameterStore) : Prop :=
  ∀ name, Option.Rel Parameter.Eqv (ps.find? name) (ps'.find? name)

theorem Parameters.eqv_empty : ParameterStore.Eqv Parameters.empty Parameters.empty := by
  intro name
  simp only [Parameters.find?_empty]
  exact .none

theorem Parameters.eqv_bind {ps ps' : Parameters} (hsame : ParameterStore.Eqv ps ps')
    (text : String) {value value' : Value} (heqv : value.eqv value') :
    ParameterStore.Eqv (ps.bind ⟨text, none, some value⟩)
      (ps'.bind ⟨text, none, some value'⟩) := by
  intro name
  simp only [Parameters.find?_bind]
  split
  · exact .some ⟨rfl, .some heqv⟩
  · exact hsame name

theorem Comparison.judge_eq_of_eqv (schema : Metadata) {ps ps' : ParameterStore}
    (hsame : ps.Eqv ps') (c : Comparison) :
    c.judge ⟨schema, ps, Value.inferred⟩ = c.judge ⟨schema, ps', Value.inferred⟩ := by
  refine judge_eq_of_alike (.refl schema) (fun name => ?_) c
  have hfound := hsame name
  simp only
  generalize ps.find? name = found, ps'.find? name = found' at hfound ⊢
  cases hfound with
  | none => exact .none
  | @some p p' hparameter =>
    refine .some ⟨?_, ?_⟩
    · rw [hparameter.declared_eq]
      cases p'.declared with
      | none => exact .none
      | some token => exact .some rfl
    · have hvalue := hparameter.value
      generalize p.value = value, p'.value = value' at hvalue ⊢
      cases hvalue with
      | none => exact .none
      | some heqv => exact .some (Context.valueToken?_eq_of_eqv rfl rfl rfl heqv)

/-- Equal statements and equal values make no difference to a walk, whatever is to hear of it. -/
theorem equal_inputs_walked_alike {a b : Statement} (hstatement : a.eqv b)
    {ps ps' : ParameterStore} (hparameters : ps.Eqv ps') (schema : Metadata) :
    let ctx : Context := ⟨schema, ps, Value.inferred⟩
    let ctx' : Context := ⟨schema, ps', Value.inferred⟩
    (∀ (m : Type → Type) [Monad m] [LawfulMonad m] (obs : Observer m) (outer : Scope),
      a.walk ctx obs outer = b.walk ctx' obs outer) ∧
    ∀ (report : Mismatch → HostM Ruling) (h : Host),
      a.check ctx report h = b.check ctx' report h := by
  intro ctx ctx'
  have hwalk : ∀ (m : Type → Type) [Monad m] [LawfulMonad m] (obs : Observer m) (outer : Scope),
      a.walk ctx obs outer = b.walk ctx' obs outer := by
    intro m _ _ obs outer
    calc a.walk ctx obs outer
        = a.walk ctx' obs outer :=
          Statement.walk_eq_of_judge obs fun c _ => c.judge_eq_of_eqv schema hparameters
      _ = b.walk ctx' obs outer := by
          rw [Statement.walk_eq, Statement.walk_eq, Statement.comparisons_eq_of_eqv hstatement]
  refine ⟨hwalk, fun report h => ?_⟩
  rw [Statement.check, Statement.check, hwalk]

theorem signed_zeros_reported_alike :
    let zero : Binary64 := ⟨0⟩
    let minusZero : Binary64 := ⟨0x8000000000000000⟩
    let statement (x : Binary64) : Statement := ⟨[⟨"o", "Order"⟩], some (.or [
      .compare (.term (.path ⟨"o", some "id", .state⟩)) .eq (.term (.parameter "ids")),
      .compare (.term (.literal (.float x))) .lt (.subselect ⟨[],
        some (.compare (.term (.parameter "level")) .ne (.term (.path ⟨"o", some "id", .state⟩))),
        some (.compare (.term (.function "abs" [.literal (.float x)])) .le
          (.term (.parameter "ids")))⟩)]), none⟩
    let parameters (x : Binary64) := Parameters.empty
      |>.bind ⟨":ids", none, some (.list [.float x, .int 1])⟩
      |>.bind ⟨":level", none, some (.enumCase "Level" (.float x))⟩
    let schema := Schema.empty.insert
      { path := "Order", identifier := ["id"], fields := [⟨"id", .column .integer, none⟩] }
    let report := Policy.report (fun _ => pure ()) (.forward (.sink ⟨0⟩))
    let found :=
      (statement minusZero).check ⟨schema, parameters minusZero, Value.inferred⟩ report {}
    let expected : List TypeToken := [.entity "Order", .column .integer]
    (zero ≠ minusZero ∧ (statement zero).eqv (statement minusZero) ∧
        ParameterStore.Eqv (parameters zero) (parameters minusZero)) ∧
      (statement zero).check ⟨schema, parameters zero, Value.inferred⟩ report {} = found ∧
      found.1.2.deliveries = [
        (⟨0⟩, Mismatch.notice ⟨"ids", .binding .stringArray, expected, "o.id"⟩),
        (⟨0⟩, Mismatch.notice ⟨"level", .enumeration "Level", expected, "o.id"⟩)] := by
  intro zero minusZero statement parameters schema report found expected
  have hstatement : (statement zero).eqv (statement minusZero) := by decide +kernel
  have hparameters : ParameterStore.Eqv (parameters zero) (parameters minusZero) := by
    refine Parameters.eqv_bind (Parameters.eqv_bind Parameters.eqv_empty ":ids" ?_) ":level" ?_
    · decide +kernel
    · decide +kernel
  refine ⟨⟨by decide, hstatement, hparameters⟩, ?_, by decide +kernel⟩
  exact (equal_inputs_walked_alike hstatement hparameters schema).2 report {}

end FilterTyping
