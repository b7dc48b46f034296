import FilterTyping.Proofs.Findings

/-!
# What is left to the host's inference

The host says what token a value has that nothing else is known about. It is not asked about
parameters with a declared type, floating-point numbers, enumeration cases and mapped objects, so a
check that meets no others comes out the same with every host.
-/

namespace FilterTyping

/-! ## Parameters bound to a value -/

def ParameterStore.Binds (ps : ParameterStore) (name : String) (value : Value) : Prop :=
  ∃ p, ps.find? name = some p ∧ p.declared = none ∧ p.value = some value

theorem Parameters.binds_bind (ps : Parameters) (text : String) (value : Value) :
    ParameterStore.Binds (ps.bind ⟨text, none, some value⟩) (Parameter.bareName text) value :=
  ⟨⟨_, none, some value⟩, (find?_bind ps _ _).trans (if_pos rfl), rfl, rfl⟩

theorem Context.actual?_of_binds {ctx : Context} {name : String} {value : Value}
    (hbinds : ctx.parameters.Binds name value) : ctx.actual? name = ctx.valueToken? value := by
  obtain ⟨p, hbound, hdeclared, hvalue⟩ := hbinds
  exact actual?_of_value hbound hdeclared hvalue

/-- The values whose token is for the host to say. -/
def Metadata.leavesToHost (s : Metadata) : Value → Bool
  | .bool _ | .int _ | .text _ | .date _ | .instant _ | .list _ => true
  | .object className => (s.find? (ClassName.unproxied className)).isNone
  | .null | .float _ | .enumCase _ _ => false

def ParameterStore.leavesToHost (ps : ParameterStore) (s : Metadata) (name : String) : Bool :=
  (ps.find? name).any fun p => p.declared.isNone && p.value.any s.leavesToHost

theorem ParameterStore.leavesToHost_iff {ps : ParameterStore} {s : Metadata} {name : String} :
    ps.leavesToHost s name ↔ ∃ value, ps.Binds name value ∧ s.leavesToHost value := by
  simp only [leavesToHost, Option.any_eq_true, Bool.and_eq_true, Option.isNone_iff_eq_none]
  constructor
  · rintro ⟨p, hbound, hdeclared, value, hvalue, hleft⟩
    exact ⟨value, ⟨p, hbound, hdeclared, hvalue⟩, hleft⟩
  · rintro ⟨value, ⟨p, hbound, hdeclared, hvalue⟩, hleft⟩
    exact ⟨p, hbound, hdeclared, value, hvalue, hleft⟩

/-! ## Tokens -/

namespace Context

variable {s : Metadata} {parameters : ParameterStore}

theorem valueToken?_of_leavesToHost {value : Value} (hleft : s.leavesToHost value)
    (infer : Value → TypeToken) :
    valueToken? ⟨s, parameters, infer⟩ value = some (infer value).canonical := by
  cases value with
  | null | float | enumCase => cases hleft
  | object className =>
    have hnone : s.ofClass? className = none := Option.isNone_iff_eq_none.mp hleft
    simp [valueToken?_object, hnone]
  | _ => rfl

theorem valueToken?_eq_of_not_leavesToHost {value : Value} (hleft : s.leavesToHost value = false)
    (infer infer' : Value → TypeToken) :
    valueToken? ⟨s, parameters, infer⟩ value = valueToken? ⟨s, parameters, infer'⟩ value := by
  cases value with
  | null | float | enumCase => rfl
  | object className =>
    obtain ⟨e, hclass⟩ : ∃ e, s.ofClass? className = some e :=
      Option.isSome_iff_exists.mp (Option.isNone_eq_false_iff.mp hleft)
    simp [valueToken?_object, hclass]
  | _ => cases hleft

theorem actual?_eq_of_not_leavesToHost {name : String}
    (hleft : parameters.leavesToHost s name = false) (infer infer' : Value → TypeToken) :
    actual? ⟨s, parameters, infer⟩ name = actual? ⟨s, parameters, infer'⟩ name := by
  cases hbound : parameters.find? name with
  | none => simp [actual?, hbound]
  | some p =>
    cases hdeclared : p.declared with
    | some token => simp [actual?, hbound, hdeclared]
    | none =>
      cases hvalue : p.value with
      | none => simp [actual?, hbound, hdeclared, hvalue]
      | some value =>
        rw [actual?_of_value hbound hdeclared hvalue, actual?_of_value hbound hdeclared hvalue]
        apply valueToken?_eq_of_not_leavesToHost
        simpa [ParameterStore.leavesToHost, hbound, hdeclared, hvalue] using hleft

theorem actual?_eq_iff_not_leavesToHost {name : String} :
    (∀ infer infer' : Value → TypeToken,
      actual? ⟨s, parameters, infer⟩ name = actual? ⟨s, parameters, infer'⟩ name) ↔
      parameters.leavesToHost s name = false := by
  refine ⟨fun hsame => ?_, fun hleft => actual?_eq_of_not_leavesToHost hleft⟩
  rw [Bool.eq_false_iff]
  intro hleft
  obtain ⟨value, hbinds, hleft⟩ := ParameterStore.leavesToHost_iff.mp hleft
  have htoken (infer : Value → TypeToken) :
      actual? ⟨s, parameters, infer⟩ name = some (infer value).canonical := by
    rw [actual?_of_binds hbinds, valueToken?_of_leavesToHost hleft]
  -- Two hosts that take every value for the same can still differ.
  have hequal := hsame (fun _ => .column .boolean) (fun _ => .column .float)
  rw [htoken, htoken] at hequal
  cases hequal

end Context

/-! ## Checks -/

/-- The host decides on the tokens of the parameters that are left to it, and on nothing else. -/
theorem host_decides_what_is_left_to_it (s : Metadata) (parameters : ParameterStore) :
    (∀ (infer : Value → TypeToken) (name : String),
      Context.actual? ⟨s, parameters, infer⟩ name = none ↔
        parameters.find? name = none ∨ ∃ p, parameters.find? name = some p ∧ p.declared = none ∧
          (p.value = none ∨ p.value = some .null)) ∧
    (∀ name, (∀ infer infer' : Value → TypeToken, Context.actual? ⟨s, parameters, infer⟩ name =
        Context.actual? ⟨s, parameters, infer'⟩ name) ↔ parameters.leavesToHost s name = false) ∧
    ∀ statement : Statement,
      (∀ c ∈ statement.comparisons [], parameters.leavesToHost s c.parameter = false) →
      ∀ infer infer' : Value → TypeToken,
        let ctx : Context := ⟨s, parameters, infer⟩
        let ctx' : Context := ⟨s, parameters, infer'⟩
        (∀ (m : Type → Type) [Monad m] [LawfulMonad m] (obs : Observer m),
          statement.walk ctx obs [] = statement.walk ctx' obs []) ∧
        ∀ (report : Mismatch → HostM Ruling) (h : Host),
          statement.check ctx report h = statement.check ctx' report h := by
  refine ⟨fun infer name => ?_, fun name => Context.actual?_eq_iff_not_leavesToHost, ?_⟩
  · rw [Context.actual?_eq_none_iff]
    cases parameters.find? name <;> simp
  · intro statement hleft infer infer' ctx ctx'
    have hjudge : ∀ c ∈ statement.comparisons [], c.judge ctx = c.judge ctx' := by
      intro c hc
      have hactual : ctx.actual? c.parameter = ctx'.actual? c.parameter :=
        Context.actual?_eq_of_not_leavesToHost (hleft c hc) infer infer'
      exact Comparison.judge_congr hactual rfl
    refine ⟨fun m _ _ obs => ?_, fun report h => ?_⟩
    · exact Statement.walk_eq_of_judge obs hjudge
    · exact Statement.check_eq_of_judge report hjudge h

def orderInState : Entity where
  path := "Order"
  root := some "Document"
  identifier := ["id"]
  fields := [⟨"id", .column .integer, none⟩, ⟨"price", .column .float, none⟩,
    ⟨"state", .column .string, some "State"⟩]

theorem count_alone_is_left_to_host :
    let s : Metadata := Schema.empty.insert orderInState
    let parameters : ParameterStore := Parameters.ofList [⟨"price", none, some (.float ⟨0⟩)⟩,
      ⟨"state", none, some (.enumCase "State" (.int 1))⟩,
      ⟨"order", none, some (.object "proxies::__CG__::Order")⟩, ⟨"none", none, some .null⟩,
      ⟨"number", some (.column .string), some (.int 7)⟩, ⟨"count", none, some (.int 3)⟩]
    let compared (field parameter : String) : Condition :=
      .compare (.term (.path ⟨"o", some field, .state⟩)) .eq (.term (.parameter parameter))
    let statement : Statement := ⟨[⟨"o", "Order"⟩], some (.and [compared "price" "price",
      compared "state" "state", compared "id" "order", compared "id" "none", compared "id" "number",
      compared "price" "state",
      .compare (.term (.parameter "count")) .gt (.term (.literal (.int 2)))]), none⟩
    let report := Policy.report (fun _ => pure ()) .abort
    let outcome := (statement.check ⟨s, parameters, Value.inferred⟩ report {}).1
    (∀ c ∈ statement.comparisons [], parameters.leavesToHost s c.parameter = false) ∧
      parameters.leavesToHost s "count" ∧
      (∀ token, (statement.check ⟨s, parameters, fun _ => token⟩ report {}).1 = outcome) ∧
      outcome.1 = .ok (.error (.mismatch
        ⟨"state", .enumeration "State", [.column .float], "o.price"⟩)) ∧
      outcome.2 = [.skipped ⟨"none", "o.id"⟩] := by
  intro s parameters compared statement report outcome
  have hleft : ∀ c ∈ statement.comparisons [], parameters.leavesToHost s c.parameter = false := by
    decide +kernel
  obtain ⟨-, -, hchecks⟩ := host_decides_what_is_left_to_it s parameters
  refine ⟨hleft, by decide +kernel, fun token => ?_, rfl, rfl⟩
  rw [(hchecks statement hleft (fun _ => token) Value.inferred).2 report {}]

end FilterTyping
