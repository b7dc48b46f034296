import FilterTyping.Parameter.Basic
import FilterTyping.Schema.Metadata
import FilterTyping.Token.Canonical

/-!
# Actual tokens

What a check reads, and the token that a parameter has in it.
-/

namespace FilterTyping

/-- The host says how it types a value that nothing else is known about. -/
structure Context where
  schema : Metadata
  parameters : ParameterStore
  infer : Value → TypeToken := Value.inferred

namespace Context

def valueToken? (ctx : Context) : Value → Option TypeToken
  | .null => none
  | .float _ => some (.column .float)
  | .enumCase path _ => some (.enumeration path)
  | .object className =>
    if ctx.schema.isMapped className then (ctx.schema.rootOf? className).map .entity
    else some (ctx.infer (.object className)).canonical
  | value => some (ctx.infer value).canonical

theorem valueToken?_object (ctx : Context) (className : String) :
    ctx.valueToken? (.object className) =
      match ctx.schema.ofClass? className with
      | some e => some (.entity e.rootPath)
      | none => some (ctx.infer (.object className)).canonical := by
  rw [valueToken?, Metadata.isMapped, Metadata.rootOf?]
  cases ctx.schema.ofClass? className <;> rfl

/-- The token of a parameter. A declared type wins over the value. -/
def actual? (ctx : Context) (name : String) : Option TypeToken := do
  let p ← ctx.parameters.find? name
  match p.declared with
  | some token => some token.canonical
  | none => ctx.valueToken? (← p.value)

theorem actual?_of_value {ctx : Context} {name : String} {p : Parameter} {value : Value}
    (hbound : ctx.parameters.find? name = some p) (hdeclared : p.declared = none)
    (hvalue : p.value = some value) : ctx.actual? name = ctx.valueToken? value := by
  simp [actual?, hbound, hdeclared, hvalue]

theorem canonical_valueToken? {ctx : Context} {value : Value} {token : TypeToken}
    (htoken : ctx.valueToken? value = some token) : token.canonical = token := by
  cases value with
  | null => cases htoken
  | float | enumCase =>
    cases htoken
    rfl
  | object className =>
    rw [valueToken?_object] at htoken
    split at htoken
    · cases htoken
      rfl
    · cases htoken
      exact TypeToken.canonical_canonical _
  | _ =>
    cases htoken
    exact TypeToken.canonical_canonical _

theorem canonical_actual? {ctx : Context} {name : String} {actual : TypeToken}
    (hactual : ctx.actual? name = some actual) : actual.canonical = actual := by
  obtain ⟨p, -, htoken⟩ := Option.bind_eq_some_iff.mp hactual
  split at htoken
  · cases htoken
    exact TypeToken.canonical_canonical _
  · obtain ⟨value, -, hvalue⟩ := Option.bind_eq_some_iff.mp htoken
    exact canonical_valueToken? hvalue

/-! ## Dependence on the parameters -/

theorem valueToken?_eq_none_iff (ctx : Context) (value : Value) :
    ctx.valueToken? value = none ↔ value = .null := by
  cases value with
  | object className =>
    rw [valueToken?_object]
    cases ctx.schema.ofClass? className <;> simp
  | _ => simp [valueToken?]

theorem actual?_eq_none_iff (ctx : Context) (name : String) :
    ctx.actual? name = none ↔ ∀ p, ctx.parameters.find? name = some p →
      p.declared = none ∧ (p.value = none ∨ p.value = some .null) := by
  rw [actual?]
  cases ctx.parameters.find? name with
  | none => simp
  | some p =>
    rcases p with ⟨_, _ | _, _ | value⟩ <;> simp [valueToken?_eq_none_iff]

theorem actual?_congr {ctx ctx' : Context} (hschema : ctx.schema = ctx'.schema)
    (hinfer : ctx.infer = ctx'.infer) {name : String}
    (hfind : ctx.parameters.find? name = ctx'.parameters.find? name) :
    ctx.actual? name = ctx'.actual? name := by
  have hvalue : ctx.valueToken? = ctx'.valueToken? := by
    funext value
    cases value <;> simp only [valueToken?, hschema, hinfer]
  rw [actual?, actual?, hfind, hvalue]

end Context

end FilterTyping
