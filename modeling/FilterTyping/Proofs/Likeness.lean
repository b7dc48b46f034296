import FilterTyping.Proofs.Findings

/-!
# Schemas and parameters that look alike

A check sees little of what it reads. Of an entity it sees the root, the identity, where the
associations lead and what the fields take, and of a parameter it sees the token. Where these agree,
the judgements agree.
-/

namespace FilterTyping

/-- All that a check can see of an entity. -/
structure Entity.Alike (e e' : Entity) : Prop where
  path_eq : e.path = e'.path
  rootPath_eq : e.rootPath = e'.rootPath
  identity_eq : e.identity = e'.identity
  toOne?_eq (name : String) : e.toOne? name = e'.toOne? name
  tokens_eq (name : String) : (e.field? name).map e.tokens = (e'.field? name).map e'.tokens

theorem Entity.Alike.refl (e : Entity) : e.Alike e :=
  ⟨rfl, rfl, rfl, fun _ => rfl, fun _ => rfl⟩

theorem Entity.rootPath_congr {e e' : Entity} (hpath : e.path = e'.path)
    (hroot : e.root = e'.root) : e.rootPath = e'.rootPath := by
  unfold rootPath
  rw [hroot, hpath]

def Metadata.Alike (s s' : Metadata) : Prop :=
  ∀ path, Option.Rel Entity.Alike (s.find? path) (s'.find? path)

theorem Metadata.Alike.refl (s : Metadata) : s.Alike s := by
  intro path
  cases s.find? path with
  | none => exact .none
  | some e => exact .some (.refl e)

/-! ## Expected tokens -/

namespace Metadata.Alike

variable {s s' : Metadata} (hsame : s.Alike s')

include hsame

theorem fieldTokens_eq (path name : String) :
    s.fieldTokens path name = s'.fieldTokens path name := by
  rw [fieldTokens_lookup, fieldTokens_lookup]
  have hfound := hsame path
  generalize s.find? path = found, s'.find? path = found' at hfound ⊢
  cases hfound with
  | none => rfl
  | @some e e' hentity =>
    have htokens := hentity.tokens_eq name
    simp only
    generalize e.field? name = field, e'.field? name = field' at htokens ⊢
    rcases field with _ | f <;> rcases field' with _ | f'
    · rfl
    · cases htokens
    · cases htokens
    · exact congrArg Except.ok (Option.some.inj htokens)

theorem targetTokens_eq (path name : String) :
    s.targetTokens path name = s'.targetTokens path name := by
  rw [targetTokens_lookup, targetTokens_lookup]
  have hfound := hsame path
  generalize s.find? path = found, s'.find? path = found' at hfound ⊢
  cases hfound with
  | none => rfl
  | @some e e' hentity =>
    simp only [hentity.toOne?_eq]
    cases e'.toOne? name with
    | none => rfl
    | some association =>
      have htarget := hsame association.target
      simp only
      generalize s.find? association.target = found, s'.find? association.target = found'
        at htarget ⊢
      cases htarget with
      | none => rfl
      | some htarget => simp only [htarget.identity_eq, htarget.path_eq, hsame.fieldTokens_eq]

theorem expected_eq (path : String) (p : FieldPath) : s.expected path p = s'.expected path p := by
  unfold expected
  split
  · rfl
  · rw [hsame.fieldTokens_eq]
  · rw [hsame.targetTokens_eq]
  · rfl

end Metadata.Alike

/-! ## Actual tokens -/

structure Parameter.Alike (ctx ctx' : Context) (p p' : Parameter) : Prop where
  declared : Option.Rel (fun token token' => token.canonical = token'.canonical)
    p.declared p'.declared
  value : Option.Rel (fun value value' => ctx.valueToken? value = ctx'.valueToken? value')
    p.value p'.value

section Judgements

variable {ctx ctx' : Context}

theorem Context.valueToken?_eq_of_alike (hschema : ctx.schema.Alike ctx'.schema)
    (hinfer : ctx.infer = ctx'.infer) (value : Value) :
    ctx.valueToken? value = ctx'.valueToken? value := by
  cases value with
  | object className =>
    have hfound := hschema (ClassName.unproxied className)
    simp only [valueToken?_object, Metadata.ofClass?, hinfer]
    generalize ctx.schema.find? (ClassName.unproxied className) = found,
      ctx'.schema.find? (ClassName.unproxied className) = found' at hfound ⊢
    cases hfound with
    | none => rfl
    | some hentity => simp only [hentity.rootPath_eq]
  | _ => simp only [valueToken?, hinfer]

theorem Parameter.Alike.refl (hschema : ctx.schema.Alike ctx'.schema)
    (hinfer : ctx.infer = ctx'.infer) (p : Parameter) : Parameter.Alike ctx ctx' p p := by
  refine ⟨?_, ?_⟩
  · cases p.declared with
    | none => exact .none
    | some token => exact .some rfl
  · cases p.value with
    | none => exact .none
    | some value => exact .some (Context.valueToken?_eq_of_alike hschema hinfer value)

theorem Context.actual?_eq_of_alike {name : String}
    (hparameter : Option.Rel (Parameter.Alike ctx ctx') (ctx.parameters.find? name)
      (ctx'.parameters.find? name)) :
    ctx.actual? name = ctx'.actual? name := by
  unfold actual?
  generalize ctx.parameters.find? name = found, ctx'.parameters.find? name = found'
    at hparameter ⊢
  cases hparameter with
  | none => rfl
  | @some p p' hsame =>
    obtain ⟨hdeclared, hvalue⟩ := hsame
    simp only [Option.bind_eq_bind, Option.bind_some]
    generalize p.declared = declared, p'.declared = declared' at hdeclared ⊢
    cases hdeclared with
    | some htoken => exact congrArg some htoken
    | none =>
      generalize p.value = value, p'.value = value' at hvalue ⊢
      cases hvalue with
      | none => rfl
      | some htoken => exact htoken

theorem Comparison.judge_eq_of_alike (hschema : ctx.schema.Alike ctx'.schema)
    (hparameters : ∀ name, Option.Rel (Parameter.Alike ctx ctx') (ctx.parameters.find? name)
      (ctx'.parameters.find? name)) (c : Comparison) :
    c.judge ctx = c.judge ctx' := by
  apply judge_congr
  · exact Context.actual?_eq_of_alike (hparameters c.parameter)
  · unfold expected
    cases c.scope.entityOf? c.path.qualifier with
    | none => rfl
    | some entity => exact hschema.expected_eq entity c.path

end Judgements

end FilterTyping
