import FilterTyping.Proofs.Likeness
import Mathlib.Data.List.Forall2

/-!
# Spellings of types

A column type and the declared type of a parameter may each be spelled in several ways. A check
brings both to their canonical form before it compares them, so it cannot tell the spellings apart.
-/

namespace FilterTyping

/-! ## Respelled types -/

structure Field.Respelled (f f' : Field) : Prop where
  name_eq : f.name = f'.name
  enumeration_eq : f.enumeration = f'.enumeration
  canonical_eq : f.column.canonical = f'.column.canonical

structure Entity.Respelled (e e' : Entity) : Prop where
  path_eq : e.path = e'.path
  root_eq : e.root = e'.root
  identifier_eq : e.identifier = e'.identifier
  associations_eq : e.associations = e'.associations
  fields : List.Forall₂ Field.Respelled e.fields e'.fields

structure Parameter.Respelled (p p' : Parameter) : Prop where
  name_eq : p.name = p'.name
  value_eq : p.value = p'.value
  declared : Option.Rel (fun token token' => token.canonical = token'.canonical)
    p.declared p'.declared

def Metadata.Respelled (s s' : Metadata) : Prop :=
  ∀ path, Option.Rel Entity.Respelled (s.find? path) (s'.find? path)

def ParameterStore.Respelled (ps ps' : ParameterStore) : Prop :=
  ∀ name, Option.Rel Parameter.Respelled (ps.find? name) (ps'.find? name)

theorem Schema.respelled_empty : Metadata.Respelled Schema.empty Schema.empty := by
  intro path
  simp only [Schema.find?_empty]
  exact .none

theorem Schema.respelled_insert {s s' : Schema} (hsame : Metadata.Respelled s s') {e e' : Entity}
    (hvalid : e.Valid) (hvalid' : e'.Valid) (hentity : e.Respelled e') :
    Metadata.Respelled (s.insert e hvalid) (s'.insert e' hvalid') := by
  intro path
  simp only [Schema.find?_insert, hentity.path_eq]
  split
  · exact .some hentity
  · exact hsame path

theorem Parameters.respelled_empty :
    ParameterStore.Respelled Parameters.empty Parameters.empty := by
  intro name
  simp only [Parameters.find?_empty]
  exact .none

theorem Parameters.respelled_bind {ps ps' : Parameters} (hsame : ParameterStore.Respelled ps ps')
    {token token' : TypeToken} (htoken : token.canonical = token'.canonical) (text : String)
    (value : Option Value) :
    ParameterStore.Respelled (ps.bind ⟨text, some token, value⟩)
      (ps'.bind ⟨text, some token', value⟩) := by
  intro name
  simp only [Parameters.find?_bind]
  split
  · exact .some ⟨rfl, rfl, .some htoken⟩
  · exact hsame name

/-! ## Entities -/

namespace Entity.Respelled

variable {e e' : Entity} (hsame : e.Respelled e')

include hsame

theorem rootPath_eq : e.rootPath = e'.rootPath :=
  rootPath_congr hsame.path_eq hsame.root_eq

theorem field?_rel (name : String) :
    Option.Rel Field.Respelled (e.field? name) (e'.field? name) := by
  unfold field?
  have hfields := hsame.fields
  generalize e.fields = fields, e'.fields = fields' at hfields ⊢
  induction hfields with
  | nil => exact .none
  | @cons f f' _ _ hfield _ ih =>
    rw [List.find?_cons, List.find?_cons, hfield.name_eq]
    split
    · exact .some hfield
    · exact ih

theorem tokens_eq {f f' : Field} (hfield : f.Respelled f') : e.tokens f = e'.tokens f' := by
  have hidentity : e.isIdentity f.name = e'.isIdentity f'.name := by
    unfold isIdentity
    rw [hsame.identifier_eq, hfield.name_eq]
  simp [tokens, TypeToken.canonical, hidentity, hsame.rootPath_eq, hfield.enumeration_eq,
    hfield.canonical_eq]

theorem alike : e.Alike e' := by
  refine ⟨hsame.path_eq, hsame.rootPath_eq, ?_, fun name => ?_, fun name => ?_⟩
  · unfold identity
    rw [hsame.identifier_eq, hsame.path_eq]
  · unfold toOne? association?
    rw [hsame.associations_eq]
  · have hfield := hsame.field?_rel name
    generalize e.field? name = field, e'.field? name = field' at hfield ⊢
    cases hfield with
    | none => rfl
    | some hfield => exact congrArg some (hsame.tokens_eq hfield)

end Entity.Respelled

/-! ## Judgements -/

theorem Metadata.Respelled.alike {s s' : Metadata} (hsame : s.Respelled s') : s.Alike s' := by
  intro path
  have hfound := hsame path
  generalize s.find? path = found, s'.find? path = found' at hfound ⊢
  cases hfound with
  | none => exact .none
  | some hentity => exact .some hentity.alike

theorem Comparison.judge_eq_of_respelled {ctx ctx' : Context}
    (hschema : ctx.schema.Respelled ctx'.schema) (hinfer : ctx.infer = ctx'.infer)
    (hparameters : ctx.parameters.Respelled ctx'.parameters) (c : Comparison) :
    c.judge ctx = c.judge ctx' := by
  refine judge_eq_of_alike hschema.alike (fun name => ?_) c
  have hfound := hparameters name
  generalize ctx.parameters.find? name = found, ctx'.parameters.find? name = found' at hfound ⊢
  cases hfound with
  | none => exact .none
  | @some p p' hparameter =>
    refine .some ⟨hparameter.declared, ?_⟩
    rw [hparameter.value_eq]
    exact (Parameter.Alike.refl hschema.alike hinfer p').value

/-- Other spellings of column types and of declared types make no difference to a walk. -/
theorem respelled_types_walked_alike {schema schema' : Metadata}
    {parameters parameters' : ParameterStore} (hschema : schema.Respelled schema')
    (hparameters : parameters.Respelled parameters') (infer : Value → TypeToken)
    (statement : Statement) :
    let ctx : Context := ⟨schema, parameters, infer⟩
    let ctx' : Context := ⟨schema', parameters', infer⟩
    (∀ (m : Type → Type) [Monad m] [LawfulMonad m] (obs : Observer m) (outer : Scope),
      statement.walk ctx obs outer = statement.walk ctx' obs outer) ∧
    ∀ (report : Mismatch → HostM Ruling) (h : Host),
      statement.check ctx report h = statement.check ctx' report h := by
  intro ctx ctx'
  have hsame (c : Comparison) : c.judge ctx = c.judge ctx' :=
    @Comparison.judge_eq_of_respelled ctx ctx' hschema rfl hparameters c
  refine ⟨fun m _ _ obs outer => ?_, fun report h => ?_⟩
  · exact Statement.walk_eq_of_judge obs fun c _ => hsame c
  · exact Statement.check_eq_of_judge report (fun c _ => hsame c) h

def orderOfItem (total code : Builtin) : Schema :=
  Schema.empty
    |>.insert { path := "Item", identifier := ["code"], fields := [⟨"code", code, some "Code"⟩] }
      ⟨by simp [Entity.memberNames], by simp⟩
    |>.insert
      { path := "Order", fields := [⟨"total", total, none⟩],
        associations := [⟨"item", "Item", .toOne⟩] }
      ⟨by simp [Entity.memberNames], by simp⟩

theorem respelled_order_reported_alike :
    let statement : Statement := ⟨[⟨"o", "Order"⟩], some (.and [
      .compare (.term (.path ⟨"o", some "item", .toOne⟩)) .eq (.term (.parameter "flag")),
      .compare (.term (.parameter "flag")) .lt (.term (.path ⟨"o", some "total", .state⟩))]), none⟩
    let schema := orderOfItem (.column .bigint) (.custom "text")
    let schema' := orderOfItem (.custom "integer") (.binding .string)
    let flag (token : TypeToken) := Parameters.empty.bind ⟨":flag", some token, none⟩
    let parameters := flag (.binding .boolean)
    let parameters' := flag (.builtin (.custom "boolean"))
    let report := Policy.report (fun _ => pure ()) (.forward (.sink ⟨0⟩))
    let respelled := statement.check ⟨schema', parameters', Value.inferred⟩ report {}
    (Metadata.Respelled schema schema' ∧ ParameterStore.Respelled parameters parameters') ∧
      statement.check ⟨schema, parameters, Value.inferred⟩ report {} = respelled ∧
      respelled.1.2.deliveries = [
        (⟨0⟩, Mismatch.notice ⟨"flag", .column .boolean,
          [.entity "Item", .enumeration "Code", .column .string], "o.item"⟩),
        (⟨0⟩, Mismatch.notice ⟨"flag", .column .boolean, [.column .integer], "o.total"⟩)] := by
  intro statement schema schema' flag parameters parameters' report respelled
  have hschema : Metadata.Respelled schema schema' := by
    refine Schema.respelled_insert (Schema.respelled_insert Schema.respelled_empty _ _ ?_) _ _ ?_
    · exact ⟨rfl, rfl, rfl, rfl, .cons ⟨rfl, rfl, rfl⟩ .nil⟩
    · exact ⟨rfl, rfl, rfl, rfl, .cons ⟨rfl, rfl, rfl⟩ .nil⟩
  have hparameters : ParameterStore.Respelled parameters parameters' := by
    refine Parameters.respelled_bind Parameters.respelled_empty ?_ ":flag" none
    rfl
  refine ⟨⟨hschema, hparameters⟩, ?_, by decide +kernel⟩
  exact (respelled_types_walked_alike hschema hparameters Value.inferred statement).2 report {}

end FilterTyping
