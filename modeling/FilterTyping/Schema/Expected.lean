import FilterTyping.Failure
import FilterTyping.Schema.Metadata
import FilterTyping.Token.Canonical

/-!
# Expected tokens

The tokens that a parameter may have where it is compared with a field.
-/

namespace FilterTyping

/-! ## Tokens of a field -/

namespace Entity

/-- Its entity if it is the one identifier, its enumeration if it has one, and its declared type. -/
def tokens (e : Entity) (f : Field) : List TypeToken :=
  let self := if e.isIdentity f.name then [TypeToken.entity e.rootPath] else []
  let enumeration := f.enumeration.toList.map TypeToken.enumeration
  (self ++ enumeration ++ [TypeToken.builtin f.column]).map TypeToken.canonical

theorem tokens_eq (e : Entity) (f : Field) :
    e.tokens f = (if e.isIdentity f.name then [e.rootPath] else []).map .entity
      ++ f.enumeration.toList.map .enumeration ++ [.builtin f.column.canonical] := by
  cases hidentity : e.isIdentity f.name <;> cases henumeration : f.enumeration <;>
    simp [tokens, hidentity, henumeration, TypeToken.canonical]

theorem mem_tokens_iff {e : Entity} {f : Field} {token : TypeToken} :
    token ∈ e.tokens f ↔
      e.isIdentity f.name ∧ token = .entity e.rootPath ∨
      (∃ path, f.enumeration = some path ∧ token = .enumeration path) ∨
      token = .builtin f.column.canonical := by
  rw [tokens_eq]
  cases e.isIdentity f.name <;> cases f.enumeration <;> simp

end Entity

/-! ## Look-ups -/

namespace Metadata

variable (md : Metadata)

/-- The entity of an identifier is looked up once more, for its root. -/
def fieldTokens (path name : String) : Except Fault (List TypeToken) := do
  let mapping ← md.field path name
  let self ← if mapping.isIdentity then
      (fun e => [TypeToken.entity e.rootPath]) <$> md.entity path
    else pure []
  let enumeration := mapping.enumeration.toList.map TypeToken.enumeration
  return (self ++ enumeration ++ [TypeToken.builtin mapping.declared]).map TypeToken.canonical

-- The second look-up finds the entity of the first.
theorem fieldTokens_lookup (path name : String) :
    md.fieldTokens path name =
      match md.find? path with
      | none => .error (.unknownEntity path)
      | some e =>
        match e.field? name with
        | none => .error (.unknownField path name)
        | some f => .ok (e.tokens f) := by
  unfold fieldTokens field entity
  cases hentity : md.find? path with
  | none => rfl
  | some e =>
    simp only [bind, Except.bind]
    cases hfield : e.field? name with
    | none => rfl
    | some f =>
      obtain rfl := Entity.name_of_field? hfield
      cases hidentity : e.isIdentity f.name <;>
        simp [pure, Except.pure, Functor.map, Except.map, Entity.tokens, hidentity]

/-- An association to one entity takes what the identifier of that entity takes. -/
def targetTokens (path name : String) : Except Fault (List TypeToken) := do
  let (target, identity) ← md.target path name
  md.fieldTokens target.path identity

-- The target is looked up twice, the second time under the path that it holds itself.
theorem targetTokens_lookup (path name : String) :
    md.targetTokens path name =
      match md.find? path with
      | none => .error (.unknownEntity path)
      | some e =>
        match e.toOne? name with
        | none => .error (.unknownAssociation path name)
        | some a =>
          match md.find? a.target with
          | none => .error (.unknownEntity a.target)
          | some target =>
            match target.identity with
            | .error fault => .error fault
            | .ok identity => md.fieldTokens target.path identity := by
  unfold targetTokens target entity
  cases md.find? path with
  | none => rfl
  | some e =>
    simp only [bind, Except.bind]
    cases e.toOne? name with
    | none => rfl
    | some a =>
      simp only
      cases md.find? a.target with
      | none => rfl
      | some target =>
        simp only
        cases target.identity <;> rfl

def expected (path : String) (p : FieldPath) : Except Defect (List TypeToken) :=
  match p.field, p.kind with
  | none, _ => .error (.noField p)
  | some name, .state => (md.fieldTokens path name).mapError .schema
  | some name, .toOne => (md.targetTokens path name).mapError .schema
  | some _, .collection => .error (.collection p)

variable {md}

theorem fieldTokens_of_find? {path name : String} {e : Entity} {f : Field}
    (hentity : md.find? path = some e) (hfield : e.field? name = some f) :
    md.fieldTokens path name = .ok (e.tokens f) := by
  simp only [fieldTokens_lookup, hentity, hfield]

end Metadata

end FilterTyping
