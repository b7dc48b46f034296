import FilterTyping.Entity.Basic
import FilterTyping.Entity.ClassName

/-!
# What is known about entities

All that a check asks about entities comes down to one look-up by path.
-/

namespace FilterTyping

structure Metadata where
  find? : String → Option Entity

structure FieldMapping where
  declared : Builtin
  enumeration : Option String
  isIdentity : Bool
  deriving DecidableEq, Repr

namespace Metadata

variable (md : Metadata)

/-! ## Classes -/

/-- The entity that a runtime class stands for, be it a proxy or not. -/
def ofClass? (className : String) : Option Entity :=
  md.find? (ClassName.unproxied className)

def isMapped (className : String) : Bool :=
  (md.ofClass? className).isSome

def rootOf? (className : String) : Option String :=
  (md.ofClass? className).map (·.rootPath)

/-! ## Members -/

def entity (path : String) : Except Fault Entity :=
  match md.find? path with
  | some e => .ok e
  | none => .error (.unknownEntity path)

def field (path name : String) : Except Fault FieldMapping := do
  let e ← md.entity path
  match e.field? name with
  | some f => return ⟨f.column, f.enumeration, e.isIdentity name⟩
  | none => throw (.unknownField path name)

/-- The one entity that an association leads to, and the name of the field that identifies it. -/
def target (path name : String) : Except Fault (Entity × String) := do
  let e ← md.entity path
  match e.toOne? name with
  | some a =>
    let target ← md.entity a.target
    return (target, ← target.identity)
  | none => throw (.unknownAssociation path name)

variable {md}

theorem target_eq_ok_iff {path name identity : String} {t : Entity} :
    md.target path name = .ok (t, identity) ↔ ∃ e a, md.find? path = some e ∧
      e.toOne? name = some a ∧ md.find? a.target = some t ∧ t.identifier = [identity] := by
  simp only [← Entity.identity_eq_ok_iff]
  unfold target entity
  cases md.find? path with
  | none => simp [bind, Except.bind]
  | some e =>
    cases hname : e.toOne? name with
    | none => simp [bind, Except.bind, hname, throw, throwThe, MonadExceptOf.throw]
    | some a =>
      cases htarget : md.find? a.target with
      | none => simp [bind, Except.bind, hname, htarget]
      | some found =>
        simp only [bind, Except.bind, Option.some.injEq, hname, htarget, exists_and_left,
          exists_eq_left']
        constructor
        · intro hok
          cases hfound : found.identity with
          | error fault => simp [hfound] at hok
          | ok other =>
            obtain ⟨rfl, rfl⟩ : found = t ∧ other = identity := by
              simpa [hfound, pure, Except.pure] using hok
            exact ⟨rfl, hfound⟩
        · rintro ⟨rfl, hidentity⟩
          rw [hidentity]
          rfl

end Metadata

end FilterTyping
