import FilterTyping.Token.Basic

/-!
# Entities

An entity is a class of the host with its mapped fields and its associations to other entities. A
fault is why an entity is refused, or why there is no answer for a name.
-/

namespace FilterTyping

/-! ## Faults -/

inductive Fault where
  | unknownAlias (name : String)
  | unknownEntity (entity : String)
  | duplicateEntity (entity : String)
  | unknownField (entity field : String)
  | duplicateField (entity field : String)
  | unknownAssociation (entity field : String)
  | compositeIdentifier (entity : String)
  | missingIdentifier (entity : String)
  deriving DecidableEq, Repr

namespace Fault

def message : Fault → String
  | unknownAlias name => s!"unknown alias '{name}'"
  | unknownEntity entity => s!"unknown entity '{entity}'"
  | duplicateEntity entity => s!"duplicate entity '{entity}'"
  | unknownField entity field => s!"entity '{entity}' has no field '{field}'"
  | duplicateField entity field => s!"entity '{entity}' declares field '{field}' more than once"
  | unknownAssociation entity field =>
    s!"entity '{entity}' has no single-valued association '{field}'"
  | compositeIdentifier entity =>
    s!"entity '{entity}' has a composite identifier; a single identifier field is required"
  | missingIdentifier entity => s!"entity '{entity}' declares no identifier field"

end Fault

/-! ## Members -/

structure Field where
  name : String
  column : Builtin
  enumeration : Option String := none
  deriving DecidableEq, Repr

inductive Arity where
  | toOne
  | toMany
  deriving DecidableEq, Repr

structure Association where
  name : String
  target : String
  arity : Arity
  deriving DecidableEq, Repr

/-- A mapped class. The identifier is a list of names, which `validate` ties to the fields. -/
structure Entity where
  path : String
  root : Option String := none
  identifier : List String := []
  fields : List Field := []
  associations : List Association := []
  deriving DecidableEq, Repr

namespace Entity

def rootPath (e : Entity) : String :=
  e.root.getD e.path

def field? (e : Entity) (name : String) : Option Field :=
  e.fields.find? (·.name == name)

theorem name_of_field? {e : Entity} {name : String} {f : Field} (hfield : e.field? name = some f) :
    f.name = name := by
  simpa using List.find?_some hfield

def association? (e : Entity) (name : String) : Option Association :=
  e.associations.find? (·.name == name)

def toOne? (e : Entity) (name : String) : Option Association :=
  (e.association? name).filter (·.arity == .toOne)

/-! ## Identity -/

/-- The one name in the identifier. Entities with none or with several have no single identity. -/
def identity (e : Entity) : Except Fault String :=
  match e.identifier with
  | [name] => .ok name
  | [] => .error (.missingIdentifier e.path)
  | _ => .error (.compositeIdentifier e.path)

theorem identity_eq_ok_iff {e : Entity} {name : String} :
    e.identity = .ok name ↔ e.identifier = [name] := by
  unfold identity
  split <;> simp_all

def isIdentity (e : Entity) (name : String) : Bool :=
  e.identifier == [name]

/-! ## Validity -/

def memberNames (e : Entity) : List String :=
  e.fields.map (·.name) ++ e.associations.map (·.name)

def firstRepeat? (seen : List String) : List String → Option String
  | [] => none
  | name :: names => if seen.contains name then some name else firstRepeat? (name :: seen) names

def validate (e : Entity) : Except Fault Unit :=
  match firstRepeat? [] e.memberNames with
  | some name => .error (.duplicateField e.path name)
  | none =>
    match e.identifier.find? (fun name => (e.field? name).isNone) with
    | some name => .error (.unknownField e.path name)
    | none => .ok ()

structure Valid (e : Entity) : Prop where
  nodup : e.memberNames.Nodup
  identifier_field (name : String) (hname : name ∈ e.identifier) : ∃ f ∈ e.fields, f.name = name

instance (e : Entity) : Decidable e.Valid :=
  decidable_of_iff (e.memberNames.Nodup ∧ ∀ name ∈ e.identifier, ∃ f ∈ e.fields, f.name = name)
    ⟨fun ⟨hnodup, hfield⟩ => ⟨hnodup, hfield⟩,
      fun hvalid => ⟨hvalid.nodup, hvalid.identifier_field⟩⟩

theorem firstRepeat?_eq_none_iff {seen names : List String} :
    firstRepeat? seen names = none ↔ names.Nodup ∧ ∀ name ∈ names, name ∉ seen := by
  induction names generalizing seen with
  | nil => simp [firstRepeat?]
  | cons name names ih =>
    rw [firstRepeat?, List.nodup_cons, List.forall_mem_cons]
    split
    · next hseen =>
      have hmem : name ∈ seen := by simpa using hseen
      simp [hmem]
    · next hseen =>
      have hmem : name ∉ seen := by simpa using hseen
      simp only [ih, List.mem_cons, not_or]
      constructor
      · intro ⟨hnodup, hfresh⟩
        exact ⟨⟨fun hname => (hfresh name hname).1 rfl, hnodup⟩, hmem, fun n hn => (hfresh n hn).2⟩
      · intro ⟨⟨hname, hnodup⟩, _, hfresh⟩
        refine ⟨hnodup, fun n hn => ⟨?_, hfresh n hn⟩⟩
        intro heq
        exact hname (heq ▸ hn)

theorem validate_eq_ok_iff {e : Entity} : e.validate = .ok () ↔ e.Valid := by
  have hidentifier : e.identifier.find? (fun name => (e.field? name).isNone) = none ↔
      ∀ name ∈ e.identifier, ∃ f ∈ e.fields, f.name = name := by
    simp [field?]
  rw [validate]
  cases hrepeat : firstRepeat? [] e.memberNames with
  | some name =>
    have hnot : ¬ e.memberNames.Nodup := by
      intro hnodup
      rw [firstRepeat?_eq_none_iff.mpr ⟨hnodup, fun _ _ => List.not_mem_nil⟩] at hrepeat
      cases hrepeat
    constructor
    · intro hok
      cases hok
    · intro hvalid
      exact absurd hvalid.nodup hnot
  | none =>
    have hnodup := (firstRepeat?_eq_none_iff.mp hrepeat).1
    cases hfind : e.identifier.find? (fun name => (e.field? name).isNone) with
    | some name =>
      constructor
      · intro hok
        cases hok
      · intro hvalid
        rw [hidentifier.mpr hvalid.identifier_field] at hfind
        cases hfind
    | none => exact ⟨fun _ => ⟨hnodup, hidentifier.mp hfind⟩, fun _ => rfl⟩

theorem exists_fault_of_not_valid {e : Entity} (hvalid : ¬ e.Valid) :
    ∃ fault, e.validate = .error fault := by
  cases hvalidate : e.validate with
  | error fault => exact ⟨fault, rfl⟩
  | ok => exact absurd (validate_eq_ok_iff.mp hvalidate) hvalid

/-- The entity together with the proof that it is valid. -/
def validated (e : Entity) : Except Fault { e : Entity // e.Valid } :=
  match hvalidate : e.validate with
  | .ok () => .ok ⟨e, validate_eq_ok_iff.mp hvalidate⟩
  | .error fault => .error fault

theorem validated_of_valid {e : Entity} (hvalid : e.Valid) : e.validated = .ok ⟨e, hvalid⟩ := by
  have hvalidate := validate_eq_ok_iff.mpr hvalid
  unfold validated
  split
  · rfl
  · next hfault => simp [hvalidate] at hfault

theorem validated_of_fault {e : Entity} {fault : Fault} (hfault : e.validate = .error fault) :
    e.validated = .error fault := by
  unfold validated
  split
  · next hvalidate => simp [hfault] at hvalidate
  · next hvalidate =>
    cases hfault.symm.trans hvalidate
    rfl

end Entity

end FilterTyping
