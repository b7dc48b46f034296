import FilterTyping.Schema.Metadata
import Std.Data.TreeMap

/-!
# Schemas

A schema holds valid entities, each under its own path, in ascending order of the paths.
-/

namespace FilterTyping

structure Schema where
  entities : Std.TreeMap String Entity
  path_eq {path : String} {e : Entity} (hfound : entities[path]? = some e) : e.path = path
  valid {path : String} {e : Entity} (hfound : entities[path]? = some e) : e.Valid

namespace Schema

def size (s : Schema) : Nat := s.entities.size

def isEmpty (s : Schema) : Bool := s.entities.isEmpty

def contains (s : Schema) (path : String) : Bool := s.entities.contains path

def find? (s : Schema) (path : String) : Option Entity := s.entities[path]?

instance : Coe Schema Metadata where
  coe s := { find? := s.find? }

theorem contains_eq_isSome_find? (s : Schema) (path : String) :
    s.contains path = (s.find? path).isSome := by
  simp [find?, contains]

/-! ## Single entities -/

def empty : Schema where
  entities := {}
  path_eq := by simp
  valid := by simp

@[simp]
theorem find?_empty (path : String) : empty.find? path = none := by
  simp [find?, empty]

def insert (s : Schema) (e : Entity) (hvalid : e.Valid := by decide) : Schema where
  entities := s.entities.insert e.path e
  path_eq := by
    intro path other hfound
    rw [Std.TreeMap.getElem?_insert] at hfound
    split at hfound
    · next hpath =>
      cases hfound
      simpa using hpath
    · exact s.path_eq hfound
  valid := by
    intro path other hfound
    rw [Std.TreeMap.getElem?_insert] at hfound
    split at hfound
    · cases hfound
      exact hvalid
    · exact s.valid hfound

variable {s : Schema} {e : Entity}

theorem find?_insert (hvalid : e.Valid) (path : String) :
    (s.insert e hvalid).find? path = if e.path = path then some e else s.find? path := by
  simp [find?, insert, Std.TreeMap.getElem?_insert]

theorem size_insert (hvalid : e.Valid) :
    (s.insert e hvalid).size = if (s.find? e.path).isSome then s.size else s.size + 1 := by
  simp [size, insert, find?, Std.TreeMap.size_insert]

/-- Takes in a valid entity, in place of an older one with its path. -/
def register (e : Entity) : ExceptT Fault (StateM Schema) Unit := do
  let ⟨e, hvalid⟩ ← e.validated
  modify (·.insert e hvalid)

theorem run_register_of_valid (hvalid : e.Valid) :
    (register e).run.run s = (.ok (), s.insert e hvalid) := by
  rw [register, Entity.validated_of_valid hvalid]
  rfl

theorem run_register_of_fault {fault : Fault} (hfault : e.validate = .error fault) :
    (register e).run.run s = (.error fault, s) := by
  rw [register, Entity.validated_of_fault hfault]
  rfl

/-! ## Many entities at once -/

def add (s : Schema) (e : Entity) : Except Fault Schema := do
  let ⟨e, hvalid⟩ ← e.validated
  if s.contains e.path then throw (.duplicateEntity e.path)
  return s.insert e hvalid

theorem add_eq_ok_iff {s' : Schema} :
    s.add e = .ok s' ↔ ∃ hvalid : e.Valid, s.find? e.path = none ∧ s' = s.insert e hvalid := by
  by_cases hvalid : e.Valid
  · rw [add, Entity.validated_of_valid hvalid]
    cases hfree : s.find? e.path <;>
      simp [bind, Except.bind, pure, Except.pure, throw, throwThe, MonadExceptOf.throw,
        contains_eq_isSome_find?, hfree, hvalid, @eq_comm _ s']
  · obtain ⟨fault, hfault⟩ := Entity.exists_fault_of_not_valid hvalid
    rw [add, Entity.validated_of_fault hfault]
    simp [bind, Except.bind, hvalid]

/-- The first target that is no entity of the schema, going by the order of the paths. -/
def dangling? (s : Schema) : Option String :=
  s.entities.toList.findSome? fun (_, e) =>
    (e.associations.find? fun a => !s.contains a.target).map (·.target)

theorem dangling?_eq_none_iff :
    s.dangling? = none ↔
      ∀ path e, s.find? path = some e → ∀ a ∈ e.associations, s.contains a.target := by
  simp [dangling?, find?, Std.TreeMap.mem_toList_iff_getElem?_eq_some]

/-- The schema of these entities. All that they lead to must be among them. -/
def ofEntities (entities : List Entity) : Except Fault Schema := do
  let s ← entities.foldlM add empty
  match s.dangling? with
  | some target => throw (.unknownEntity target)
  | none => return s

theorem ofEntities_eq_ok_iff {entities : List Entity} :
    ofEntities entities = .ok s ↔ entities.foldlM add empty = .ok s ∧ s.dangling? = none := by
  rw [ofEntities]
  cases entities.foldlM add empty with
  | error fault => simp [bind, Except.bind]
  | ok loaded =>
    cases hdangling : loaded.dangling? with
    | some target =>
      simp only [bind, Except.bind, hdangling, Except.ok.injEq]
      constructor
      · intro hok
        cases hok
      · rintro ⟨rfl, hnone⟩
        rw [hdangling] at hnone
        cases hnone
    | none =>
      simp only [bind, Except.bind, hdangling, pure, Except.pure, Except.ok.injEq]
      constructor
      · rintro rfl
        exact ⟨rfl, hdangling⟩
      · exact And.left

end Schema

end FilterTyping
