import FilterTyping.Proofs.SchemaLoading

/-!
# Which fault a list of entities is refused for

A list of entities may be at fault in several ways at once. The entities come first, in the order of
the list, each with its repeated names, then the names of its identifier, then its path. Only if all
of them pass are the associations followed, and these in the order of the paths.
-/

namespace FilterTyping

/-! ## Faults of one entity -/

/-- The first fault that an entity has by itself. Fields stand before associations. -/
inductive Entity.FirstFault (e : Entity) : Fault → Prop
  | repeatedName {before after : List String} {name : String}
    (hnames : e.fields.map (·.name) ++ e.associations.map (·.name) = before ++ name :: after)
    (hbefore : before.Nodup) (hname : name ∈ before) : FirstFault e (.duplicateField e.path name)
  | unknownIdentifier {before after : List String} {name : String}
    (hnodup : (e.fields.map (·.name) ++ e.associations.map (·.name)).Nodup)
    (hidentifier : e.identifier = before ++ name :: after)
    (hbefore : ∀ other ∈ before, other ∈ e.fields.map (·.name))
    (hname : name ∉ e.fields.map (·.name)) : FirstFault e (.unknownField e.path name)

namespace Entity

theorem firstRepeat?_append_cons {seen before after : List String} {name : String}
    (hnodup : before.Nodup) (hfresh : ∀ other ∈ before, other ∉ seen)
    (hname : name ∈ before ∨ name ∈ seen) :
    firstRepeat? seen (before ++ name :: after) = some name := by
  induction before generalizing seen with
  | nil =>
    have hseen : name ∈ seen := by simpa using hname
    simp [firstRepeat?, hseen]
  | cons head before ih =>
    obtain ⟨hnew, hnodup⟩ := List.nodup_cons.mp hnodup
    rw [List.forall_mem_cons] at hfresh
    rw [List.cons_append, firstRepeat?, if_neg (by simpa using hfresh.1)]
    apply ih hnodup
    · intro other hother hseen
      rcases List.mem_cons.mp hseen with rfl | hseen
      · exact hnew hother
      · exact hfresh.2 other hother hseen
    · rcases hname with hname | hname
      · rcases List.mem_cons.mp hname with rfl | hname
        · exact .inr List.mem_cons_self
        · exact .inl hname
      · exact .inr (List.mem_cons_of_mem _ hname)

theorem exists_of_firstRepeat? {seen names : List String} {name : String}
    (hrepeat : firstRepeat? seen names = some name) :
    ∃ before after, names = before ++ name :: after ∧ before.Nodup ∧
      (∀ other ∈ before, other ∉ seen) ∧ (name ∈ before ∨ name ∈ seen) := by
  induction names generalizing seen with
  | nil => cases hrepeat
  | cons head names ih =>
    rw [firstRepeat?] at hrepeat
    split at hrepeat
    · next hseen =>
      cases hrepeat
      exact ⟨[], names, rfl, .nil, by simp, .inr (by simpa using hseen)⟩
    · next hseen =>
      have hhead : head ∉ seen := by simpa using hseen
      obtain ⟨before, after, rfl, hnodup, hfresh, hname⟩ := ih hrepeat
      simp only [List.mem_cons, not_or] at hfresh hname
      refine ⟨head :: before, after, rfl, ?_, ?_, ?_⟩
      · exact List.nodup_cons.mpr ⟨fun hmem => (hfresh head hmem).1 rfl, hnodup⟩
      · exact List.forall_mem_cons.mpr ⟨hhead, fun other hother => (hfresh other hother).2⟩
      · rw [List.mem_cons]
        tauto

theorem find?_identifier_eq_some_iff {e : Entity} {name : String} :
    e.identifier.find? (fun name => (e.field? name).isNone) = some name ↔
      name ∉ e.fields.map (·.name) ∧ ∃ before after, e.identifier = before ++ name :: after ∧
        ∀ other ∈ before, other ∈ e.fields.map (·.name) := by
  simp [List.find?_eq_some_iff_append, field?]

theorem validate_eq_error_iff {e : Entity} {fault : Fault} :
    e.validate = .error fault ↔ e.FirstFault fault := by
  constructor
  · intro herror
    rw [validate] at herror
    split at herror
    · next name hrepeat =>
      cases herror
      obtain ⟨before, after, hnames, hbefore, -, hname⟩ := exists_of_firstRepeat? hrepeat
      exact .repeatedName hnames hbefore (by simpa using hname)
    · next hrepeat =>
      split at herror
      · next name hfind =>
        cases herror
        obtain ⟨hname, before, after, hidentifier, hbefore⟩ := find?_identifier_eq_some_iff.mp hfind
        exact .unknownIdentifier (firstRepeat?_eq_none_iff.mp hrepeat).1 hidentifier hbefore hname
      · cases herror
  · rintro (⟨hnames, hbefore, hname⟩ | ⟨hnodup, hidentifier, hbefore, hname⟩)
    · rw [validate, memberNames, hnames,
        firstRepeat?_append_cons hbefore (fun _ _ => List.not_mem_nil) (.inl hname)]
    · have hrepeat : firstRepeat? [] e.memberNames = none :=
        firstRepeat?_eq_none_iff.mpr ⟨hnodup, fun _ _ => List.not_mem_nil⟩
      have hfind := find?_identifier_eq_some_iff.mpr ⟨hname, _, _, hidentifier, hbefore⟩
      rw [validate, hrepeat, hfind]

end Entity

/-! ## Faults of a list -/

/-- The first fault of a list of entities. Targets are looked for in the whole list. -/
inductive Schema.FirstFault (entities : List Entity) : Fault → Prop
  | ofEntity {before after : List Entity} {e : Entity} {fault : Fault}
    (hentities : entities = before ++ e :: after) (hvalid : ∀ other ∈ before, other.Valid)
    (hpaths : (before.map (·.path)).Nodup) (hfault : e.FirstFault fault) :
    FirstFault entities fault
  | takenPath {before after : List Entity} {e : Entity}
    (hentities : entities = before ++ e :: after) (hvalid : ∀ other ∈ before, other.Valid)
    (hpaths : (before.map (·.path)).Nodup) (he : e.Valid)
    (htaken : e.path ∈ before.map (·.path)) : FirstFault entities (.duplicateEntity e.path)
  | unknownTarget {sorted before after : List Entity} {e : Entity}
    {first rest : List Association} {a : Association}
    (hvalid : ∀ e ∈ entities, e.Valid) (hpaths : (entities.map (·.path)).Nodup)
    (hperm : sorted.Perm entities) (hsorted : sorted.Pairwise (·.path < ·.path))
    (hentities : sorted = before ++ e :: after)
    (hbefore : ∀ other ∈ before, ∀ b ∈ other.associations, b.target ∈ entities.map (·.path))
    (hassociations : e.associations = first ++ a :: rest)
    (hfirst : ∀ b ∈ first, b.target ∈ entities.map (·.path))
    (htarget : a.target ∉ entities.map (·.path)) : FirstFault entities (.unknownEntity a.target)

theorem foldlM_eq_error_iff {α β ε : Type} {step : β → α → Except ε β} {items : List α} {b : β}
    {error : ε} :
    items.foldlM step b = .error error ↔ ∃ before a after b', items = before ++ a :: after ∧
      before.foldlM step b = .ok b' ∧ step b' a = .error error := by
  constructor
  · intro herror
    induction items generalizing b with
    | nil => cases herror
    | cons head items ih =>
      rw [List.foldlM_cons] at herror
      cases hstep : step b head with
      | error other =>
        rw [hstep] at herror
        cases herror
        exact ⟨[], head, items, b, rfl, rfl, hstep⟩
      | ok next =>
        rw [hstep] at herror
        obtain ⟨before, a, after, b', rfl, hbefore, ha⟩ := ih herror
        refine ⟨head :: before, a, after, b', rfl, ?_, ha⟩
        rw [List.foldlM_cons, hstep]
        exact hbefore
  · rintro ⟨before, a, after, b', rfl, hbefore, ha⟩
    rw [List.foldlM_append, hbefore]
    change (a :: after).foldlM step b' = _
    rw [List.foldlM_cons, ha]
    rfl

namespace Schema

theorem add_eq_error_iff {s : Schema} {e : Entity} {fault : Fault} :
    s.add e = .error fault ↔
      e.FirstFault fault ∨ e.Valid ∧ (s.find? e.path).isSome ∧ fault = .duplicateEntity e.path := by
  rw [← Entity.validate_eq_error_iff, add]
  by_cases hvalid : e.Valid
  · rw [Entity.validated_of_valid hvalid, Entity.validate_eq_ok_iff.mpr hvalid]
    cases hfree : s.find? e.path <;>
      simp [bind, Except.bind, pure, Except.pure, throw, throwThe, MonadExceptOf.throw,
        contains_eq_isSome_find?, hfree, hvalid, @eq_comm _ fault]
  · obtain ⟨other, hother⟩ := Entity.exists_fault_of_not_valid hvalid
    rw [Entity.validated_of_fault hother, hother]
    simp [bind, Except.bind, hvalid]

/-- The entities of a schema in the order of their paths. -/
def inOrder (s : Schema) : List Entity :=
  s.entities.toList.map (·.2)

theorem mem_inOrder_iff {s : Schema} {e : Entity} :
    e ∈ s.inOrder ↔ ∃ path, s.find? path = some e := by
  simp [inOrder, find?, Std.TreeMap.mem_toList_iff_getElem?_eq_some]

theorem pairwise_inOrder (s : Schema) : s.inOrder.Pairwise (·.path < ·.path) := by
  have hpath {entry : String × Entity} (hmem : entry ∈ s.entities.toList) :
      entry.2.path = entry.1 :=
    s.path_eq (Std.TreeMap.mem_toList_iff_getElem?_eq_some.mp hmem)
  rw [inOrder, List.pairwise_map]
  apply Std.TreeMap.ordered_keys_toList.imp_of_mem
  intro entry other hentry hother hlt
  rw [hpath hentry, hpath hother]
  exact compareOfLessAndEq_eq_lt.mp hlt

theorem dangling?_eq_some_iff {s : Schema} {target : String} :
    s.dangling? = some target ↔ ∃ before e after first a rest,
      s.inOrder = before ++ e :: after ∧
      (∀ other ∈ before, ∀ b ∈ other.associations, s.contains b.target) ∧
      e.associations = first ++ a :: rest ∧ (∀ b ∈ first, s.contains b.target) ∧
      ¬ s.contains a.target ∧ a.target = target := by
  have hdangling : s.dangling? = s.inOrder.findSome? fun e =>
      (e.associations.find? fun a => !s.contains a.target).map (·.target) := by
    rw [inOrder, List.findSome?_map]
    rfl
  rw [hdangling, List.findSome?_eq_some_iff]
  constructor
  · rintro ⟨before, e, after, hentities, hfound, hbefore⟩
    obtain ⟨a, hfind, htarget⟩ := Option.map_eq_some_iff.mp hfound
    obtain ⟨ha, first, rest, hassociations, hfirst⟩ := List.find?_eq_some_iff_append.mp hfind
    refine ⟨before, e, after, first, a, rest, hentities, ?_, hassociations, ?_, ?_, htarget⟩
    · simpa using hbefore
    · simpa using hfirst
    · simpa using ha
  · rintro ⟨before, e, after, first, a, rest, hentities, hbefore, hassociations, hfirst, ha,
      htarget⟩
    refine ⟨before, e, after, hentities, Option.map_eq_some_iff.mpr ⟨a, ?_, htarget⟩, ?_⟩
    · refine List.find?_eq_some_iff_append.mpr ⟨?_, first, rest, hassociations, ?_⟩
      · simpa using ha
      · simpa using hfirst
    · simpa using hbefore

namespace Holds

variable {s : Schema} {entities : List Entity} (hholds : s.Holds entities)

include hholds

theorem contains_iff (path : String) : s.contains path ↔ path ∈ entities.map (·.path) := by
  rw [contains_eq_isSome_find?, hholds.isSome_find?_iff]

variable (hpaths : (entities.map (·.path)).Nodup)

include hpaths

theorem inOrder_perm : s.inOrder.Perm entities := by
  have hnodup : s.inOrder.Nodup := by
    refine s.pairwise_inOrder.imp ?_
    rintro e _ hlt rfl
    exact String.lt_irrefl e.path hlt
  refine (List.perm_ext_iff_of_nodup hnodup (.of_map _ hpaths)).mpr fun e => ?_
  simp [mem_inOrder_iff, hholds.find?_eq_some_iff hpaths]

theorem inOrder_eq_iff {sorted : List Entity} :
    s.inOrder = sorted ↔ sorted.Perm entities ∧ sorted.Pairwise (·.path < ·.path) := by
  constructor
  · rintro rfl
    exact ⟨hholds.inOrder_perm hpaths, s.pairwise_inOrder⟩
  · rintro ⟨hperm, hsorted⟩
    refine List.Perm.eq_of_pairwise ?_ s.pairwise_inOrder hsorted
      ((hholds.inOrder_perm hpaths).trans hperm.symm)
    intro e other _ _ hlt hgt
    exact absurd hgt (String.lt_asymm hlt)

end Holds

theorem ofEntities_eq_error_iff {entities : List Entity} {fault : Fault} :
    ofEntities entities = .error fault ↔ entities.foldlM add empty = .error fault ∨
      ∃ s target, entities.foldlM add empty = .ok s ∧ s.dangling? = some target ∧
        fault = .unknownEntity target := by
  rw [ofEntities]
  cases entities.foldlM add empty with
  | error other => simp [bind, Except.bind]
  | ok s =>
    cases hdangling : s.dangling? with
    | none => simp [bind, Except.bind, hdangling, pure, Except.pure]
    | some target =>
      simp [bind, Except.bind, hdangling, throw, throwThe, MonadExceptOf.throw, @eq_comm _ fault]

theorem exists_foldlM_add_iff {entities : List Entity} :
    (∃ s, entities.foldlM add empty = .ok s) ↔
      (∀ e ∈ entities, e.Valid) ∧ (entities.map (·.path)).Nodup := by
  simp [foldlM_add_eq_ok_iff, exists_run_forM_register_iff, and_comm]

theorem foldlM_add_eq_error_iff {entities : List Entity} {fault : Fault} :
    entities.foldlM add empty = .error fault ↔ ∃ before e after, entities = before ++ e :: after ∧
      (∀ other ∈ before, other.Valid) ∧ (before.map (·.path)).Nodup ∧
      (e.FirstFault fault ∨
        e.Valid ∧ e.path ∈ before.map (·.path) ∧ fault = .duplicateEntity e.path) := by
  rw [foldlM_eq_error_iff]
  constructor
  · rintro ⟨before, e, after, s, hentities, hbefore, hadd⟩
    have hholds : s.Holds before := Holds.empty.foldlM_add hbefore
    obtain ⟨hvalid, hpaths⟩ := exists_foldlM_add_iff.mp ⟨s, hbefore⟩
    rw [add_eq_error_iff, hholds.isSome_find?_iff] at hadd
    exact ⟨before, e, after, hentities, hvalid, hpaths, hadd⟩
  · rintro ⟨before, e, after, hentities, hvalid, hpaths, hfault⟩
    obtain ⟨s, hbefore⟩ := exists_foldlM_add_iff.mpr ⟨hvalid, hpaths⟩
    have hholds : s.Holds before := Holds.empty.foldlM_add hbefore
    refine ⟨before, e, after, s, hentities, hbefore, ?_⟩
    rwa [add_eq_error_iff, hholds.isSome_find?_iff]

theorem ofEntities_eq_error_iff_firstFault {entities : List Entity} {fault : Fault} :
    ofEntities entities = .error fault ↔ FirstFault entities fault := by
  rw [ofEntities_eq_error_iff, foldlM_add_eq_error_iff]
  constructor
  · rintro (⟨before, e, after, hentities, hvalid, hpaths, hfault⟩ | ⟨s, _, hload, hdangling, rfl⟩)
    · rcases hfault with hfault | ⟨he, htaken, rfl⟩
      · exact .ofEntity hentities hvalid hpaths hfault
      · exact .takenPath hentities hvalid hpaths he htaken
    · have hholds : s.Holds entities := Holds.empty.foldlM_add hload
      obtain ⟨hvalid, hpaths⟩ := exists_foldlM_add_iff.mp ⟨s, hload⟩
      obtain ⟨before, e, after, first, a, rest, hentities, hbefore, hassociations, hfirst, ha,
        rfl⟩ := dangling?_eq_some_iff.mp hdangling
      simp only [hholds.contains_iff] at hbefore hfirst ha
      obtain ⟨hperm, hsorted⟩ := (hholds.inOrder_eq_iff hpaths).mp rfl
      exact .unknownTarget hvalid hpaths hperm hsorted hentities hbefore hassociations hfirst ha
  · intro hfault
    cases hfault with
    | ofEntity hentities hvalid hpaths hfault =>
      exact .inl ⟨_, _, _, hentities, hvalid, hpaths, .inl hfault⟩
    | takenPath hentities hvalid hpaths he htaken =>
      exact .inl ⟨_, _, _, hentities, hvalid, hpaths, .inr ⟨he, htaken, rfl⟩⟩
    | unknownTarget hvalid hpaths hperm hsorted hentities hbefore hassociations hfirst htarget =>
      obtain ⟨s, hload⟩ := exists_foldlM_add_iff.mpr ⟨hvalid, hpaths⟩
      have hholds : s.Holds entities := Holds.empty.foldlM_add hload
      have horder := (hholds.inOrder_eq_iff hpaths).mpr ⟨hperm, hsorted⟩
      simp only [← hholds.contains_iff] at hbefore hfirst htarget
      have hdangling := dangling?_eq_some_iff.mpr ⟨_, _, _, _, _, _, horder.trans hentities,
        hbefore, hassociations, hfirst, htarget, rfl⟩
      exact .inr ⟨s, _, hload, hdangling, rfl⟩

end Schema

/-- A list of entities loads if its names, paths and targets are in order, and else tells its first
fault. -/
theorem loading_stops_at_first_fault (entities : List Entity) :
    ((∃ s, Schema.ofEntities entities = .ok s) ↔
      (∀ e ∈ entities, (e.fields.map (·.name) ++ e.associations.map (·.name)).Nodup) ∧
      (∀ e ∈ entities, ∀ name ∈ e.identifier, name ∈ e.fields.map (·.name)) ∧
      (entities.map (·.path)).Nodup ∧
      ∀ e ∈ entities, ∀ a ∈ e.associations, a.target ∈ entities.map (·.path)) ∧
    ∀ fault, Schema.ofEntities entities = .error fault ↔ Schema.FirstFault entities fault := by
  refine ⟨?_, fun _ => Schema.ofEntities_eq_error_iff_firstFault⟩
  constructor
  · rintro ⟨s, hloaded⟩
    obtain ⟨⟨hvalid, hpaths, htargets⟩, -⟩ := Schema.ofEntities_eq_ok_iff_loadable.mp hloaded
    refine ⟨fun e he => (hvalid e he).nodup, fun e he name hname => ?_, hpaths, htargets⟩
    exact List.mem_map.mpr ((hvalid e he).identifier_field name hname)
  · rintro ⟨hnames, hidentifiers, hpaths, htargets⟩
    have hvalid (e : Entity) (he : e ∈ entities) : e.Valid :=
      ⟨hnames e he, fun name hname => List.mem_map.mp (hidentifiers e he name hname)⟩
    obtain ⟨s, hloaded, -⟩ := Schema.Loadable.exists_ofEntities ⟨hvalid, hpaths, htargets⟩
    exact ⟨s, hloaded⟩

def billOfAddress : Entity where
  path := "Bill"
  associations := [⟨"again", "Bill", .toOne⟩, ⟨"address", "Address", .toOne⟩]

theorem address_is_missed_before_order :
    Schema.ofEntities [lineOfOrder, billOfAddress] = .error (.unknownEntity "Address") ∧
      Schema.ofEntities [lineOfOrder, billOfAddress, lineReversed] =
        .error (.duplicateEntity "Line") ∧
      Schema.ofEntities [lineOfOrder, orderOfSelf, lineReversed] =
        .error (.unknownField "Order" "id") := by
  refine ⟨?_, ?_, ?_⟩
  · refine ((loading_stops_at_first_fault _).2 _).mpr ?_
    have hassociations : billOfAddress.associations =
        [⟨"again", "Bill", .toOne⟩] ++ ⟨"address", "Address", .toOne⟩ :: [] := rfl
    exact .unknownTarget (by decide) (by decide) (.swap lineOfOrder billOfAddress []) (by decide)
      (rfl : _ = [] ++ billOfAddress :: [lineOfOrder]) (by decide) hassociations (by decide)
      (by decide)
  · refine ((loading_stops_at_first_fault _).2 _).mpr ?_
    exact .takenPath (rfl : _ = [lineOfOrder, billOfAddress] ++ lineReversed :: []) (by decide)
      (by decide) (by decide) (by decide)
  · refine ((loading_stops_at_first_fault _).2 _).mpr ?_
    exact .ofEntity (rfl : _ = [lineOfOrder] ++ orderOfSelf :: [lineReversed]) (by decide)
      (by decide) (.unknownIdentifier (by decide) (rfl : _ = [] ++ "id" :: []) (by decide)
        (by decide))

end FilterTyping
