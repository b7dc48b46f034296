import FilterTyping.Proofs.Likeness
import FilterTyping.Proofs.SchemaHistory
import Mathlib.Data.List.Find
import Mathlib.Data.List.Perm.Basic

/-!
# Loading a list of entities

What a list of entities needs to make up a schema. No order comes into it, neither that of the
entities nor that of their members, and a check cannot tell one order from another.
-/

namespace FilterTyping

/-! ## Lists that load -/

namespace Schema

structure Loadable (entities : List Entity) : Prop where
  valid (e : Entity) (he : e ∈ entities) : e.Valid
  nodup_path : (entities.map (·.path)).Nodup
  target_mem (e : Entity) (he : e ∈ entities) (a : Association) (ha : a ∈ e.associations) :
    a.target ∈ entities.map (·.path)

theorem find?_insert_eq_none_iff {s : Schema} {e : Entity} (hvalid : e.Valid) {path : String} :
    (s.insert e hvalid).find? path = none ↔ e.path ≠ path ∧ s.find? path = none := by
  rw [find?_insert]
  split <;> simp_all

theorem run_forM_register_cons {e : Entity} (hvalid : e.Valid) (entities : List Entity)
    (s : Schema) : (forM (e :: entities) register).run.run s =
      (forM entities register).run.run (s.insert e hvalid) := by
  rw [List.forM_cons, ExceptT.run_bind, StateT.run_bind, run_register_of_valid hvalid]
  rfl

theorem exists_run_forM_register_iff {entities : List Entity} {s : Schema} :
    (∃ s', (forM entities register).run.run s = (.ok (), s')) ↔ ∀ e ∈ entities, e.Valid := by
  induction entities generalizing s with
  | nil => exact ⟨fun _ => nofun, fun _ => ⟨s, rfl⟩⟩
  | cons e entities ih =>
    rw [List.forall_mem_cons]
    rcases run_register s e with ⟨hvalid, -⟩ | ⟨fault, hfault, hinvalid, hrun⟩
    · rw [run_forM_register_cons hvalid, ih]
      exact ⟨fun hrest => ⟨hvalid, hrest⟩, And.right⟩
    · rw [List.forM_cons, ExceptT.run_bind, StateT.run_bind, hrun]
      refine ⟨?_, fun hvalid => absurd hvalid.1 hinvalid⟩
      rintro ⟨s', hregistered⟩
      cases hregistered

/-- To add entities is to register them, as long as no path comes twice. -/
theorem foldlM_add_eq_ok_iff {entities : List Entity} {s s' : Schema} :
    entities.foldlM add s = .ok s' ↔
      (∀ e ∈ entities, s.find? e.path = none) ∧ (entities.map (·.path)).Nodup ∧
        (forM entities register).run.run s = (.ok (), s') := by
  induction entities generalizing s with
  | nil =>
    constructor
    · intro hload
      cases hload
      exact ⟨nofun, .nil, rfl⟩
    · rintro ⟨-, -, hregistered⟩
      cases hregistered
      rfl
  | cons e entities ih =>
    rw [List.foldlM_cons, List.forall_mem_cons, List.map_cons, List.nodup_cons]
    cases hadd : s.add e with
    | error fault =>
      constructor
      · intro hload
        cases hload
      · rintro ⟨⟨hfree, -⟩, -, hregistered⟩
        have hvalid := (exists_run_forM_register_iff.mp ⟨s', hregistered⟩) e List.mem_cons_self
        rw [add_eq_ok_iff.mpr ⟨hvalid, hfree, rfl⟩] at hadd
        cases hadd
    | ok next =>
      obtain ⟨hvalid, hfree, rfl⟩ := add_eq_ok_iff.mp hadd
      change entities.foldlM add (s.insert e hvalid) = .ok s' ↔ _
      rw [ih, run_forM_register_cons hvalid]
      constructor
      · rintro ⟨hrest, hnodup, hregistered⟩
        refine ⟨⟨hfree, fun other hother => ?_⟩, ⟨?_, hnodup⟩, hregistered⟩
        · exact ((find?_insert_eq_none_iff hvalid).mp (hrest other hother)).2
        · intro hmem
          obtain ⟨other, hother, hpath⟩ := List.mem_map.mp hmem
          exact ((find?_insert_eq_none_iff hvalid).mp (hrest other hother)).1 hpath.symm
      · rintro ⟨⟨-, hrest⟩, ⟨hnew, hnodup⟩, hregistered⟩
        refine ⟨fun other hother => ?_, hnodup, hregistered⟩
        refine (find?_insert_eq_none_iff hvalid).mpr ⟨fun hpath => hnew ?_, hrest other hother⟩
        exact List.mem_map.mpr ⟨other, hother, hpath.symm⟩

theorem Holds.find?_eq_some_iff {s : Schema} {accepted : List Entity} (hholds : s.Holds accepted)
    (hnodup : (accepted.map (·.path)).Nodup) {path : String} {e : Entity} :
    s.find? path = some e ↔ e ∈ accepted ∧ e.path = path := by
  refine ⟨hholds.mem_of_find?, ?_⟩
  rintro ⟨hmem, hpath⟩
  have hknown : path ∈ accepted.map (·.path) := List.mem_map.mpr ⟨e, hmem, hpath⟩
  obtain ⟨other, hfound⟩ := Option.isSome_iff_exists.mp ((hholds.isSome_find?_iff path).mpr hknown)
  obtain ⟨hother, hotherPath⟩ := hholds.mem_of_find? hfound
  rw [hfound, List.inj_on_of_nodup_map hnodup hother hmem (hotherPath.trans hpath.symm)]

theorem ofEntities_eq_ok_iff_loadable {entities : List Entity} {s : Schema} :
    ofEntities entities = .ok s ↔
      Loadable entities ∧ (forM entities register).run.run empty = (.ok (), s) := by
  rw [ofEntities_eq_ok_iff]
  constructor
  · rintro ⟨hload, hdangling⟩
    have hholds := Holds.empty.foldlM_add hload
    obtain ⟨-, hnodup, hregistered⟩ := foldlM_add_eq_ok_iff.mp hload
    have hvalid := exists_run_forM_register_iff.mp ⟨s, hregistered⟩
    refine ⟨⟨hvalid, hnodup, fun e he a ha => ?_⟩, hregistered⟩
    have hfound := (hholds.find?_eq_some_iff hnodup).mpr ⟨he, rfl⟩
    have htarget := dangling?_eq_none_iff.mp hdangling e.path e hfound a ha
    rw [contains_eq_isSome_find?] at htarget
    exact (hholds.isSome_find?_iff a.target).mp htarget
  · rintro ⟨⟨-, hnodup, htarget⟩, hregistered⟩
    have hload : entities.foldlM add empty = .ok s :=
      foldlM_add_eq_ok_iff.mpr ⟨fun e _ => find?_empty e.path, hnodup, hregistered⟩
    have hholds := Holds.empty.foldlM_add hload
    refine ⟨hload, dangling?_eq_none_iff.mpr fun path e hfound a ha => ?_⟩
    obtain ⟨he, -⟩ := hholds.mem_of_find? hfound
    rw [contains_eq_isSome_find?]
    exact (hholds.isSome_find?_iff a.target).mpr (htarget e he a ha)

theorem Loadable.exists_ofEntities {entities : List Entity} (hloadable : Loadable entities) :
    ∃ s, ofEntities entities = .ok s ∧ (forM entities register).run.run empty = (.ok (), s) := by
  obtain ⟨s, hregistered⟩ := exists_run_forM_register_iff.mpr hloadable.valid
  exact ⟨s, ofEntities_eq_ok_iff_loadable.mpr ⟨hloadable, hregistered⟩, hregistered⟩

end Schema

/-! ## Reordered entities -/

/-- The same entity, with its members and the names of its identifier in any order. -/
structure Entity.Reordered (e e' : Entity) : Prop where
  path_eq : e.path = e'.path
  root_eq : e.root = e'.root
  identifier : e.identifier.Perm e'.identifier
  fields : e.fields.Perm e'.fields
  associations : e.associations.Perm e'.associations

def Entity.ReorderedAll (entities entities' : List Entity) : Prop :=
  ∃ permuted, entities.Perm permuted ∧ List.Forall₂ Entity.Reordered permuted entities'

theorem find?_name_eq_of_perm {α : Type} {name : α → String} {members members' : List α}
    (hperm : members.Perm members') (hnodup : (members.map name).Nodup) (key : String) :
    members.find? (name · == key) = members'.find? (name · == key) := by
  apply List.find?_eq_find?_of_perm hperm
  rintro a ⟨ha, hakey⟩ b ⟨hb, hbkey⟩
  have hname : name a = name b := (eq_of_beq hakey).trans (eq_of_beq hbkey).symm
  exact List.inj_on_of_nodup_map hnodup ha hb hname

namespace Entity.Reordered

variable {e e' : Entity} (hsame : e.Reordered e')

include hsame

theorem symm : e'.Reordered e :=
  ⟨hsame.path_eq.symm, hsame.root_eq.symm, hsame.identifier.symm, hsame.fields.symm,
    hsame.associations.symm⟩

theorem valid (hvalid : e.Valid) : e'.Valid := by
  refine ⟨?_, fun name hname => ?_⟩
  · have hperm : e.memberNames.Perm e'.memberNames :=
      (hsame.fields.map _).append (hsame.associations.map _)
    exact hperm.nodup_iff.mp hvalid.nodup
  · obtain ⟨f, hf, hfname⟩ := hvalid.identifier_field name (hsame.identifier.mem_iff.mpr hname)
    exact ⟨f, hsame.fields.mem_iff.mp hf, hfname⟩

theorem rootPath_eq : e.rootPath = e'.rootPath :=
  rootPath_congr hsame.path_eq hsame.root_eq

theorem isIdentity_eq (name : String) : e.isIdentity name = e'.isIdentity name := by
  rw [isIdentity, isIdentity, Bool.eq_iff_iff, beq_iff_eq, beq_iff_eq]
  constructor
  · intro hsingle
    exact List.perm_singleton.mp (hsingle ▸ hsame.identifier.symm)
  · intro hsingle
    exact List.perm_singleton.mp (hsingle ▸ hsame.identifier)

theorem identity_eq : e.identity = e'.identity := by
  have hperm := hsame.identifier
  have hlength := hperm.length_eq
  unfold identity
  rw [hsame.path_eq]
  generalize e.identifier = names, e'.identifier = names' at hperm hlength ⊢
  match names, names' with
  | [], [] => rfl
  | [name], [name'] =>
    rw [List.singleton_perm_singleton.mp hperm]
  | _ :: _ :: _, _ :: _ :: _ => rfl

theorem tokens_eq (f : Field) : e.tokens f = e'.tokens f := by
  simp only [tokens, hsame.isIdentity_eq, hsame.rootPath_eq]

theorem alike (hvalid : e.Valid) : e.Alike e' := by
  obtain ⟨hfields, hassociations, -⟩ := List.nodup_append.mp hvalid.nodup
  refine ⟨hsame.path_eq, hsame.rootPath_eq, hsame.identity_eq, fun name => ?_, fun name => ?_⟩
  · unfold toOne? association?
    rw [find?_name_eq_of_perm hsame.associations hassociations]
  · unfold field?
    rw [find?_name_eq_of_perm hsame.fields hfields, funext hsame.tokens_eq]

end Entity.Reordered

namespace Entity.ReorderedAll

variable {entities entities' : List Entity} (hsame : Entity.ReorderedAll entities entities')

include hsame

theorem symm : Entity.ReorderedAll entities' entities := by
  obtain ⟨_, hperm, hforall⟩ := hsame
  obtain ⟨reordered, hforall, hperm⟩ := List.perm_comp_forall₂ hperm hforall
  exact ⟨reordered, hperm.symm, .flip (hforall.imp fun _ _ hreordered => hreordered.symm)⟩

theorem exists_reordered {e : Entity} (he : e ∈ entities) : ∃ e' ∈ entities', e.Reordered e' := by
  obtain ⟨permuted, hperm, hforall⟩ := hsame
  have hmem := hperm.mem_iff.mp he
  clear hperm he
  induction hforall with
  | nil => cases hmem
  | @cons head head' _ _ hhead _ ih =>
    rcases List.mem_cons.mp hmem with rfl | hmem
    · exact ⟨head', List.mem_cons_self, hhead⟩
    · obtain ⟨e', he', hreordered⟩ := ih hmem
      exact ⟨e', List.mem_cons_of_mem _ he', hreordered⟩

theorem paths_perm : (entities.map (·.path)).Perm (entities'.map (·.path)) := by
  obtain ⟨permuted, hperm, hforall⟩ := hsame
  have hpaths : permuted.map (·.path) = entities'.map (·.path) := by
    clear hperm
    induction hforall with
    | nil => rfl
    | cons hhead _ ih => rw [List.map_cons, List.map_cons, hhead.path_eq, ih]
  exact hpaths ▸ hperm.map _

theorem loadable (hloadable : Schema.Loadable entities) : Schema.Loadable entities' := by
  refine ⟨fun e' he' => ?_, hsame.paths_perm.nodup_iff.mp hloadable.nodup_path,
    fun e' he' a ha => ?_⟩
  · obtain ⟨e, he, hreordered⟩ := hsame.symm.exists_reordered he'
    exact hreordered.symm.valid (hloadable.valid e he)
  · obtain ⟨e, he, hreordered⟩ := hsame.symm.exists_reordered he'
    have htarget := hloadable.target_mem e he a (hreordered.associations.mem_iff.mp ha)
    exact hsame.paths_perm.mem_iff.mp htarget

theorem alike (hloadable : Schema.Loadable entities) {s s' : Schema} (hholds : s.Holds entities)
    (hholds' : s'.Holds entities') : Metadata.Alike s s' := by
  have hnodup := hloadable.nodup_path
  have hnodup' := (hsame.loadable hloadable).nodup_path
  intro path
  change Option.Rel _ (s.find? path) (s'.find? path)
  cases hfound : s.find? path with
  | some e =>
    obtain ⟨he, hpath⟩ := hholds.mem_of_find? hfound
    obtain ⟨e', he', hreordered⟩ := hsame.exists_reordered he
    have hfound' := (hholds'.find?_eq_some_iff hnodup').mpr
      ⟨he', hreordered.path_eq.symm.trans hpath⟩
    rw [hfound']
    exact .some (hreordered.alike (hloadable.valid e he))
  | none =>
    cases hfound' : s'.find? path with
    | none => exact .none
    | some e' =>
      obtain ⟨he', hpath⟩ := hholds'.mem_of_find? hfound'
      obtain ⟨e, he, hreordered⟩ := hsame.symm.exists_reordered he'
      have hpath := hreordered.path_eq.symm.trans hpath
      rw [(hholds.find?_eq_some_iff hnodup).mpr ⟨he, hpath⟩] at hfound
      cases hfound

end Entity.ReorderedAll

/-- Every reordering of a list that loads is loaded too, and no check can tell the schemas apart. -/
theorem reordered_entities_load_alike {entities entities' : List Entity} {s : Schema}
    (hloaded : Schema.ofEntities entities = .ok s)
    (hsame : Entity.ReorderedAll entities entities') :
    ∃ s', Schema.ofEntities entities' = .ok s' ∧
      (forM entities' Schema.register).run.run .empty = (.ok (), s') ∧
      ∀ (parameters : ParameterStore) (infer : Value → TypeToken) (statement : Statement),
        let ctx : Context := ⟨s, parameters, infer⟩
        let ctx' : Context := ⟨s', parameters, infer⟩
        (∀ (m : Type → Type) [Monad m] [LawfulMonad m] (obs : Observer m) (outer : Scope),
          statement.walk ctx obs outer = statement.walk ctx' obs outer) ∧
        ∀ (report : Mismatch → HostM Ruling) (h : Host),
          statement.check ctx report h = statement.check ctx' report h := by
  obtain ⟨hloadable, -⟩ := Schema.ofEntities_eq_ok_iff_loadable.mp hloaded
  obtain ⟨s', hloaded', hregistered⟩ := (hsame.loadable hloadable).exists_ofEntities
  refine ⟨s', hloaded', hregistered, ?_⟩
  intro parameters infer statement ctx ctx'
  have hschema : ctx.schema.Alike ctx'.schema := hsame.alike hloadable
    (Schema.Reached.loaded hloaded).holds (Schema.Reached.loaded hloaded').holds
  have hjudge (c : Comparison) : c.judge ctx = c.judge ctx' := by
    refine Comparison.judge_eq_of_alike hschema (fun name => ?_) c
    change Option.Rel _ (parameters.find? name) (parameters.find? name)
    cases parameters.find? name with
    | none => exact .none
    | some p => exact .some (.refl hschema rfl p)
  refine ⟨fun m _ _ obs outer => ?_, fun report h => ?_⟩
  · exact Statement.walk_eq_of_judge obs fun c _ => hjudge c
  · exact Statement.check_eq_of_judge report (fun c _ => hjudge c) h

def lineOfOrder : Entity where
  path := "Line"
  identifier := ["number", "section"]
  fields := [⟨"number", .column .integer, none⟩, ⟨"section", .column .string, none⟩,
    ⟨"price", .column .float, none⟩]
  associations := [⟨"order", "Order", .toOne⟩, ⟨"next", "Line", .toOne⟩]

def lineReversed : Entity :=
  { lineOfOrder with
    identifier := lineOfOrder.identifier.reverse
    fields := lineOfOrder.fields.reverse
    associations := lineOfOrder.associations.reverse }

theorem reversed_line_reported_alike :
    let statement : Statement := ⟨[⟨"l", "Line"⟩], some (.and [
      .compare (.term (.path ⟨"l", some "price", .state⟩)) .gt (.term (.parameter "flag")),
      .compare (.term (.parameter "flag")) .eq (.term (.path ⟨"l", some "order", .toOne⟩)),
      .compare (.term (.path ⟨"l", some "next", .toOne⟩)) .eq (.term (.parameter "flag"))]), none⟩
    let s := Schema.empty.insert lineOfOrder |>.insert plainOrder
    let s' := Schema.empty.insert plainOrder |>.insert lineReversed
    let parameters : ParameterStore := Parameters.empty.bind ⟨":flag", none, some (.bool true)⟩
    let report := Policy.report (fun _ => pure ()) (.forward (.sink ⟨0⟩))
    let found := statement.check ⟨s', parameters, Value.inferred⟩ report {}
    (Schema.ofEntities [lineOfOrder, plainOrder] = .ok s ∧
        Entity.ReorderedAll [lineOfOrder, plainOrder] [plainOrder, lineReversed]) ∧
      Schema.ofEntities [plainOrder, lineReversed] = .ok s' ∧
      statement.check ⟨s, parameters, Value.inferred⟩ report {} = found ∧
      found.1.1 = .ok (.error (.defect (.schema (.compositeIdentifier "Line")))) ∧
      found.1.2.deliveries = [
        (⟨0⟩, Mismatch.notice ⟨"flag", .column .boolean, [.column .float], "l.price"⟩),
        (⟨0⟩, Mismatch.notice ⟨"flag", .column .boolean,
          [.entity "Order", .column .integer], "l.order"⟩)] := by
  intro statement s s' parameters report found
  have hloaded : Schema.ofEntities [lineOfOrder, plainOrder] = .ok s := rfl
  have hsame : Entity.ReorderedAll [lineOfOrder, plainOrder] [plainOrder, lineReversed] := by
    refine ⟨[plainOrder, lineOfOrder], .swap .., .cons ?_ (.cons ?_ .nil)⟩
    · exact ⟨rfl, rfl, .refl _, .refl _, .refl _⟩
    · exact ⟨rfl, rfl, (List.reverse_perm _).symm, (List.reverse_perm _).symm,
        (List.reverse_perm _).symm⟩
  obtain ⟨_, hloaded', -, halike⟩ := reordered_entities_load_alike hloaded hsame
  obtain rfl : _ = s' := Except.ok.inj (hloaded'.symm.trans rfl)
  refine ⟨⟨hloaded, hsame⟩, hloaded', ?_, rfl, by decide +kernel⟩
  exact (halike parameters Value.inferred statement).2 report {}

end FilterTyping
