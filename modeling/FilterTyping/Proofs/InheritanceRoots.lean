import FilterTyping.Proofs.HostInference
import FilterTyping.Proofs.Identities
import FilterTyping.Proofs.SchemaLoading

/-!
# Roots of inheritance

An entity says for itself what its root is, and loading takes its word for it. The root may be no
entity, or have another root in turn. Where it is a root by its own account too, its objects pass
for those of all entities that name it.
-/

namespace FilterTyping

/-! ## Roots -/

/-- The path stands for an entity, and the root of that entity is the path again. -/
def Metadata.IsRoot (md : Metadata) (path : String) : Prop :=
  md.rootOf? path = some path

theorem Metadata.isRoot_iff {md : Metadata} {path : String} :
    md.IsRoot path ↔ ∃ top, md.ofClass? path = some top ∧ top.rootPath = path :=
  Option.map_eq_some_iff

namespace Schema

variable {s : Schema}

theorem isRoot_iff_mem {entities : List Entity} (hloaded : ofEntities entities = .ok s)
    {path : String} :
    Metadata.IsRoot s path ↔
      ∃ top ∈ entities, top.path = ClassName.unproxied path ∧ top.rootPath = path := by
  obtain ⟨hloadable, -⟩ := ofEntities_eq_ok_iff_loadable.mp hloaded
  have hholds := (Reached.loaded hloaded).holds
  simp [Metadata.isRoot_iff, Metadata.ofClass?, hholds.find?_eq_some_iff hloadable.nodup_path,
    and_assoc]

-- A class has no proxy segment left once it stands for an entity, so the entity is found again.
theorem isRoot_of_root_eq_none {className : String} {e : Entity}
    (hclass : Metadata.ofClass? s className = some e) (hroot : e.root = none) :
    Metadata.IsRoot s e.rootPath := by
  have hpath : e.rootPath = ClassName.unproxied className := by
    rw [← s.path_eq hclass]
    simp [Entity.rootPath, hroot]
  refine Metadata.isRoot_iff.mpr ⟨e, ?_, rfl⟩
  rw [hpath, Metadata.ofClass?, ClassName.unproxied_unproxied]
  exact hclass

end Schema

/-! ## Objects of the root -/

theorem Context.valueToken?_of_class {ctx : Context} {className : String} {e : Entity}
    (hclass : ctx.schema.ofClass? className = some e) :
    ctx.valueToken? (.object className) = some (.entity e.rootPath) := by
  simp [valueToken?_object, hclass]

namespace Metadata

/-- Wherever an object of the one class passes, an object of the other does, whatever the host. -/
def PassesFor (md : Metadata) (other className : String) : Prop :=
  ∀ (infer : Value → TypeToken) (c : Comparison) (parameters parameters' : Parameters),
    ParameterStore.Binds parameters c.parameter (.object className) →
    ParameterStore.Binds parameters' c.parameter (.object other) →
    c.judge ⟨md, parameters, infer⟩ = .compatible →
    c.judge ⟨md, parameters', infer⟩ = .compatible

variable {md : Metadata} {className : String} {e : Entity}

theorem IsRoot.passesFor (hroot : md.IsRoot e.rootPath) (hclass : md.ofClass? className = some e) :
    md.PassesFor e.rootPath className := by
  obtain ⟨top, htop, htopRoot⟩ := isRoot_iff.mp hroot
  intro infer c parameters parameters' hbinds hbinds' hpasses
  have hactual : Context.actual? ⟨md, parameters, infer⟩ c.parameter =
      Context.actual? ⟨md, parameters', infer⟩ c.parameter := by
    rw [Context.actual?_of_binds hbinds, Context.actual?_of_binds hbinds',
      Context.valueToken?_of_class hclass, Context.valueToken?_of_class htop, htopRoot]
  rw [← hpasses]
  exact (Comparison.judge_congr hactual rfl).symm

theorem exists_other_token {path : String} (hroot : ¬ md.IsRoot path) :
    ∃ infer : Value → TypeToken, ∃ other ≠ path, ∀ parameters,
      Context.valueToken? ⟨md, parameters, infer⟩ (.object path) = some (.entity other) := by
  cases hclass : md.ofClass? path with
  | some top =>
    refine ⟨Value.inferred, top.rootPath, fun hsame => ?_, fun parameters => ?_⟩
    · exact hroot (isRoot_iff.mpr ⟨top, hclass, hsame⟩)
    · exact Context.valueToken?_of_class hclass
  | none =>
    refine ⟨fun _ => .entity (path ++ "_"), path ++ "_", fun hsame => ?_, fun parameters => ?_⟩
    · simpa using congrArg String.length hsame
    · simp [Context.valueToken?_object, hclass, TypeToken.canonical]

end Metadata

namespace Schema

variable {s : Schema} {e : Entity}

theorem compatible_at_identifier_iff (hentity : s.find? e.path = some e) {identity : String}
    (hidentity : e.identifier = [identity]) {scope : Scope} {name : String}
    (halias : scope.entityOf? name = some e.path) {parameters : ParameterStore}
    {infer : Value → TypeToken} {parameter path : String}
    (hactual : Context.actual? ⟨s, parameters, infer⟩ parameter = some (.entity path)) :
    Comparison.judge ⟨s, parameters, infer⟩ ⟨scope, ⟨name, some identity, .state⟩, parameter⟩ =
      .compatible ↔ path = e.rootPath := by
  obtain ⟨f, -, rfl, hfield, hisIdentity⟩ := (s.valid hentity).exists_identity_field hidentity
  have hfits : ¬ (TypeToken.entity path).fits (e.tokens f) ↔ path ≠ e.rootPath := by
    simp [Entity.entity_fits_tokens_iff, hisIdentity]
  have hflagged := Comparison.flaggedIff_of_fits hactual
    (Comparison.expected_field halias hentity hfield) hfits
  rw [hflagged.compatible_iff, ne_eq, not_not]

theorem isRoot_of_passesFor {className : String} (hclass : Metadata.ofClass? s className = some e)
    {identity : String} (hidentity : e.identifier = [identity])
    (hpasses : Metadata.PassesFor s e.rootPath className) : Metadata.IsRoot s e.rootPath := by
  by_contra hroot
  have hentity : s.find? e.path = some e := by
    rw [s.path_eq hclass]
    exact hclass
  obtain ⟨infer, other, hother, htoken⟩ := Metadata.exists_other_token hroot
  let bound (className : String) := Parameters.empty.bind ⟨"x", none, some (.object className)⟩
  have hbinds (className : String) : ParameterStore.Binds (bound className)
      (Parameter.bareName "x") (.object className) := Parameters.binds_bind _ _ _
  have hactual : Context.actual? ⟨s, bound className, infer⟩ (Parameter.bareName "x") =
      some (.entity e.rootPath) := by
    rw [Context.actual?_of_binds (hbinds className), Context.valueToken?_of_class hclass]
  have hactual' : Context.actual? ⟨s, bound e.rootPath, infer⟩ (Parameter.bareName "x") =
      some (.entity other) := by
    rw [Context.actual?_of_binds (hbinds e.rootPath), htoken]
  have halias : Scope.entityOf? [[⟨"x", e.path⟩]] "x" = some e.path := rfl
  have hpassed := hpasses infer _ _ _ (hbinds className) (hbinds e.rootPath)
    ((compatible_at_identifier_iff hentity hidentity halias hactual).mpr rfl)
  exact hother ((compatible_at_identifier_iff hentity hidentity halias hactual').mp hpassed)

end Schema

/-- The root of a class is taken as its entity declares it. If it is a root itself, its objects pass
for those of the class, and the converse needs that they pass under every inference of the host. -/
theorem root_of_class_is_declared {entities : List Entity} {s : Schema}
    (hloaded : Schema.ofEntities entities = .ok s) {className : String} {e : Entity}
    (hclass : Metadata.ofClass? s className = some e) :
    (e ∈ entities ∧ e.path = ClassName.unproxied className ∧
      Metadata.rootOf? s className = some (e.root.getD e.path)) ∧
    (Metadata.IsRoot s e.rootPath ↔
      ∃ top ∈ entities, top.path = ClassName.unproxied e.rootPath ∧ top.rootPath = e.rootPath) ∧
    (e.root = none → Metadata.IsRoot s e.rootPath) ∧
    (Metadata.IsRoot s e.rootPath → Metadata.PassesFor s e.rootPath className) ∧
    ∀ identity, e.identifier = [identity] → Metadata.PassesFor s e.rootPath className →
      Metadata.IsRoot s e.rootPath := by
  obtain ⟨hmem, hpath⟩ := (Schema.Reached.loaded hloaded).holds.mem_of_find? hclass
  refine ⟨⟨hmem, hpath, ?_⟩, Schema.isRoot_iff_mem hloaded, ?_, ?_, ?_⟩
  · rw [Metadata.rootOf?, hclass]
    rfl
  · exact Schema.isRoot_of_root_eq_none hclass
  · intro hroot
    exact hroot.passesFor hclass
  · intro identity hidentity hpasses
    exact Schema.isRoot_of_passesFor hclass hidentity hpasses

def party : Entity where
  path := "Party"
  identifier := ["id"]
  fields := [⟨"id", .column .integer, none⟩]

def companyNumberOf (s : Schema) (className : String) : Judgement :=
  Comparison.judge
    ⟨s, Parameters.empty.bind ⟨":who", none, some (.object className)⟩, Value.inferred⟩
    ⟨[[⟨"c", "Company"⟩]], ⟨"c", some "number", .state⟩, "who"⟩

theorem party_passes_for_company :
    let s := Schema.empty.insert party |>.insert company
    let className := "proxies::__CG__::Company"
    (Schema.ofEntities [party, company] = .ok s ∧
        Metadata.ofClass? s className = some company) ∧
      Metadata.IsRoot s "Party" ∧ Metadata.PassesFor s "Party" className ∧
      companyNumberOf s className = .compatible ∧ companyNumberOf s "Party" = .compatible := by
  intro s className
  have hloaded : Schema.ofEntities [party, company] = .ok s := rfl
  have hclass : Metadata.ofClass? s className = some company := by decide +kernel
  obtain ⟨-, hroot, -, hpasses, -⟩ := root_of_class_is_declared hloaded hclass
  have hparty : Metadata.IsRoot s "Party" := hroot.mpr ⟨party, by simp, by decide +kernel, rfl⟩
  have hbinds (other : String) : ParameterStore.Binds
      (Parameters.empty.bind ⟨":who", none, some (.object other)⟩) "who" (.object other) := by
    have hname : Parameter.bareName ":who" = "who" := by decide +kernel
    exact hname ▸ Parameters.binds_bind .empty ":who" (.object other)
  have hcompany : companyNumberOf s className = .compatible := by decide +kernel
  refine ⟨⟨hloaded, hclass⟩, hparty, hpasses hparty, hcompany, ?_⟩
  exact hpasses hparty Value.inferred _ _ _ (hbinds className) (hbinds "Party") hcompany

theorem party_of_company_is_no_entity :
    let s := Schema.empty.insert company
    Schema.ofEntities [company] = .ok s ∧
      Metadata.rootOf? s "Company" = some "Party" ∧ Metadata.ofClass? s "Party" = none ∧
      ¬ Metadata.IsRoot s "Party" ∧
      companyNumberOf s "Company" = .compatible ∧
      companyNumberOf s "Party" =
        .incompatible ⟨"who", .column .string, [.entity "Party", .column .guid], "c.number"⟩ := by
  intro s
  have hparty : Metadata.ofClass? s "Party" = none := by decide +kernel
  refine ⟨rfl, by decide +kernel, hparty, ?_, by decide +kernel, by decide +kernel⟩
  simp [Metadata.isRoot_iff, hparty]

end FilterTyping
