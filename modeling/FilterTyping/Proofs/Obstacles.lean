import FilterTyping.Proofs.Identities
import FilterTyping.Proofs.SchemaLoading

/-!
# Obstacles to a judgement

A comparison cannot be judged if its path leads nowhere. The ways in which that can be so are looked
for in a fixed order, and the first that is found tells the kind of the defect.
-/

namespace FilterTyping

/-! ## Obstacles in their order -/

inductive Obstacle where
  | unknownAlias
  | unfitPath
  | unknownEntity
  | unknownField
  | unknownAssociation
  | unknownTarget
  | noIdentity
  deriving DecidableEq, Repr

def Comparison.entity? (s : Schema) (c : Comparison) : Option Entity :=
  (c.scope.entityOf? c.path.qualifier).bind s.find?

namespace Obstacle

def all : List Obstacle :=
  [unknownAlias, unfitPath, unknownEntity, unknownField, unknownAssociation, unknownTarget,
    noIdentity]

def kind : Obstacle → Defect.Kind
  | unknownAlias | unknownEntity | unknownField | unknownAssociation | unknownTarget => .notFound
  | unfitPath => .invariantViolation
  | noIdentity => .unsupported

def origin : Obstacle → Defect.Origin
  | unfitPath => .resolver
  | _ => .schema

/-- The obstacle stands in the way of the comparison, be it the first to do so or not. -/
def Blocks (s : Schema) (c : Comparison) : Obstacle → Prop
  | unknownAlias => ∀ sources ∈ c.scope, ∀ source ∈ sources, source.name ≠ c.path.qualifier
  | unfitPath => c.path.field = none ∨ c.path.kind = .collection
  | unknownEntity => ∃ path ∈ c.scope.entityOf? c.path.qualifier, s.find? path = none
  | unknownField => c.path.kind = .state ∧
    ∃ e ∈ c.entity? s, ∃ name ∈ c.path.field, ∀ f ∈ e.fields, f.name ≠ name
  | unknownAssociation => c.path.kind = .toOne ∧
    ∃ e ∈ c.entity? s, ∃ name ∈ c.path.field, ∀ a ∈ e.associations, a.name = name → a.arity ≠ .toOne
  | unknownTarget => c.path.kind = .toOne ∧
    ∃ e ∈ c.entity? s, ∃ name ∈ c.path.field, ∃ a ∈ e.associations, a.name = name ∧
      a.arity = .toOne ∧ s.find? a.target = none
  | noIdentity => c.path.kind = .toOne ∧
    ∃ e ∈ c.entity? s, ∃ name ∈ c.path.field, ∃ a ∈ e.associations, a.name = name ∧
      a.arity = .toOne ∧ ∃ target ∈ s.find? a.target, target.identifier.length ≠ 1

instance (s : Schema) (c : Comparison) (obstacle : Obstacle) : Decidable (obstacle.Blocks s c) := by
  cases obstacle <;> dsimp only [Blocks] <;> infer_instance

end Obstacle

def Comparison.obstacle? (s : Schema) (c : Comparison) : Option Obstacle :=
  Obstacle.all.find? (·.Blocks s c)

/-! ## What each obstacle comes to -/

theorem Entity.identity_eq_error {e : Entity} (hlength : e.identifier.length ≠ 1) :
    ∃ fault, e.identity = .error fault ∧ fault.kind = .unsupported := by
  unfold identity
  split
  · next hidentifier => simp [hidentifier] at hlength
  · exact ⟨_, rfl, rfl⟩
  · exact ⟨_, rfl, rfl⟩

def Comparison.Fails (s : Schema) (c : Comparison) (obstacle : Obstacle) : Prop :=
  ∃ defect, c.expected s = .error defect ∧ defect.kind = obstacle.kind ∧
    defect.origin = obstacle.origin

namespace Comparison

open Obstacle

variable {s : Schema} {c : Comparison}

theorem exists_alias (hknown : ¬ unknownAlias.Blocks s c) :
    ∃ path, c.scope.entityOf? c.path.qualifier = some path := by
  rw [← Option.ne_none_iff_exists']
  exact fun hnone => hknown (Scope.entityOf?_eq_none_iff.mp hnone)

theorem exists_field (hfit : ¬ unfitPath.Blocks s c) :
    ∃ name, c.path.field = some name ∧ (c.path.kind = .state ∨ c.path.kind = .toOne) := by
  obtain ⟨hfield, hkind⟩ := not_or.mp hfit
  obtain ⟨name, hname⟩ := Option.ne_none_iff_exists'.mp hfield
  refine ⟨name, hname, ?_⟩
  cases hpath : c.path.kind with
  | state => exact .inl rfl
  | toOne => exact .inr rfl
  | collection => exact absurd hpath hkind

theorem exists_alias_of_entity? {e : Entity} (hentity : c.entity? s = some e) :
    ∃ path, c.scope.entityOf? c.path.qualifier = some path ∧ s.find? path = some e :=
  Option.bind_eq_some_iff.mp hentity

section Paths

variable {path name : String} (halias : c.scope.entityOf? c.path.qualifier = some path)
  (hname : c.path.field = some name)

include halias hname

theorem expected_state (hkind : c.path.kind = .state) :
    c.expected s = (Metadata.fieldTokens s path name).mapError .schema := by
  simp [expected, halias, Metadata.expected, hname, hkind]

theorem expected_toOne (hkind : c.path.kind = .toOne) :
    c.expected s = (Metadata.targetTokens s path name).mapError .schema := by
  simp [expected, halias, Metadata.expected, hname, hkind]

end Paths

theorem fails_of_unknownAlias (hblocks : unknownAlias.Blocks s c) : c.Fails s unknownAlias := by
  have halias := Scope.entityOf?_eq_none_iff.mpr hblocks
  exact ⟨.schema (.unknownAlias c.path.qualifier), by simp [expected, halias], rfl, rfl⟩

theorem fails_of_unfitPath (hknown : ¬ unknownAlias.Blocks s c) (hblocks : unfitPath.Blocks s c) :
    c.Fails s unfitPath := by
  obtain ⟨path, halias⟩ := exists_alias hknown
  cases hfield : c.path.field with
  | none => exact ⟨.noField c.path, by simp [expected, halias, Metadata.expected, hfield], rfl, rfl⟩
  | some name =>
    have hkind := hblocks.resolve_left (by simp [hfield])
    refine ⟨.collection c.path, ?_, rfl, rfl⟩
    simp [expected, halias, Metadata.expected, hfield, hkind]

theorem fails_of_unknownEntity (hfit : ¬ unfitPath.Blocks s c)
    (hblocks : unknownEntity.Blocks s c) : c.Fails s unknownEntity := by
  obtain ⟨path, halias, hentity⟩ := hblocks
  obtain ⟨name, hname, hkind⟩ := exists_field hfit
  refine ⟨.schema (.unknownEntity path), ?_, rfl, rfl⟩
  rcases hkind with hkind | hkind
  · simp [expected_state halias hname hkind, Metadata.fieldTokens_lookup, hentity, Except.mapError]
  · simp [expected_toOne halias hname hkind, Metadata.targetTokens_lookup, hentity, Except.mapError]

theorem fails_of_unknownField (hblocks : unknownField.Blocks s c) : c.Fails s unknownField := by
  obtain ⟨hkind, e, hentity, name, hname, hnone⟩ := hblocks
  obtain ⟨path, halias, hfound⟩ := exists_alias_of_entity? hentity
  have hfield : e.field? name = none := by simpa [Entity.field?] using hnone
  refine ⟨.schema (.unknownField path name), ?_, rfl, rfl⟩
  simp [expected_state halias hname hkind, Metadata.fieldTokens_lookup, hfound, hfield,
    Except.mapError]

theorem fails_of_unknownAssociation (hblocks : unknownAssociation.Blocks s c) :
    c.Fails s unknownAssociation := by
  obtain ⟨hkind, e, hentity, name, hname, hnone⟩ := hblocks
  obtain ⟨path, halias, hfound⟩ := exists_alias_of_entity? hentity
  have hone : e.toOne? name = none := by
    rw [Option.eq_none_iff_forall_ne_some]
    intro a ha
    obtain ⟨hmem, haname, harity⟩ := (s.valid hfound).toOne?_eq_some_iff.mp ha
    exact hnone a hmem haname harity
  refine ⟨.schema (.unknownAssociation path name), ?_, rfl, rfl⟩
  simp [expected_toOne halias hname hkind, Metadata.targetTokens_lookup, hfound, hone,
    Except.mapError]

theorem fails_of_unknownTarget (hblocks : unknownTarget.Blocks s c) : c.Fails s unknownTarget := by
  obtain ⟨hkind, e, hentity, name, hname, a, ha, haname, harity, htarget⟩ := hblocks
  obtain ⟨path, halias, hfound⟩ := exists_alias_of_entity? hentity
  have hone := (s.valid hfound).toOne?_eq_some_iff.mpr ⟨ha, haname, harity⟩
  refine ⟨.schema (.unknownEntity a.target), ?_, rfl, rfl⟩
  simp [expected_toOne halias hname hkind, Metadata.targetTokens_lookup, hfound, hone, htarget,
    Except.mapError]

theorem fails_of_noIdentity (hblocks : noIdentity.Blocks s c) : c.Fails s noIdentity := by
  obtain ⟨hkind, e, hentity, name, hname, a, ha, haname, harity, target, htarget, hlength⟩ :=
    hblocks
  obtain ⟨path, halias, hfound⟩ := exists_alias_of_entity? hentity
  have hone := (s.valid hfound).toOne?_eq_some_iff.mpr ⟨ha, haname, harity⟩
  obtain ⟨fault, hidentity, hunsupported⟩ := Entity.identity_eq_error hlength
  refine ⟨.schema fault, ?_, hunsupported, rfl⟩
  simp [expected_toOne halias hname hkind, Metadata.targetTokens_lookup, hfound, hone,
    Option.mem_def.mp htarget, hidentity, Except.mapError]

theorem expected_eq_ok (hfree : ∀ obstacle : Obstacle, ¬ obstacle.Blocks s c) :
    ∃ tokens, c.expected s = .ok tokens := by
  obtain ⟨path, halias⟩ := exists_alias (hfree unknownAlias)
  obtain ⟨name, hname, hkind⟩ := exists_field (hfree unfitPath)
  obtain ⟨e, hfound⟩ : ∃ e, s.find? path = some e := by
    rw [← Option.ne_none_iff_exists']
    exact fun hnone => hfree unknownEntity ⟨path, halias, hnone⟩
  have hentity : c.entity? s = some e := by simp [entity?, halias, hfound]
  rcases hkind with hkind | hkind
  · cases hfield : e.field? name with
    | none =>
      have hnone : ∀ f ∈ e.fields, f.name ≠ name := by simpa [Entity.field?] using hfield
      exact absurd ⟨hkind, e, hentity, name, hname, hnone⟩ (hfree unknownField)
    | some f =>
      have htokens : Metadata.fieldTokens s path name = .ok (e.tokens f) :=
        Metadata.fieldTokens_of_find? hfound hfield
      exact ⟨e.tokens f, by simp [expected_state halias hname hkind, htokens, Except.mapError]⟩
  · have hvalid := s.valid hfound
    cases hone : e.toOne? name with
    | none =>
      refine absurd ⟨hkind, e, hentity, name, hname, ?_⟩ (hfree unknownAssociation)
      intro a ha haname harity
      rw [hvalid.toOne?_eq_some_iff.mpr ⟨ha, haname, harity⟩] at hone
      cases hone
    | some a =>
      obtain ⟨ha, haname, harity⟩ := hvalid.toOne?_eq_some_iff.mp hone
      obtain ⟨target, htarget⟩ : ∃ target, s.find? a.target = some target := by
        rw [← Option.ne_none_iff_exists']
        exact fun hnone =>
          hfree unknownTarget ⟨hkind, e, hentity, name, hname, a, ha, haname, harity, hnone⟩
      have hlength : target.identifier.length = 1 := by
        by_contra hlength
        exact hfree noIdentity
          ⟨hkind, e, hentity, name, hname, a, ha, haname, harity, target, htarget, hlength⟩
      obtain ⟨identity, hidentity⟩ := List.length_eq_one_iff.mp hlength
      obtain ⟨f, -, -, hfield, -⟩ := (s.valid htarget).exists_identity_field hidentity
      have htokens := Schema.targetTokens_of_identity hfound hone htarget hidentity hfield
      exact ⟨target.tokens f, by simp [expected_toOne halias hname hkind, htokens, Except.mapError]⟩

/-! ## Judgements -/

theorem obstacle?_eq_none_iff :
    c.obstacle? s = none ↔ ∀ obstacle : Obstacle, ¬ obstacle.Blocks s c := by
  have hall (obstacle : Obstacle) : obstacle ∈ all := by cases obstacle <;> decide
  simp [obstacle?, hall]

theorem fails_of_obstacle? {obstacle : Obstacle} (hfirst : c.obstacle? s = some obstacle) :
    c.Fails s obstacle := by
  have hblocks : obstacle.Blocks s c := by simpa using List.find?_some hfirst
  cases obstacle with
  | unknownAlias => exact fails_of_unknownAlias hblocks
  | unfitPath =>
    refine fails_of_unfitPath (fun hearlier => ?_) hblocks
    simp [obstacle?, all, hearlier] at hfirst
  | unknownEntity =>
    -- An entity that is missing shows only if the path is fit to be looked up.
    refine fails_of_unknownEntity (fun hearlier => ?_) hblocks
    by_cases halias : unknownAlias.Blocks s c <;> simp [obstacle?, all, halias, hearlier] at hfirst
  | unknownField => exact fails_of_unknownField hblocks
  | unknownAssociation => exact fails_of_unknownAssociation hblocks
  | unknownTarget => exact fails_of_unknownTarget hblocks
  | noIdentity => exact fails_of_noIdentity hblocks

end Comparison

def Observer.settle {m : Type → Type} [Monad m] (obs : Observer m) (mismatch : Mismatch) :
    ExceptT Failure m Unit := do
  match ← ExceptT.lift (obs.report mismatch) with
  | .proceed => pure ()
  | .abort mismatch => throw (.mismatch mismatch)

theorem Comparison.verify_of_incompatible {ctx : Context} {c : Comparison} {mismatch : Mismatch}
    (hjudge : c.judge ctx = .incompatible mismatch) {m : Type → Type} [Monad m]
    (obs : Observer m) : c.verify ctx obs = obs.settle mismatch := by
  rw [verify, hjudge]
  rfl

theorem Schema.not_blocks_unknownTarget {entities : List Entity} {s : Schema}
    (hloaded : ofEntities entities = .ok s) (c : Comparison) :
    ¬ Obstacle.unknownTarget.Blocks s c := by
  rintro ⟨-, e, hentity, -, -, a, ha, -, -, hnone⟩
  obtain ⟨path, -, hfound⟩ := Comparison.exists_alias_of_entity? hentity
  have htarget := dangling?_eq_none_iff.mp (ofEntities_eq_ok_iff.mp hloaded).2 path e hfound a ha
  rw [contains_eq_isSome_find?, hnone] at htarget
  cases htarget

/-- The first obstacle tells the kind and the origin of the defect, and without one there is
none. -/
theorem first_obstacle_tells_defect {s : Schema} {parameters : ParameterStore}
    {infer : Value → TypeToken} (c : Comparison) {actual : TypeToken}
    (hactual : Context.actual? ⟨s, parameters, infer⟩ c.parameter = some actual) :
    let ctx : Context := ⟨s, parameters, infer⟩
    ((∃ defect, c.judge ctx = .defective defect) ↔ ∃ obstacle : Obstacle, obstacle.Blocks s c) ∧
    (∀ obstacle, c.obstacle? s = some obstacle →
      ∃ defect, c.judge ctx = .defective defect ∧ defect.kind = obstacle.kind ∧
        defect.origin = obstacle.origin ∧
        ∀ (m : Type → Type) [Monad m] (obs : Observer m),
          c.verify ctx obs = throw (.defect defect)) ∧
    (c.obstacle? s = none →
      (∀ (m : Type → Type) [Monad m] (obs : Observer m), c.verify ctx obs = pure ()) ∨
      ∃ mismatch, ∀ (m : Type → Type) [Monad m] (obs : Observer m),
        c.verify ctx obs = obs.settle mismatch) ∧
    ∀ entities, Schema.ofEntities entities = .ok s → ¬ Obstacle.unknownTarget.Blocks s c := by
  intro ctx
  have hstopped (obstacle : Obstacle) (hfirst : c.obstacle? s = some obstacle) :
      ∃ defect, c.judge ctx = .defective defect ∧ defect.kind = obstacle.kind ∧
        defect.origin = obstacle.origin := by
    obtain ⟨defect, hexpected, htold⟩ := Comparison.fails_of_obstacle? hfirst
    exact ⟨defect, by simp [Comparison.judge, hactual, ctx, hexpected], htold⟩
  have hfree (hnone : c.obstacle? s = none) :
      c.judge ctx = .compatible ∨ ∃ mismatch, c.judge ctx = .incompatible mismatch := by
    obtain ⟨tokens, hexpected⟩ :=
      Comparison.expected_eq_ok (Comparison.obstacle?_eq_none_iff.mp hnone)
    cases hfits : actual.fits tokens <;> simp [Comparison.judge, hactual, ctx, hexpected, hfits]
  refine ⟨⟨?_, ?_⟩, fun obstacle hfirst => ?_, fun hnone => ?_, fun entities hloaded => ?_⟩
  · rintro ⟨defect, hjudge⟩
    by_contra hblocks
    have hnone := Comparison.obstacle?_eq_none_iff.mpr (not_exists.mp hblocks)
    rcases hfree hnone with hpassed | ⟨mismatch, hflagged⟩
    · simp [hpassed] at hjudge
    · simp [hflagged] at hjudge
  · rintro ⟨obstacle, hblocks⟩
    cases hfirst : c.obstacle? s with
    | none => exact absurd hblocks (Comparison.obstacle?_eq_none_iff.mp hfirst obstacle)
    | some first =>
      obtain ⟨defect, hjudge, -⟩ := hstopped first hfirst
      exact ⟨defect, hjudge⟩
  · obtain ⟨defect, hjudge, hkind, horigin⟩ := hstopped obstacle hfirst
    exact ⟨defect, hjudge, hkind, horigin, fun m _ obs => by simp [Comparison.verify, hjudge]⟩
  · rcases hfree hnone with hpassed | ⟨mismatch, hflagged⟩
    · exact .inl fun m _ obs => by simp [Comparison.verify, hpassed]
    · exact .inr ⟨mismatch, fun m _ obs => Comparison.verify_of_incompatible hflagged obs⟩
  · exact Schema.not_blocks_unknownTarget hloaded c

theorem obstacles_of_line :
    let s := Schema.empty.insert lineOfOrder
    let s' := Schema.empty.insert lineOfOrder |>.insert plainOrder
    let parameters : ParameterStore :=
      Parameters.empty.bind ⟨":flag", some (.column .boolean), none⟩
    let compared (name : String) (field : Option String) (kind : PathKind) : Comparison :=
      ⟨[[⟨"l", "Line"⟩], [⟨"g", "Ghost"⟩]], ⟨name, field, kind⟩, "flag"⟩
    let ends (c : Comparison) (kind : Defect.Kind) (origin : Defect.Origin) : Prop :=
      ∃ defect, c.judge ⟨s, parameters, Value.inferred⟩ = .defective defect ∧
        defect.kind = kind ∧ defect.origin = origin
    Schema.ofEntities [lineOfOrder, plainOrder] = .ok s' ∧
      ends (compared "x" none .collection) .notFound .schema ∧
      ends (compared "g" (some "price") .collection) .invariantViolation .resolver ∧
      ends (compared "g" none .toOne) .invariantViolation .resolver ∧
      ends (compared "g" (some "price") .state) .notFound .schema ∧
      ends (compared "l" (some "order") .state) .notFound .schema ∧
      ends (compared "l" (some "price") .toOne) .notFound .schema ∧
      ends (compared "l" (some "order") .toOne) .notFound .schema ∧
      ends (compared "l" (some "next") .toOne) .unsupported .schema ∧
      ¬ Obstacle.unknownTarget.Blocks s' (compared "l" (some "order") .toOne) := by
  intro s s' parameters compared ends
  have hloaded : Schema.ofEntities [lineOfOrder, plainOrder] = .ok s' := rfl
  have hactual (schema : Schema) :
      Context.actual? ⟨schema, parameters, Value.inferred⟩ "flag" = some (.column .boolean) := rfl
  have hends {name : String} {field : Option String} {kind : PathKind} (obstacle : Obstacle)
      (hfirst : (compared name field kind).obstacle? s = some obstacle) :
      ends (compared name field kind) obstacle.kind obstacle.origin := by
    obtain ⟨-, hstopped, -⟩ := first_obstacle_tells_defect (compared name field kind) (hactual s)
    obtain ⟨defect, hjudge, hkind, horigin, -⟩ := hstopped obstacle hfirst
    exact ⟨defect, hjudge, hkind, horigin⟩
  refine ⟨hloaded, hends .unknownAlias ?_, hends .unfitPath ?_, hends .unfitPath ?_,
    hends .unknownEntity ?_, hends .unknownField ?_, hends .unknownAssociation ?_,
    hends .unknownTarget ?_, hends .noIdentity ?_, ?known⟩
  case known =>
    obtain ⟨-, -, -, hknown⟩ := first_obstacle_tells_defect
      (compared "l" (some "order") .toOne) (hactual s')
    exact hknown _ hloaded
  all_goals decide +kernel

end FilterTyping
