import FilterTyping.Proofs.FieldVerdicts

/-!
# Identities of entities

An association to one entity takes what the identifier of that entity takes, and the first of it is
the entity itself, by its root. An object of the host passes there just if it has the same root.
-/

namespace FilterTyping

/-! ## Paths that stand for an entity -/

namespace Schema

/-- The path names the one identifier of `e`, or an association to `e`. -/
inductive StandsFor (s : Schema) (e : Entity) : String → FieldPath → Prop
  | identifier {name identity : String} (hidentity : e.identifier = [identity]) :
    StandsFor s e e.path ⟨name, some identity, .state⟩
  | association {name path : String} {owner : Entity} {a : Association}
    (howner : s.find? path = some owner) (ha : a ∈ owner.associations) (harity : a.arity = .toOne)
    (htarget : a.target = e.path) : StandsFor s e path ⟨name, some a.name, .toOne⟩

variable {s : Schema}

-- The second look-up of the target finds it again, with a field for its identifier.
theorem targetTokens_of_identity {path name : String} {owner target : Entity} {a : Association}
    {identity : String} {f : Field} (howner : s.find? path = some owner)
    (hname : owner.toOne? name = some a) (htarget : s.find? a.target = some target)
    (hidentity : target.identifier = [identity]) (hfield : target.field? identity = some f) :
    Metadata.targetTokens s path name = .ok (target.tokens f) := by
  have hsingle : target.identity = .ok identity := by simp [Entity.identity, hidentity]
  simp only [Metadata.targetTokens_lookup, howner, hname, htarget, hsingle]
  exact Metadata.fieldTokens_of_find? (s.path_eq htarget ▸ htarget) hfield

theorem StandsFor.expected_eq {e : Entity} {path : String} {p : FieldPath}
    (hstands : s.StandsFor e path p) (hentity : s.find? e.path = some e) {identity : String}
    (hidentity : e.identifier = [identity]) {f : Field} (hfield : e.field? identity = some f) :
    Metadata.expected s path p = .ok (e.tokens f) := by
  cases hstands with
  | identifier hother =>
    obtain rfl := List.singleton_inj.mp (hother.symm.trans hidentity)
    have htokens : Metadata.fieldTokens s e.path _ = .ok (e.tokens f) :=
      Metadata.fieldTokens_of_find? hentity hfield
    simp [Metadata.expected, htokens, Except.mapError]
  | association howner ha harity htarget =>
    have hone := (s.valid howner).toOne?_eq_some_iff.mpr ⟨ha, rfl, harity⟩
    have htokens := targetTokens_of_identity howner hone (htarget ▸ hentity) hidentity hfield
    simp [Metadata.expected, htokens, Except.mapError]

end Schema

/-! ## Associations -/

theorem Entity.tokens_of_isIdentity {e : Entity} {f : Field} (hidentity : e.isIdentity f.name) :
    e.tokens f = .entity e.rootPath
      :: (f.enumeration.toList.map .enumeration ++ [.builtin f.column.canonical]) := by
  simp [tokens_eq, hidentity]

/-- An association takes what the identifier of its target takes, if the target has a single one. -/
theorem association_takes_what_identifier_takes (s : Schema) :
    (∀ (path : String) (owner : Entity), s.find? path = some owner →
      ∀ a ∈ owner.associations, a.arity = .toOne →
      ∀ (target : Entity) (identity : String), s.find? a.target = some target →
        target.identifier = [identity] →
        ∃ f ∈ target.fields, f.name = identity ∧ ∃ tokens,
          (∀ name, Metadata.expected s path ⟨name, some a.name, .toOne⟩ = .ok tokens) ∧
          (∀ name, Metadata.expected s target.path ⟨name, some identity, .state⟩ = .ok tokens) ∧
          tokens.head? = some (.entity target.rootPath) ∧
          tokens.getLast? = some (TypeToken.builtin f.column).canonical ∧
          ∀ root, .entity root ∈ tokens ↔ root = target.rootPath) ∧
    ∀ (path name : String) (target : Entity) (identity : String),
      Metadata.target s path name = .ok (target, identity) →
        ∃ tokens, Metadata.fieldTokens s target.path identity = .ok tokens ∧
          Metadata.targetTokens s path name = .ok tokens := by
  refine ⟨fun path owner howner a ha harity target identity htarget hidentity => ?_,
    fun path name target identity hfound => ?_⟩
  · have hpath := s.path_eq htarget
    obtain ⟨f, hf, hname, hfield, hisIdentity⟩ := (s.valid htarget).exists_identity_field hidentity
    have hexpected (path : String) (p : FieldPath) (hstands : s.StandsFor target path p) :=
      hstands.expected_eq (hpath ▸ htarget) hidentity hfield
    refine ⟨f, hf, hname, target.tokens f, fun _ => ?_, fun _ => ?_, ?_, ?_, fun root => ?_⟩
    · exact hexpected _ _ (.association howner ha harity hpath.symm)
    · exact hexpected _ _ (.identifier hidentity)
    · rw [Entity.tokens_of_isIdentity hisIdentity, List.head?_cons]
    · rw [Entity.tokens_eq, List.getLast?_concat]
      rfl
    · simp [Entity.mem_tokens_iff, hisIdentity]
  · obtain ⟨owner, a, howner, hone, htarget, hidentity⟩ := Metadata.target_eq_ok_iff.mp hfound
    obtain ⟨f, -, -, hfield, -⟩ := (s.valid htarget).exists_identity_field hidentity
    exact ⟨target.tokens f,
      Metadata.fieldTokens_of_find? (s.path_eq htarget ▸ htarget) hfield,
      Schema.targetTokens_of_identity howner hone htarget hidentity hfield⟩

def lineOfItem : Entity where
  path := "Line"
  identifier := ["number"]
  fields := [⟨"number", .column .integer, none⟩]
  associations := [⟨"item", "Item", .toOne⟩, ⟨"next", "Line", .toOne⟩]

def itemBySize : Entity where
  path := "Item"
  identifier := ["code", "size"]
  fields := [⟨"code", .column .text, none⟩, ⟨"size", .column .integer, none⟩]

def itemByCode : Entity where
  path := "Item"
  root := some "Product"
  identifier := ["code"]
  fields := [⟨"code", .column .text, some "Code"⟩]

theorem line_takes_replaced_item :
    let s := Schema.empty.insert lineOfItem |>.insert itemBySize |>.insert itemByCode
    let takes (path name : String) (kind : PathKind) (tokens : List TypeToken) : Prop :=
      Metadata.expected s path ⟨"x", some name, kind⟩ = .ok tokens
    takes "Line" "item" .toOne [.entity "Product", .enumeration "Code", .column .string] ∧
      takes "Item" "code" .state [.entity "Product", .enumeration "Code", .column .string] ∧
      takes "Line" "next" .toOne [.entity "Line", .column .integer] ∧
      takes "Line" "number" .state [.entity "Line", .column .integer] := by
  intro s takes
  have hline : s.find? "Line" = some lineOfItem := rfl
  have hitem : s.find? "Item" = some itemByCode := rfl
  have hassociations := (association_takes_what_identifier_takes s).1 "Line" _ hline
  -- The tokens of the association are evaluated, and those of the identifier come from the theorem.
  have hpair {name target identity : String} {e : Entity} {tokens : List TypeToken}
      (ha : ⟨name, target, .toOne⟩ ∈ lineOfItem.associations) (htarget : s.find? target = some e)
      (hidentity : e.identifier = [identity]) (htakes : takes "Line" name .toOne tokens) :
      takes e.path identity .state tokens := by
    obtain ⟨-, -, -, other, hone, hstate, -⟩ := hassociations _ ha rfl e identity htarget hidentity
    obtain rfl := Except.ok.inj ((hone "x").symm.trans htakes)
    exact hstate "x"
  have htakesItem : takes "Line" "item" .toOne
      [.entity "Product", .enumeration "Code", .column .string] := rfl
  have htakesNext : takes "Line" "next" .toOne [.entity "Line", .column .integer] := rfl
  exact ⟨htakesItem, hpair (by simp [lineOfItem]) hitem rfl htakesItem, htakesNext,
    hpair (by simp [lineOfItem]) hline rfl htakesNext⟩

/-! ## Objects -/

/-- The comparison is flagged just if `P` holds, and else it passes. -/
structure Comparison.FlaggedIff (ctx : Context) (c : Comparison) (P : Prop) : Prop where
  flagged_iff : c.Flagged ctx ↔ P
  compatible_iff : c.judge ctx = .compatible ↔ ¬ P
  told_iff (statement : Statement) (hcomparisons : statement.comparisons [] = [c])
    (react : Sink → HostM Unit) (recipient : Recipient)
    (hreturns : ∀ sink, recipient = .sink sink → ∀ h, ∃ h', (react sink).run.run h = (.ok (), h'))
    (h : Host) : ∃ told, statement.Forwards ctx react recipient h (.ok ()) told ∧ (told ≠ [] ↔ P)

theorem Comparison.flaggedIff_of_fits {ctx : Context} {c : Comparison} {actual : TypeToken}
    {expected : List TypeToken} (hactual : ctx.actual? c.parameter = some actual)
    (hexpected : c.expected ctx.schema = .ok expected) {P : Prop}
    (hfits : ¬ actual.fits expected ↔ P) : c.FlaggedIff ctx P := by
  have hflagged : c.Flagged ctx ↔ P := by
    rw [Comparison.flagged_iff hexpected, hactual, ← hfits]
    simp
  refine ⟨hflagged, ?_, fun statement hcomparisons react recipient hreturns h => ?_⟩
  · simp [judge, hactual, hexpected, ← hfits]
  · rw [← hflagged]
    exact Statement.forwards_flagged hcomparisons hexpected hreturns h

/-- An object passes for an entity just if the two have the same root, and at no other field. -/
theorem object_passes_where_root_is_shared {s : Schema} {parameters : ParameterStore}
    {parameter : String} {p : Parameter}
    (hbound : parameters.find? parameter = some p) (hdeclared : p.declared = none)
    {className : String} (hvalue : p.value = some (.object className)) {object : Entity}
    (hclass : s.find? (ClassName.unproxied className) = some object) (infer : Value → TypeToken) :
    let ctx : Context := ⟨s, parameters, infer⟩
    (∀ (e : Entity) (identity : String), s.find? e.path = some e → e.identifier = [identity] →
      ∀ (scope : Scope) (path : String) (place : FieldPath),
        scope.entityOf? place.qualifier = some path → s.StandsFor e path place →
        let c : Comparison := ⟨scope, place, parameter⟩
        c.FlaggedIff ctx (e.rootPath ≠ object.rootPath) ∧
          (ClassName.unproxied className = e.path → c.judge ctx = .compatible)) ∧
    ∀ (scope : Scope) (name path : String) (e : Entity) (f : Field),
      scope.entityOf? name = some path → s.find? path = some e → f ∈ e.fields →
      e.identifier ≠ [f.name] →
      Comparison.FlaggedIff ctx ⟨scope, ⟨name, some f.name, .state⟩, parameter⟩ True := by
  intro ctx
  have hactual : ctx.actual? parameter = some (.entity object.rootPath) := by
    rw [Context.actual?_of_value hbound hdeclared hvalue]
    simp [ctx, Context.valueToken?_object, Metadata.ofClass?, hclass]
  refine ⟨fun e identity hentity hidentity scope path place halias hstands => ?_,
    fun scope name path e f halias hentity hf hother => ?_⟩
  · intro c
    obtain ⟨f, -, -, hfield, hisIdentity⟩ := (s.valid hentity).exists_identity_field hidentity
    have hexpected : c.expected s = .ok (e.tokens f) := by
      simp only [c, Comparison.expected, halias]
      exact hstands.expected_eq hentity hidentity hfield
    have hflagged : c.FlaggedIff ctx (e.rootPath ≠ object.rootPath) := by
      refine Comparison.flaggedIff_of_fits hactual hexpected ?_
      simp [Entity.entity_fits_tokens_iff, hisIdentity, @eq_comm _ e.rootPath]
    refine ⟨hflagged, fun hsame => hflagged.compatible_iff.mpr ?_⟩
    rw [hsame, hentity] at hclass
    simp [Option.some.inj hclass]
  · have hfield := (s.valid hentity).field?_eq_some hf
    refine Comparison.flaggedIff_of_fits hactual
      (Comparison.expected_field halias hentity hfield) ?_
    simp [Entity.entity_fits_tokens_iff, Entity.isIdentity, hother]

def company : Entity where
  path := "Company"
  root := some "Party"
  identifier := ["number"]
  fields := [⟨"number", .column .guid, none⟩]

def personOfCompany : Entity where
  path := "Person"
  root := some "Party"
  identifier := ["id"]
  fields := [⟨"id", .column .integer, none⟩, ⟨"name", .column .string, none⟩]
  associations := [⟨"employer", "Company", .toOne⟩]

def orderOfPerson : Entity where
  path := "Order"
  identifier := ["id"]
  fields := [⟨"id", .column .integer, none⟩]
  associations := [⟨"customer", "Person", .toOne⟩]

theorem company_passes_for_person :
    let s := Schema.empty.insert company |>.insert personOfCompany |>.insert orderOfPerson
    let className := "proxies::__CG__::Company"
    let parameters : ParameterStore :=
      Parameters.empty.bind ⟨":who", none, some (.object className)⟩
    let ctx : Context := ⟨s, parameters, Value.inferred⟩
    let compared (name field : String) (kind : PathKind) : Comparison :=
      ⟨[[⟨"o", "Order"⟩], [⟨"p", "Person"⟩]], ⟨name, some field, kind⟩, "who"⟩
    (s.find? (ClassName.unproxied className) = some company ∧
        parameters.find? "who" = some ⟨"who", none, some (.object className)⟩) ∧
      ((compared "p" "id" .state).judge ctx = .compatible ∧
        (compared "o" "customer" .toOne).judge ctx = .compatible ∧
        (compared "p" "employer" .toOne).judge ctx = .compatible) ∧
      (compared "o" "id" .state).Flagged ctx ∧ (compared "p" "name" .state).Flagged ctx := by
  intro s className parameters ctx compared
  have hclass : s.find? (ClassName.unproxied className) = some company := by decide +kernel
  have hbound : parameters.find? "who" = some ⟨"who", none, some (.object className)⟩ :=
    (Parameters.find?_bind ..).trans (if_pos (by decide +kernel))
  have hperson : s.find? "Person" = some personOfCompany := rfl
  have horder : s.find? "Order" = some orderOfPerson := rfl
  obtain ⟨hidentities, hfields⟩ :=
    object_passes_where_root_is_shared hbound rfl rfl hclass Value.inferred
  have hroots : ¬ personOfCompany.rootPath ≠ company.rootPath := by decide
  refine ⟨⟨hclass, hbound⟩, ⟨?_, ?_, ?_⟩, ?_, ?_⟩
  · exact (hidentities personOfCompany "id" hperson rfl _ _ _ rfl
      (.identifier rfl)).1.compatible_iff.mpr hroots
  · exact (hidentities personOfCompany "id" hperson rfl _ _ ⟨"o", some "customer", .toOne⟩ rfl
      (.association horder List.mem_cons_self rfl rfl)).1.compatible_iff.mpr hroots
  · exact (hidentities company "number" rfl rfl _ _ ⟨"p", some "employer", .toOne⟩ rfl
      (.association hperson List.mem_cons_self rfl rfl)).2 (by decide +kernel)
  · exact (hidentities orderOfPerson "id" horder rfl _ _ _ rfl
      (.identifier rfl)).1.flagged_iff.mpr (by decide)
  · exact (hfields _ "p" "Person" personOfCompany ⟨"name", .column .string, none⟩ rfl hperson
      (by decide) (by decide)).flagged_iff.mpr trivial

end FilterTyping
