import FilterTyping.Proofs.Reports
import FilterTyping.Schema.Basic
import Mathlib.Data.List.Nodup
import Mathlib.Logic.Function.Basic

/-!
# What a field makes of a value

The verdict on a field and a bound value, as a table: for every kind of value, the types of a field
that do not take it.
-/

namespace FilterTyping

/-! ## Members by name -/

theorem find?_name_eq_some_iff {α : Type} {name : α → String} {members : List α}
    (hnodup : (members.map name).Nodup) {key : String} {member : α} :
    members.find? (name · == key) = some member ↔ member ∈ members ∧ name member = key := by
  constructor
  · intro hfound
    exact ⟨List.mem_of_find?_eq_some hfound, by simpa using List.find?_some hfound⟩
  · rintro ⟨hmem, rfl⟩
    cases hfound : members.find? (name · == name member) with
    | none =>
      have hother := List.find?_eq_none.mp hfound member hmem
      simp at hother
    | some other =>
      have hother := List.mem_of_find?_eq_some hfound
      have hname : name other = name member := by simpa using List.find?_some hfound
      rw [List.inj_on_of_nodup_map hnodup hother hmem hname]

namespace Entity.Valid

variable {e : Entity} (hvalid : e.Valid)

include hvalid

theorem field?_eq_some {f : Field} (hf : f ∈ e.fields) : e.field? f.name = some f := by
  obtain ⟨hnodup, -, -⟩ := List.nodup_append.mp hvalid.nodup
  exact (find?_name_eq_some_iff hnodup).mpr ⟨hf, rfl⟩

theorem toOne?_eq_some_iff {name : String} {a : Association} :
    e.toOne? name = some a ↔ a ∈ e.associations ∧ a.name = name ∧ a.arity = .toOne := by
  obtain ⟨-, hnodup, -⟩ := List.nodup_append.mp hvalid.nodup
  rw [toOne?, association?, Option.filter_eq_some_iff, find?_name_eq_some_iff hnodup, and_assoc,
    beq_iff_eq]

theorem exists_identity_field {identity : String} (hidentity : e.identifier = [identity]) :
    ∃ f ∈ e.fields, f.name = identity ∧ e.field? identity = some f ∧ e.isIdentity f.name := by
  obtain ⟨f, hf, rfl⟩ := hvalid.identifier_field identity (by simp [hidentity])
  exact ⟨f, hf, rfl, hvalid.field?_eq_some hf, by simp [isIdentity, hidentity]⟩

end Entity.Valid

/-! ## Tokens that fit a field -/

namespace Entity

variable {e : Entity} {f : Field}

theorem column_fits_tokens_iff (d : Column) :
    (TypeToken.column d).fits (e.tokens f) ↔
      ∃ c, f.column.canonical = .column c ∧ (c = d ∨ d ∈ c.accepts) := by
  have hmem (c : Column) : TypeToken.column c ∈ e.tokens f ↔ f.column.canonical = .column c := by
    simp [mem_tokens_iff, @eq_comm _ f.column.canonical]
  simp [TypeToken.fits_iff, hmem, and_or_left, exists_or]

theorem binding_fits_tokens_iff (kind : BindKind) :
    (TypeToken.binding kind).fits (e.tokens f) ↔ f.column.canonical = .binding kind := by
  simp [TypeToken.fits_iff, mem_tokens_iff, @eq_comm _ f.column.canonical]

theorem enumeration_fits_tokens_iff (path : String) :
    (TypeToken.enumeration path).fits (e.tokens f) ↔ f.enumeration = some path := by
  simp [TypeToken.fits_iff, mem_tokens_iff]

theorem entity_fits_tokens_iff (path : String) :
    (TypeToken.entity path).fits (e.tokens f) ↔ e.isIdentity f.name ∧ path = e.rootPath := by
  simp [TypeToken.fits_iff, mem_tokens_iff]

end Entity

/-! ## The table -/

/-- The values that a field does not take, objects left aside. The entity has no say in it. -/
def Field.refuses (f : Field) : Value → Bool
  | .null => false
  | .float _ => f.column.canonical ≠ .column .float
  | .int _ => f.column.canonical ∉ [.column .integer, .column .float]
  | .text _ =>
    f.column.canonical ∉ [.column .string, .column .asciiString, .column .float, .column .integer]
  | .bool _ => f.column.canonical ≠ .column .boolean
  | .date _ => f.column.canonical ≠ .column .dateImmutable
  | .instant _ => f.column.canonical ≠ .column .dateTimeImmutable
  | .list (.int _ :: _) | .list (.enumCase _ (.int _) :: _) =>
    f.column.canonical ≠ .binding .integerArray
  | .list _ => f.column.canonical ≠ .binding .stringArray
  | .enumCase path _ => f.enumeration ≠ some path
  | .object _ => false

theorem Field.refuses_iff_not_fits (f : Field) (e : Entity) {md : Metadata}
    {parameters : ParameterStore} {value : Value} (hobject : ∀ className, value ≠ .object className) {token : TypeToken}
    (htoken : Context.valueToken? ⟨md, parameters, Value.inferred⟩ value = some token) :
    f.refuses value ↔ ¬ token.fits (e.tokens f) := by
  have hcolumn (d : Column) (htoken : .column d = token) : ¬ token.fits (e.tokens f) ↔
      ¬ ∃ c, f.column.canonical = .column c ∧ (c = d ∨ d ∈ c.accepts) := by
    rw [← htoken, Entity.column_fits_tokens_iff]
  have hbinding (kind : BindKind) (htoken : .binding kind = token) :
      ¬ token.fits (e.tokens f) ↔ f.column.canonical ≠ .binding kind := by
    rw [← htoken, Entity.binding_fits_tokens_iff]
  cases value with
  | null => cases htoken
  | float x =>
    rw [hcolumn .float (Option.some.inj htoken)]
    simp [refuses, Column.mem_accepts_iff]
  | int n =>
    rw [hcolumn .integer (Option.some.inj htoken)]
    simp [refuses, Column.mem_accepts_iff, and_or_left, exists_or]
  | text n =>
    rw [hcolumn .string (Option.some.inj htoken)]
    simp [refuses, Column.mem_accepts_iff, and_or_left, exists_or]
  | bool b =>
    rw [hcolumn .boolean (Option.some.inj htoken)]
    simp [refuses, Column.mem_accepts_iff]
  | date d =>
    rw [hcolumn .dateImmutable (Option.some.inj htoken)]
    simp [refuses, Column.mem_accepts_iff]
  | instant i =>
    rw [hcolumn .dateTimeImmutable (Option.some.inj htoken)]
    simp [refuses, Column.mem_accepts_iff]
  | enumCase path backing =>
    obtain rfl : .enumeration path = token := Option.some.inj htoken
    simp [refuses, Entity.enumeration_fits_tokens_iff]
  | object className => exact absurd rfl (hobject className)
  | list items =>
    cases items with
    | nil => simp [refuses, hbinding .stringArray (Option.some.inj htoken)]
    | cons first rest =>
      cases first with
      | int n => simp [refuses, hbinding .integerArray (Option.some.inj htoken)]
      | enumCase path backing =>
        cases backing with
        | int n => simp [refuses, hbinding .integerArray (Option.some.inj htoken)]
        | _ => simp [refuses, hbinding .stringArray (Option.some.inj htoken)]
      | _ => simp [refuses, hbinding .stringArray (Option.some.inj htoken)]

/-! ## Verdicts -/

theorem Statement.forwards_flagged {ctx : Context} {statement : Statement} {c : Comparison}
    (hcomparisons : statement.comparisons [] = [c]) {expected : List TypeToken}
    (hexpected : c.expected ctx.schema = .ok expected) {react : Sink → HostM Unit}
    {recipient : Recipient} (hreturns : ∀ sink, recipient = .sink sink →
      ∀ h, ∃ h', (react sink).run.run h = (.ok (), h')) (h : Host) :
    ∃ told, statement.Forwards ctx react recipient h (.ok ()) told ∧
      (told ≠ [] ↔ c.Flagged ctx) := by
  have hforwards := Statement.forwards_findings ctx statement hreturns h
  have hverdict : Comparison.verdict ctx [c] = .ok () := by
    rw [Comparison.verdict_eq_ok_iff]
    intro c' hc' defect
    rw [List.mem_singleton.mp hc']
    exact c.judge_ne_defective hexpected defect
  rw [hcomparisons, hverdict] at hforwards
  refine ⟨_, hforwards, ?_⟩
  unfold Comparison.Flagged
  cases hjudge : c.judge ctx <;> simp [Comparison.mismatches, hjudge]

section Table

variable {md : Metadata} {scope : Scope} {name path : String} {e : Entity} {f : Field}
  {parameters : ParameterStore} {parameter : String} {p : Parameter} {value : Value}
  (halias : scope.entityOf? name = some path) (hentity : md.find? path = some e)
  (hfield : e.field? f.name = some f) (hbound : parameters.find? parameter = some p)
  (hdeclared : p.declared = none) (hvalue : p.value = some value)

include halias hentity hfield

theorem Comparison.expected_field :
    Comparison.expected md ⟨scope, ⟨name, some f.name, .state⟩, parameter⟩ = .ok (e.tokens f) := by
  simp [expected, halias, Metadata.expected, Metadata.fieldTokens_of_find? hentity hfield,
    Except.mapError]

include hbound hdeclared hvalue

theorem Comparison.flagged_iff_refuses (hobject : ∀ className, value ≠ .object className) :
    Comparison.Flagged ⟨md, parameters, Value.inferred⟩
        ⟨scope, ⟨name, some f.name, .state⟩, parameter⟩ ↔ f.refuses value := by
  rw [flagged_iff (expected_field halias hentity hfield),
    Context.actual?_of_value hbound hdeclared hvalue]
  cases htoken : Context.valueToken? ⟨md, parameters, Value.inferred⟩ value with
  | none =>
    obtain rfl := (Context.valueToken?_eq_none_iff _ _).mp htoken
    simp [Field.refuses]
  | some token => simp [f.refuses_iff_not_fits e hobject htoken]

end Table

/-- What a field flags is what it refuses, and the identifier of its entity has no part in it. -/
theorem field_flags_the_values_it_refuses {s : Schema} {scope : Scope} {name path : String}
    (halias : scope.entityOf? name = some path) {e : Entity} (hentity : s.find? path = some e)
    {f : Field} (hf : f ∈ e.fields) {parameters : ParameterStore} {parameter : String}
    {p : Parameter} (hbound : parameters.find? parameter = some p) (hdeclared : p.declared = none)
    {value : Value} (hvalue : p.value = some value)
    (hobject : ∀ className, value ≠ .object className) :
    let c : Comparison := ⟨scope, ⟨name, some f.name, .state⟩, parameter⟩
    let flagged (md : Metadata) : Prop := c.Flagged ⟨md, parameters, Value.inferred⟩
    (flagged s ↔ f.refuses value) ∧
      (∀ identifier, flagged ⟨Function.update s.find? path (some { e with identifier })⟩ ↔
        flagged s) ∧
      ∀ statement : Statement, statement.comparisons [] = [c] →
        ∀ (react : Sink → HostM Unit) (recipient : Recipient),
          (∀ sink, recipient = .sink sink → ∀ h, ∃ h', (react sink).run.run h = (.ok (), h')) →
          ∀ h, ∃ told,
            statement.Forwards ⟨s, parameters, Value.inferred⟩ react recipient h (.ok ()) told ∧
              (told ≠ [] ↔ flagged s) := by
  intro c flagged
  have hfield : e.field? f.name = some f := (s.valid hentity).field?_eq_some hf
  have hflagged : flagged s ↔ f.refuses value :=
    Comparison.flagged_iff_refuses halias hentity hfield hbound hdeclared hvalue hobject
  refine ⟨hflagged, fun identifier => ?_, fun statement hcomparisons react recipient hreturns => ?_⟩
  · -- The other identifier leaves the fields, and with them the table, as they were.
    rw [hflagged]
    exact Comparison.flagged_iff_refuses halias (Function.update_self ..) hfield hbound hdeclared
      hvalue hobject
  · exact Statement.forwards_flagged hcomparisons
      (Comparison.expected_field halias hentity hfield) hreturns

theorem nested_case_refused_at_identifier :
    let id : Field := ⟨"id", .column .integer, none⟩
    let tags : Field := ⟨"tags", .binding .stringArray, none⟩
    let order : Entity := { path := "Order", identifier := ["id"], fields := [id, tags] }
    let s := Schema.empty.insert order
    let scope : Scope := [[⟨"o", "Order"⟩]]
    let value : Value := .list [.enumCase "Level" (.enumCase "Depth" (.int 3)), .int 4]
    let parameters : ParameterStore := Parameters.empty.bind ⟨":tags", none, some value⟩
    let ctx : Context := ⟨s, parameters, Value.inferred⟩
    let comparison (f : Field) : Comparison := ⟨scope, ⟨"o", some f.name, .state⟩, "tags"⟩
    let statement : Statement := ⟨[⟨"o", "Order"⟩], some
      (.compare (.term (.parameter "tags")) .eq (.term (.path ⟨"o", some "id", .state⟩))), none⟩
    (scope.entityOf? "o" = some "Order" ∧ s.find? "Order" = some order ∧
        parameters.find? "tags" = some ⟨"tags", none, some value⟩ ∧
        statement.comparisons [] = [comparison id]) ∧
      ¬ (comparison tags).Flagged ctx ∧ (comparison id).Flagged ctx ∧
      ∃ told, statement.Forwards ctx (fun _ => pure ()) (.sink ⟨0⟩) {} (.ok ()) told ∧
        told ≠ [] := by
  intro id tags order s scope value parameters ctx comparison statement
  have halias : scope.entityOf? "o" = some "Order" := rfl
  have hentity : s.find? "Order" = some order := by simp [s, order, Schema.find?_insert]
  have hbound : parameters.find? "tags" = some ⟨"tags", none, some value⟩ :=
    (Parameters.find?_bind ..).trans (if_pos (by decide +kernel))
  have hcomparisons : statement.comparisons [] = [comparison id] := rfl
  have hobject (className : String) : value ≠ .object className := by simp [value]
  have htable (f : Field) (hf : f ∈ order.fields) := field_flags_the_values_it_refuses halias
    hentity hf hbound rfl rfl hobject
  have hflagged : (comparison id).Flagged ctx := (htable id (by simp [order])).1.mpr rfl
  have hfits : ¬ (comparison tags).Flagged ctx := fun hflagged =>
    absurd ((htable tags (by simp [order])).1.mp hflagged) (by decide)
  obtain ⟨told, hforwards, htold⟩ := (htable id (by simp [order])).2.2 statement hcomparisons
    (fun _ => pure ()) (.sink ⟨0⟩) (fun _ _ h => ⟨h, rfl⟩) {}
  exact ⟨⟨halias, hentity, hbound, hcomparisons⟩, hfits, hflagged, told, hforwards,
    htold.mpr hflagged⟩

end FilterTyping
