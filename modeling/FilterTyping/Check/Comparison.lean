import FilterTyping.Check.Context
import FilterTyping.Schema.Expected
import FilterTyping.Token.Widening

/-!
# Comparisons

A field path compared with a parameter, and the judgement on the pair.
-/

namespace FilterTyping

structure Comparison where
  scope : Scope
  path : FieldPath
  parameter : String
  deriving DecidableEq, Repr

inductive Judgement where
  | unresolved
  | compatible
  | incompatible (mismatch : Mismatch)
  | defective (defect : Defect)
  deriving DecidableEq, Repr

namespace Comparison

def expected (schema : Metadata) (c : Comparison) : Except Defect (List TypeToken) :=
  match c.scope.entityOf? c.path.qualifier with
  | some entity => schema.expected entity c.path
  | none => .error (.schema (.unknownAlias c.path.qualifier))

/-- The parameter comes first: without a type for it the path is not looked at. -/
def judge (ctx : Context) (c : Comparison) : Judgement :=
  match ctx.actual? c.parameter with
  | none => .unresolved
  | some actual =>
    match c.expected ctx.schema with
    | .error defect => .defective defect
    | .ok expected =>
      if actual.fits expected then .compatible
      else .incompatible ⟨c.parameter, actual, expected, c.path.render⟩

theorem judge_eq_unresolved_iff {ctx : Context} {c : Comparison} :
    c.judge ctx = .unresolved ↔ ctx.actual? c.parameter = none := by
  unfold judge
  cases ctx.actual? c.parameter with
  | none => simp
  | some actual =>
    cases c.expected ctx.schema with
    | error defect => simp
    | ok expected => cases hfits : actual.fits expected <;> simp [hfits]

theorem judge_eq_incompatible_iff {ctx : Context} {c : Comparison} {mismatch : Mismatch} :
    c.judge ctx = .incompatible mismatch ↔
      ∃ actual expected, ctx.actual? c.parameter = some actual ∧
        c.expected ctx.schema = .ok expected ∧ actual.fits expected = false ∧
        mismatch = ⟨c.parameter, actual, expected, c.path.render⟩ := by
  unfold judge
  cases ctx.actual? c.parameter with
  | none => simp
  | some actual =>
    cases c.expected ctx.schema with
    | error defect => simp
    | ok expected =>
      cases hfits : actual.fits expected with
      | true => simp [hfits]
      | false => simp [hfits, @eq_comm _ mismatch]

def Flagged (ctx : Context) (c : Comparison) : Prop :=
  ∃ mismatch, c.judge ctx = .incompatible mismatch

theorem flagged_iff {ctx : Context} {c : Comparison} {expected : List TypeToken}
    (hexpected : c.expected ctx.schema = .ok expected) :
    c.Flagged ctx ↔
      ∃ actual, ctx.actual? c.parameter = some actual ∧ ¬ actual.fits expected := by
  simp only [Flagged, judge_eq_incompatible_iff, hexpected, Except.ok.injEq, Bool.not_eq_true]
  constructor
  · rintro ⟨_, actual, _, hactual, rfl, hfits, -⟩
    exact ⟨actual, hactual, hfits⟩
  · rintro ⟨actual, hactual, hfits⟩
    exact ⟨_, actual, expected, hactual, rfl, hfits, rfl⟩

theorem judge_ne_defective {ctx : Context} {c : Comparison} {expected : List TypeToken}
    (hexpected : c.expected ctx.schema = .ok expected) (defect : Defect) :
    c.judge ctx ≠ .defective defect := by
  unfold judge
  rw [hexpected]
  cases ctx.actual? c.parameter with
  | none => simp
  | some actual => cases hfits : actual.fits expected <;> simp [hfits]

theorem judge_congr {ctx ctx' : Context} {c : Comparison}
    (hactual : ctx.actual? c.parameter = ctx'.actual? c.parameter)
    (hexpected : c.expected ctx.schema = c.expected ctx'.schema) :
    c.judge ctx = c.judge ctx' := by
  unfold judge
  rw [hactual, hexpected]

end Comparison

end FilterTyping
