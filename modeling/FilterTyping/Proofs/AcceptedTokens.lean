import FilterTyping.Token.Widening
import Mathlib.Logic.Relation

/-!
# Which tokens fit

A token fits where it is expected, and a column also where one is expected that takes it. Each
expected token counts for itself, and it takes one pair of columns to fit, never several in a row.
-/

namespace FilterTyping

/-! ## Pairs of columns -/

namespace Column

/-- The first column takes parameters of the second. -/
def Takes (c d : Column) : Prop :=
  (c, d) ∈ [(asciiString, string), (float, integer), (float, string), (integer, string)]

instance (c d : Column) : Decidable (c.Takes d) :=
  inferInstanceAs (Decidable (_ ∈ _))

def rank : Column → Nat
  | float => 2
  | integer | asciiString => 1
  | _ => 0

theorem Takes.rank_lt {c d : Column} (htakes : c.Takes d) : d.rank < c.rank := by
  simp only [Takes, List.mem_cons, Prod.mk.injEq, List.not_mem_nil, or_false] at htakes
  rcases htakes with ⟨rfl, rfl⟩ | ⟨rfl, rfl⟩ | ⟨rfl, rfl⟩ | ⟨rfl, rfl⟩ <;> decide

theorem rank_lt_of_transGen {c d : Column} (hchain : Relation.TransGen Takes c d) :
    d.rank < c.rank := by
  induction hchain with
  | single htakes => exact htakes.rank_lt
  | tail _ htakes ih => exact Nat.lt_trans htakes.rank_lt ih

end Column

/-! ## Tokens -/

namespace TypeToken

theorem fits_iff_takes {actual : TypeToken} {expected : List TypeToken} :
    actual.fits expected ↔
      actual ∈ expected ∨ ∃ d c, actual = column d ∧ column c ∈ expected ∧ c.Takes d := by
  simp only [fits_iff, Column.mem_accepts_iff, Column.Takes]

theorem column_fits_column_iff {c d : Column} :
    (column d).fits [column c] ↔ d = c ∨ c.Takes d := by
  simp [fits_iff_takes]

theorem fits_mono {actual : TypeToken} {expected other : List TypeToken} (hsub : expected ⊆ other)
    (hfits : actual.fits expected) : actual.fits other := by
  rw [fits_iff_takes] at hfits ⊢
  rcases hfits with hmem | ⟨d, c, hactual, hmem, htakes⟩
  · exact .inl (hsub hmem)
  · exact .inr ⟨d, c, hactual, hsub hmem, htakes⟩

theorem fits_append (actual : TypeToken) (expected other : List TypeToken) :
    actual.fits (expected ++ other) = (actual.fits expected || actual.fits other) := by
  simp only [fits, List.contains_eq_mem, List.mem_append, List.any_append, Bool.decide_or]
  ac_rfl

end TypeToken

/-- A token fits if it is expected, or if an expected column takes it by one of the four pairs. The
pairs do not chain. -/
theorem fits_where_expected_or_taken (actual : TypeToken) (expected : List TypeToken) :
    (actual.fits expected ↔
      actual ∈ expected ∨ ∃ d c, actual = .column d ∧ .column c ∈ expected ∧
        (c, d) ∈ [(.asciiString, .string), (.float, .integer), (.float, .string),
          (.integer, .string)]) ∧
    (∀ other : List TypeToken, (∀ token, token ∈ other ↔ token ∈ expected) →
      actual.fits other = actual.fits expected) ∧
    (∀ other, actual.fits (expected ++ other) = (actual.fits expected || actual.fits other)) ∧
    (∀ other, expected ⊆ other → actual.fits expected → actual.fits other) ∧
    ∀ c d, Relation.TransGen Column.Takes c d →
      ((TypeToken.column d).fits [.column c] ↔ c.Takes d) ∧
        ¬ (TypeToken.column c).fits [.column d] := by
  refine ⟨TypeToken.fits_iff_takes, fun other hsame => ?_, TypeToken.fits_append actual expected,
    fun other hsub => TypeToken.fits_mono hsub, fun c d hchain => ?_⟩
  · rw [Bool.eq_iff_iff]
    exact ⟨TypeToken.fits_mono fun token => (hsame token).mp,
      TypeToken.fits_mono fun token => (hsame token).mpr⟩
  · -- Ranks fall along the pairs, so the ends of the chain differ and it has no way back.
    have hrank := Column.rank_lt_of_transGen hchain
    rw [TypeToken.column_fits_column_iff, TypeToken.column_fits_column_iff]
    constructor
    · refine or_iff_right ?_
      rintro rfl
      exact Nat.lt_irrefl _ hrank
    · rintro (rfl | htakes)
      · exact Nat.lt_irrefl _ hrank
      · exact Nat.lt_asymm hrank htakes.rank_lt

theorem texts_fit_integer_column :
    let expected : List TypeToken := [.entity "string", .column .integer]
    let other := expected.reverse ++ [.entity "string"]
    ((TypeToken.column .string).fits expected ∧ (TypeToken.column .string).fits other ∧
      (TypeToken.column .string).fits (.column .float :: expected)) ∧
    ¬ (TypeToken.builtin (.custom "string")).fits expected ∧
    (Relation.TransGen Column.Takes .float .string ∧ Column.Takes .float .string) ∧
    ¬ (TypeToken.column .float).fits [.column .string] := by
  intro expected other
  obtain ⟨hiff, hsame, -, hmono, hchain⟩ := fits_where_expected_or_taken (.column .string) expected
  have hfits : (TypeToken.column .string).fits expected :=
    hiff.mpr (.inr ⟨.string, .integer, rfl, by decide, by decide⟩)
  have hother : ∀ token, token ∈ other ↔ token ∈ expected := by
    simp [other, expected, or_comm]
  have hfloat : Relation.TransGen Column.Takes .float .string :=
    .tail (.single (by decide : Column.Takes .float .integer)) (by decide)
  refine ⟨⟨hfits, (hsame other hother).trans hfits, hmono _ (List.subset_cons_self _ _) hfits⟩, ?_,
    ⟨hfloat, (hchain _ _ hfloat).1.mp (by decide)⟩, (hchain _ _ hfloat).2⟩
  rw [(fits_where_expected_or_taken (.builtin (.custom "string")) expected).1]
  simp [expected]

end FilterTyping
