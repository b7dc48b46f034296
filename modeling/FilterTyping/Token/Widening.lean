import FilterTyping.Token.Basic

/-!
# Widening

Some columns take parameters of another column type too. `TypeToken.fits` decides whether a
parameter's token is good for a field that expects one of several tokens.
-/

namespace FilterTyping

/-- Each column that takes more than its own type, with the other types it takes. -/
def Column.widenings : List (Column × List Column) :=
  [(.asciiString, [.string]), (.float, [.integer, .string]), (.integer, [.string])]

def Column.accepts (c : Column) : List Column :=
  (widenings.lookup c).getD []

theorem Column.mem_accepts_iff {c d : Column} :
    d ∈ c.accepts ↔ (c, d) ∈
      [(asciiString, string), (float, integer), (float, string), (integer, string)] := by
  cases c with
  | asciiString | integer =>
    change d ∈ [string] ↔ _
    simp
  | float =>
    change d ∈ [integer, string] ↔ _
    simp
  | _ =>
    change d ∈ [] ↔ _
    simp

def TypeToken.widensTo (actual expected : TypeToken) : Bool :=
  match actual.column?, expected.column? with
  | some d, some c => c.accepts.contains d
  | _, _ => false

/-- The token is expected as it stands, or some expected column takes it. -/
def TypeToken.fits (actual : TypeToken) (expected : List TypeToken) : Bool :=
  expected.contains actual || expected.any actual.widensTo

theorem TypeToken.widensTo_iff {actual expected : TypeToken} :
    actual.widensTo expected ↔ ∃ d c, actual = column d ∧ expected = column c ∧ d ∈ c.accepts := by
  rcases actual with (_ | _ | _) | _ | _ <;> rcases expected with (_ | _ | _) | _ | _ <;>
    simp [widensTo, column?]

theorem TypeToken.fits_iff {actual : TypeToken} {expected : List TypeToken} :
    actual.fits expected ↔
      actual ∈ expected ∨ ∃ d c, actual = column d ∧ column c ∈ expected ∧ d ∈ c.accepts := by
  simp only [fits, Bool.or_eq_true, List.contains_iff_mem, List.any_eq_true, widensTo_iff]
  constructor
  · rintro (hmem | ⟨_, hmem, d, c, hactual, rfl, haccepts⟩)
    · exact .inl hmem
    · exact .inr ⟨d, c, hactual, hmem, haccepts⟩
  · rintro (hmem | ⟨d, c, hactual, hmem, haccepts⟩)
    · exact .inl hmem
    · exact .inr ⟨column c, hmem, d, c, hactual, rfl, haccepts⟩

end FilterTyping
