import FilterTyping.Token.Basic

/-!
# Canonical tokens

Several tokens mean one type: a custom name that spells a known column is that column, and some
columns and ways of binding are spellings of one another. One token of each class is canonical.
-/

namespace FilterTyping

namespace Builtin

def recognize : Builtin → Builtin
  | custom name => named name
  | type => type

/-- Merges the spellings of booleans, integers and strings. -/
def merge : Builtin → Builtin
  | binding .boolean => column .boolean
  | binding .integer => column .integer
  | column .bigint => column .integer
  | binding .string => column .string
  | column .text => column .string
  | type => type

/-- The canonical type of the class. Names are recognized first, so a name may be merged too. -/
def canonical (type : Builtin) : Builtin :=
  type.recognize.merge

@[simp]
theorem canonical_canonical (type : Builtin) : type.canonical.canonical = type.canonical := by
  have hknown (c : Column) : (column c).canonical.canonical = (column c).canonical := by
    cases c <;> rfl
  cases type with
  | column c => exact hknown c
  | binding kind => cases kind <;> rfl
  | custom name =>
    cases hname : Column.ofName? name with
    | some c =>
      have hcolumn : (custom name).canonical = (column c).canonical := by
        simp [canonical, recognize, named, hname]
      rw [hcolumn, hknown]
    | none =>
      have hcustom : (custom name).canonical = custom name := by
        simp [canonical, recognize, named, hname, merge]
      rw [hcustom, hcustom]

end Builtin

namespace TypeToken

def canonical : TypeToken → TypeToken
  | builtin type => builtin type.canonical
  | token => token

@[simp]
theorem canonical_canonical (token : TypeToken) : token.canonical.canonical = token.canonical := by
  cases token <;> simp [canonical]

end TypeToken

end FilterTyping
