import FilterTyping.Token.Canonical
import Mathlib.Logic.Relation

/-!
# Classes of tokens

Which tokens mean one type. The spellings are pairs of tokens, and the classes are what they join.
Two tokens have one canonical form if they are in one class, and only then.
-/

namespace FilterTyping.TypeToken

/-! ## Spellings -/

/-- The first token is another spelling of the second. -/
inductive Spells : TypeToken → TypeToken → Prop
  | boolean : Spells (binding .boolean) (column .boolean)
  | integer : Spells (binding .integer) (column .integer)
  | bigint : Spells (column .bigint) (column .integer)
  | string : Spells (binding .string) (column .string)
  | text : Spells (column .text) (column .string)
  | name (c : Column) : Spells (builtin (.custom c.name)) (column c)

/-- No spelling has to do with the token. -/
def IsAlone (token : TypeToken) : Prop :=
  ∀ other, ¬ token.Spells other ∧ ¬ other.Spells token

theorem isAlone_iff {token : TypeToken} :
    token.IsAlone ↔
      (∃ path, token = enumeration path) ∨ (∃ path, token = entity path) ∨
      (∃ kind, kind ∉ [.boolean, .integer, .string] ∧ token = binding kind) ∨
      ∃ name, (∀ c : Column, c.name ≠ name) ∧ token = builtin (.custom name) := by
  constructor
  · intro halone
    rcases token with (c | name | kind) | path | path
    · -- Every column has a name, which spells it.
      exact absurd (.name c) (halone (builtin (.custom c.name))).2
    · refine .inr (.inr (.inr ⟨name, ?_, rfl⟩))
      rintro c rfl
      exact (halone (column c)).1 (.name c)
    · refine .inr (.inr (.inl ⟨kind, ?_, rfl⟩))
      intro hmem
      simp only [List.mem_cons, List.not_mem_nil, or_false] at hmem
      rcases hmem with rfl | rfl | rfl
      · exact (halone _).1 .boolean
      · exact (halone _).1 .integer
      · exact (halone _).1 .string
    · exact .inl ⟨path, rfl⟩
    · exact .inr (.inl ⟨path, rfl⟩)
  · rintro (⟨path, rfl⟩ | ⟨path, rfl⟩ | ⟨kind, hkind, rfl⟩ | ⟨name, hname, rfl⟩) other
    · exact ⟨nofun, nofun⟩
    · exact ⟨nofun, nofun⟩
    · refine ⟨fun hspells => hkind ?_, nofun⟩
      cases hspells <;> decide
    · refine ⟨fun hspells => ?_, nofun⟩
      cases hspells with
      | name c => exact hname c rfl

/-! ## The way to the canonical token -/

theorem reaches_recognize (type : Builtin) :
    Relation.ReflTransGen Spells (builtin type) (builtin type.recognize) := by
  cases type with
  | column c | binding kind => exact .refl
  | custom name =>
    rw [Builtin.recognize, Builtin.named]
    cases hname : Column.ofName? name with
    | none => exact .refl
    | some c =>
      obtain rfl := Column.name_of_ofName? hname
      exact .single (.name c)

theorem reaches_merge (type : Builtin) :
    Relation.ReflTransGen Spells (builtin type) (builtin type.merge) := by
  cases type with
  | custom name => exact .refl
  | column c =>
    cases c with
    | bigint => exact .single .bigint
    | text => exact .single .text
    | _ => exact .refl
  | binding kind =>
    cases kind with
    | boolean => exact .single .boolean
    | integer => exact .single .integer
    | string => exact .single .string
    | _ => exact .refl

theorem reaches_canonical (token : TypeToken) :
    Relation.ReflTransGen Spells token token.canonical := by
  cases token with
  | builtin type => exact (reaches_recognize type).trans (reaches_merge _)
  | enumeration path | entity path => exact .refl

theorem Spells.canonical_eq {token other : TypeToken} (hspells : token.Spells other) :
    token.canonical = other.canonical := by
  cases hspells with
  | name c => simp [canonical, Builtin.canonical, Builtin.recognize, Builtin.named]
  | _ => rfl

theorem Spells.canonical_ne {token other : TypeToken} (hspells : token.Spells other) :
    token.canonical ≠ token := by
  cases hspells with
  | name c =>
    rw [(Spells.name c).canonical_eq]
    cases c <;> nofun
  | _ => nofun

/-! ## Classes -/

theorem canonical_eq_of_eqvGen {a b : TypeToken} (hjoined : Relation.EqvGen Spells a b) :
    a.canonical = b.canonical := by
  induction hjoined with
  | rel _ _ hspells => exact hspells.canonical_eq
  | refl _ => rfl
  | symm _ _ _ ih => exact ih.symm
  | trans _ _ _ _ _ ih ih' => exact ih.trans ih'

theorem canonical_eq_iff_eqvGen {a b : TypeToken} :
    a.canonical = b.canonical ↔ Relation.EqvGen Spells a b := by
  refine ⟨fun hsame => ?_, canonical_eq_of_eqvGen⟩
  have hleft := Relation.EqvGen.reflTransGen_le_eqvGen _ _ _ a.reaches_canonical
  have hright := Relation.EqvGen.reflTransGen_le_eqvGen _ _ _ b.reaches_canonical
  rw [hsame] at hleft
  exact hleft.trans _ _ _ (hright.symm _ _)

theorem canonical_eq_self_iff {token : TypeToken} :
    token.canonical = token ↔ ∀ other, ¬ token.Spells other := by
  constructor
  · intro hcanonical other hspells
    exact hspells.canonical_ne hcanonical
  · intro hnone
    rcases token.reaches_canonical.cases_head with heq | ⟨next, hspells, -⟩
    · exact heq.symm
    · exact absurd hspells (hnone next)

theorem IsAlone.canonical_eq {token : TypeToken} (halone : token.IsAlone) :
    token.canonical = token :=
  canonical_eq_self_iff.mpr fun other => (halone other).1

theorem IsAlone.eq_of_canonical_eq {token other : TypeToken} (halone : token.IsAlone)
    (hsame : token.canonical = other.canonical) : token = other := by
  -- The way of the other token ends at this one, and no last step leads there.
  have hreaches := other.reaches_canonical
  rw [← hsame, halone.canonical_eq] at hreaches
  rcases hreaches.cases_tail with heq | ⟨last, -, hspells⟩
  · exact heq
  · exact absurd hspells (halone last).2

/-- Two tokens have one canonical form just if they are in one class, the classes being the least
that hold every spelling together with what it spells. -/
theorem canonical_joins_spellings_only (a b : TypeToken) :
    a.canonical.canonical = a.canonical ∧
    (a.canonical = a ↔ ∀ other, ¬ a.Spells other) ∧
    (a.canonical = b.canonical ↔ Relation.EqvGen Spells a b) ∧
    (a.IsAlone → a.canonical = a ∧ (a.canonical = b.canonical → a = b)) ∧
    (a.IsAlone ↔
      (∃ path, a = enumeration path) ∨ (∃ path, a = entity path) ∨
      (∃ kind, kind ∉ [.boolean, .integer, .string] ∧ a = binding kind) ∨
      ∃ name, (∀ c : Column, c.name ≠ name) ∧ a = builtin (.custom name)) :=
  ⟨a.canonical_canonical, canonical_eq_self_iff, canonical_eq_iff_eqvGen,
    fun halone => ⟨halone.canonical_eq, halone.eq_of_canonical_eq⟩, isAlone_iff⟩

theorem text_meets_string_binding :
    let text : TypeToken := builtin (.custom "text")
    let other : TypeToken := builtin (.custom "Text")
    (Relation.EqvGen Spells text (binding .string) ∧ text.canonical = column .string ∧
      (binding .string).canonical = column .string) ∧
    (other.IsAlone ∧ other.canonical = other ∧ ¬ Relation.EqvGen Spells other text) ∧
    (entity "text").IsAlone ∧ (entity "text").canonical ≠ text.canonical := by
  intro text other
  obtain ⟨-, -, hjoined, -, -⟩ := canonical_joins_spellings_only text (binding .string)
  obtain ⟨-, -, hother, hkept, halone⟩ := canonical_joins_spellings_only other text
  obtain ⟨-, -, -, hkept', halone'⟩ := canonical_joins_spellings_only (entity "text") text
  have hname : ∀ c : Column, c.name ≠ "Text" := by
    intro c
    cases c <;> decide
  have hisAlone : other.IsAlone := halone.mpr (.inr (.inr (.inr ⟨"Text", hname, rfl⟩)))
  have hisAlone' : (entity "text").IsAlone := halone'.mpr (.inr (.inl ⟨"text", rfl⟩))
  refine ⟨⟨hjoined.mp (by decide), by decide, by decide⟩,
    ⟨hisAlone, (hkept hisAlone).1, ?_⟩, hisAlone', ?_⟩
  · rw [← hother]
    intro hsame
    exact absurd ((hkept hisAlone).2 hsame) (by decide)
  · intro hsame
    exact absurd ((hkept' hisAlone').2 hsame) (by decide)

end FilterTyping.TypeToken
