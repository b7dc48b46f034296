/-!
# Class names

An object that the host loads lazily has a generated proxy class, whose name carries the real name
after a marker segment. The real name is what follows the last such segment.
-/

namespace FilterTyping.ClassName

def proxyMarker : String := "__CG__"

def proxySegment : String := "::" ++ proxyMarker ++ "::"

/-- What follows the last place where `segment` stands, if it stands anywhere. -/
def afterLast? (segment : List Char) : List Char → Option (List Char)
  | [] => none
  | c :: cs =>
    match afterLast? segment cs with
    | some rest => some rest
    | none => if segment.isPrefixOf (c :: cs) then some ((c :: cs).drop segment.length) else none

/-- The name without proxy segments and what stands before them. -/
def unproxied (name : String) : String :=
  match afterLast? proxySegment.toList name.toList with
  | some rest => String.ofList rest
  | none => name

theorem afterLast?_eq_none_iff {segment : List Char} (hsegment : segment ≠ []) {text : List Char} :
    afterLast? segment text = none ↔ ¬ segment <:+: text := by
  induction text with
  | nil => simp [afterLast?, hsegment]
  | cons c cs ih =>
    rw [afterLast?, List.infix_cons_iff]
    cases hrest : afterLast? segment cs with
    | some rest =>
      rw [hrest] at ih
      simp only [reduceCtorEq, false_iff, Classical.not_not] at ih ⊢
      exact .inr ih
    | none =>
      have hcs := ih.mp hrest
      by_cases hstarts : segment.isPrefixOf (c :: cs) <;>
        simp_all [← List.isPrefixOf_iff_prefix]

theorem afterLast?_eq_some_iff {segment : List Char} (hsegment : segment ≠ [])
    {text rest : List Char} :
    afterLast? segment text = some rest ↔
      ∃ before, text = before ++ segment ++ rest ∧ ¬ segment <:+: (segment ++ rest).tail := by
  constructor
  · intro hrest
    induction text with
    | nil => cases hrest
    | cons c cs ih =>
      rw [afterLast?] at hrest
      -- The last place is behind the first character if there is one, and else in front of it.
      split at hrest
      · next hlater =>
        obtain ⟨before, hcs, hlast⟩ := ih (hlater.trans hrest)
        exact ⟨c :: before, by simp [hcs], hlast⟩
      · next hlater =>
        split at hrest
        · next hstarts =>
          obtain ⟨after, hafter⟩ := List.isPrefixOf_iff_prefix.mp hstarts
          rw [← hafter, List.drop_left] at hrest
          cases hrest
          refine ⟨[], hafter.symm, ?_⟩
          rw [hafter]
          exact (afterLast?_eq_none_iff hsegment).mp hlater
        · cases hrest
  · rintro ⟨before, rfl, hlast⟩
    induction before with
    | nil =>
      obtain ⟨c, cs, rfl⟩ := List.exists_cons_of_ne_nil hsegment
      have hlater : afterLast? (c :: cs) (cs ++ rest) = none :=
        (afterLast?_eq_none_iff hsegment).mpr hlast
      simp [afterLast?, hlater]
    | cons c before ih =>
      simp only [List.append_assoc] at ih
      simp [afterLast?, ih]

theorem not_infix_of_afterLast? {segment : List Char} (hsegment : segment ≠ [])
    {text rest : List Char} (hrest : afterLast? segment text = some rest) :
    ¬ segment <:+: rest := by
  obtain ⟨-, -, hlast⟩ := (afterLast?_eq_some_iff hsegment).mp hrest
  intro hstands
  rw [List.tail_append_of_ne_nil hsegment] at hlast
  exact hlast (hstands.trans (List.suffix_append _ rest).isInfix)

theorem unproxied_unproxied (name : String) : unproxied (unproxied name) = unproxied name := by
  have hsegment : proxySegment.toList ≠ [] := by decide
  cases hrest : afterLast? proxySegment.toList name.toList with
  | none => simp [unproxied, hrest]
  | some rest =>
    have hnone := (afterLast?_eq_none_iff hsegment).mpr (not_infix_of_afterLast? hsegment hrest)
    simp [unproxied, hrest, hnone]

end FilterTyping.ClassName
