import FilterTyping.Entity.ClassName

/-!
# Names of proxies

What is left of a class name without its proxies. The segment of a proxy ends as it begins, so two
of them can share the `::` between them, and then both are taken off.
-/

namespace FilterTyping.ClassName

/-! ## Segments in names -/

/-- The proxy segment stands somewhere in the name. -/
def IsProxied (name : String) : Prop :=
  ∃ before after, name = before ++ proxySegment ++ after

theorem isProxied_iff_isInfix {name : String} :
    IsProxied name ↔ proxySegment.toList <:+: name.toList := by
  constructor
  · rintro ⟨before, after, rfl⟩
    exact ⟨before.toList, after.toList, by simp⟩
  · rintro ⟨before, after, hname⟩
    refine ⟨String.ofList before, String.ofList after, String.toList_inj.mp ?_⟩
    simp [hname]

theorem proxySegment_ne_nil : proxySegment.toList ≠ [] := by
  decide

theorem isProxied_iff_afterLast? {name : String} :
    IsProxied name ↔ (afterLast? proxySegment.toList name.toList).isSome := by
  rw [isProxied_iff_isInfix, Option.isSome_iff_ne_none, ne_eq,
    afterLast?_eq_none_iff proxySegment_ne_nil, Classical.not_not]

instance (name : String) : Decidable (IsProxied name) :=
  decidable_of_iff _ isProxied_iff_afterLast?.symm

theorem infix_tail_iff {rest : List Char} :
    proxySegment.toList <:+: (proxySegment.toList ++ rest).tail ↔
      proxySegment.toList <:+: "::".toList ++ rest := by
  have hsegment : proxySegment.toList = [':', ':', '_', '_', 'C', 'G', '_', '_', ':', ':'] := rfl
  -- The characters tell all starts apart but the last two, which stand on both sides.
  simp [hsegment, List.infix_cons_iff]

/-! ## Names without proxies -/

theorem unproxied_of_not_isProxied {name : String} (hname : ¬ IsProxied name) :
    unproxied name = name := by
  rw [isProxied_iff_isInfix, ← afterLast?_eq_none_iff proxySegment_ne_nil] at hname
  simp [unproxied, hname]

theorem afterLast?_segment_eq_some_iff {name rest : String} :
    afterLast? proxySegment.toList name.toList = some rest.toList ↔
      ∃ before, name = before ++ proxySegment ++ rest ∧ ¬ IsProxied ("::" ++ rest) := by
  rw [afterLast?_eq_some_iff proxySegment_ne_nil, isProxied_iff_isInfix, String.toList_append,
    infix_tail_iff]
  constructor
  · rintro ⟨before, hname, hlast⟩
    exact ⟨String.ofList before, String.toList_inj.mp (by simp [hname]), hlast⟩
  · rintro ⟨before, rfl, hlast⟩
    exact ⟨before.toList, by simp, hlast⟩

theorem unproxied_eq_iff_of_isProxied {name rest : String} (hname : IsProxied name) :
    unproxied name = rest ↔
      ∃ before, name = before ++ proxySegment ++ rest ∧ ¬ IsProxied ("::" ++ rest) := by
  rw [← afterLast?_segment_eq_some_iff]
  obtain ⟨found, hfound⟩ := Option.isSome_iff_exists.mp (isProxied_iff_afterLast?.mp hname)
  rw [unproxied, hfound, Option.some_inj, ← String.toList_inj, String.toList_ofList]

theorem not_isProxied_unproxied (name : String) : ¬ IsProxied (unproxied name) := by
  by_cases hname : IsProxied name
  · obtain ⟨-, -, hlast⟩ := (unproxied_eq_iff_of_isProxied hname).mp rfl
    rintro ⟨before, after, hrest⟩
    exact hlast ⟨"::" ++ before, after, by rw [hrest]; simp only [String.append_assoc]⟩
  · rwa [unproxied_of_not_isProxied hname]

/-- What is left of a name stands behind its last proxy segment, and is no proxy itself. -/
theorem unproxied_is_past_last_segment (name : String) :
    (¬ IsProxied name → unproxied name = name) ∧
    (IsProxied name → ∀ rest, unproxied name = rest ↔
      ∃ before, name = before ++ proxySegment ++ rest ∧ ¬ IsProxied ("::" ++ rest)) ∧
    ¬ IsProxied (unproxied name) ∧
    unproxied (unproxied name) = unproxied name ∧
    ∀ before, ¬ IsProxied ("::" ++ name) → unproxied (before ++ proxySegment ++ name) = name := by
  refine ⟨unproxied_of_not_isProxied, fun hname rest => unproxied_eq_iff_of_isProxied hname,
    not_isProxied_unproxied name, unproxied_unproxied name, fun before hlast => ?_⟩
  exact (unproxied_eq_iff_of_isProxied ⟨before, name, rfl⟩).mpr ⟨before, rfl, hlast⟩

theorem stacked_proxies_are_unproxied :
    IsProxied "a::__CG__::__CG__::User" ∧
      (∃ before, "a::__CG__::__CG__::User" = before ++ proxySegment ++ "User" ∧
        ¬ IsProxied "::User") ∧
      ¬ IsProxied "__CG__::User" ∧
      unproxied ("a" ++ proxySegment ++ "__CG__::User") = "User" ∧
      unproxied ("a::__CG__" ++ proxySegment ++ "User") = "User" ∧
      unproxied "__CG__User" = "__CG__User" := by
  have hstacked : IsProxied "a::__CG__::__CG__::User" := by decide +kernel
  have hlast : ¬ IsProxied ("::" ++ "User") := by decide +kernel
  have hparts : ("a::__CG__::__CG__::User" = "a" ++ proxySegment ++ "__CG__::User") ∧
      "a::__CG__::__CG__::User" = "a::__CG__" ++ proxySegment ++ "User" := by decide +kernel
  obtain ⟨-, hproxied, -⟩ := unproxied_is_past_last_segment "a::__CG__::__CG__::User"
  have hleft : unproxied "a::__CG__::__CG__::User" = "User" :=
    (hproxied hstacked "User").mpr ⟨"a::__CG__", hparts.2, hlast⟩
  refine ⟨hstacked, (hproxied hstacked "User").mp hleft, by decide +kernel, ?_, ?_, ?_⟩
  · rw [← hparts.1, hleft]
  · exact (unproxied_is_past_last_segment "User").2.2.2.2 "a::__CG__" hlast
  · exact (unproxied_is_past_last_segment "__CG__User").1 (by decide +kernel)

end FilterTyping.ClassName
