import FilterTyping.Parameter.Basic
import FilterTyping.Query.Statement
import Mathlib.Data.Finset.Card
import Mathlib.Data.Finset.Insert

/-!
# What a look-up of a parameter finds

Parameters are bound and referred to by names with a sigil or without, and each side takes off one
sigil. What is found is the last binding of the name.
-/

namespace FilterTyping

/-! ## Names -/

namespace Parameter

def IsBare (name : String) : Prop :=
  ∀ rest, name ≠ ":" ++ rest ∧ name ≠ "?" ++ rest

/-- The ways to write a name. As it is, it can be written only if it starts with no sigil. -/
inductive Spells (name : String) : String → Prop
  | colon : Spells name (":" ++ name)
  | question : Spells name ("?" ++ name)
  | bare (hbare : IsBare name) : Spells name name

theorem bareName_colon (name : String) : bareName (":" ++ name) = name := by
  simp [bareName, isSigil, String.toList_append]

theorem bareName_question (name : String) : bareName ("?" ++ name) = name := by
  simp [bareName, isSigil, String.toList_append]

theorem bareName_cases (text : String) :
    text = ":" ++ bareName text ∨ text = "?" ++ bareName text ∨
      text = bareName text ∧ IsBare text := by
  cases htext : text.toList with
  | nil =>
    refine .inr (.inr ⟨by simp [bareName, htext], fun rest => ⟨?_, ?_⟩⟩) <;>
    · rintro rfl
      simp at htext
  | cons c cs =>
    by_cases hsigil : isSigil c
    · have hname : bareName text = String.ofList cs := by simp [bareName, htext, hsigil]
      have hc : c = ':' ∨ c = '?' := by simpa [isSigil] using hsigil
      rw [hname]
      rcases hc with rfl | rfl
      · exact .inl (String.toList_inj.mp (by simp [htext]))
      · exact .inr (.inl (String.toList_inj.mp (by simp [htext])))
    · refine .inr (.inr ⟨by simp [bareName, htext, hsigil], fun rest => ⟨?_, ?_⟩⟩) <;>
      · rintro rfl
        rw [String.toList_append] at htext
        cases htext
        exact hsigil rfl

theorem bareName_eq_self_iff {name : String} : bareName name = name ↔ IsBare name := by
  constructor
  · intro hname rest
    constructor
    · rintro rfl
      rw [bareName_colon] at hname
      simpa using congrArg String.length hname
    · rintro rfl
      rw [bareName_question] at hname
      simpa using congrArg String.length hname
  · intro hbare
    rcases bareName_cases name with hname | hname | ⟨hname, -⟩
    · exact absurd hname (hbare _).1
    · exact absurd hname (hbare _).2
    · exact hname.symm

instance (name : String) : Decidable (IsBare name) :=
  decidable_of_iff _ bareName_eq_self_iff

theorem bareName_eq_iff {text name : String} : bareName text = name ↔ Spells name text := by
  constructor
  · rintro rfl
    rcases bareName_cases text with htext | htext | ⟨htext, hbare⟩
    · generalize bareName text = name at htext
      exact htext ▸ .colon
    · generalize bareName text = name at htext
      exact htext ▸ .question
    · rw [← htext]
      exact .bare hbare
  · intro hspells
    cases hspells with
    | colon => exact bareName_colon name
    | question => exact bareName_question name
    | bare hbare => exact bareName_eq_self_iff.mpr hbare

end Parameter

/-! ## Bindings -/

namespace Parameters

theorem ofList_concat (bs : List Binding) (b : Binding) :
    ofList (bs ++ [b]) = (ofList bs).bind b := by
  simp [ofList]

theorem find?_ofList (bs : List Binding) (name : String) :
    (ofList bs).find? name =
      (bs.filter fun b => Parameter.bareName b.text = name).getLast?.map fun b =>
        ⟨name, b.declared, b.value⟩ := by
  induction bs using List.reverseRecOn with
  | nil => simp [ofList]
  | append_singleton bs b ih =>
    rw [ofList_concat, find?_bind, ih, List.filter_append]
    by_cases hname : Parameter.bareName b.text = name <;> simp [hname]

theorem isSome_find?_ofList_iff (bs : List Binding) (name : String) :
    ((ofList bs).find? name).isSome ↔ name ∈ bs.map fun b => Parameter.bareName b.text := by
  rw [find?_ofList, Option.isSome_map, List.getLast?_isSome, List.mem_map, Ne,
    List.filter_eq_nil_iff]
  simp

theorem size_bind (ps : Parameters) (b : Binding) :
    (ps.bind b).size =
      if (ps.find? (Parameter.bareName b.text)).isSome then ps.size else ps.size + 1 := by
  simp [size, bind, find?, Std.TreeMap.size_insert]

theorem size_ofList (bs : List Binding) :
    (ofList bs).size = (bs.map fun b => Parameter.bareName b.text).toFinset.card := by
  induction bs using List.reverseRecOn with
  | nil => simp [ofList, size, empty]
  | append_singleton bs b ih =>
    have hnames : ((bs ++ [b]).map fun b => Parameter.bareName b.text).toFinset =
        insert (Parameter.bareName b.text)
          (bs.map fun b => Parameter.bareName b.text).toFinset := by
      rw [List.map_append, List.toFinset_append, Finset.union_comm]
      rfl
    rw [ofList_concat, size_bind, hnames, Finset.card_insert_eq_ite, ih]
    simp only [isSome_find?_ofList_iff, List.mem_toFinset]

end Parameters

/-- A look-up finds what the last binding of the name said, however the two spell the name. -/
theorem lookup_finds_last_binding (bs : List Binding) :
    (∀ text, (Parameters.ofList bs).find? (Parameter.bareName text) =
      (bs.filter fun b => Parameter.bareName b.text = Parameter.bareName text).getLast?.map
        fun b => ⟨Parameter.bareName text, b.declared, b.value⟩) ∧
    (∀ key p, (Parameters.ofList bs).find? key = some p → p.name = key) ∧
    (Parameters.ofList bs).size = (bs.map fun b => Parameter.bareName b.text).toFinset.card ∧
    (∀ text name, Parameter.bareName text = name ↔ Parameter.Spells name text) ∧
    ∀ (name : String) (b : Binding) (later : List Binding), Parameter.Spells name b.text →
      (∀ other ∈ later, ¬ Parameter.Spells name other.text) →
      ∀ text, Parameter.Spells name text → Term.param text = .parameter name ∧
        (Parameters.ofList (bs ++ b :: later)).find? name = some ⟨name, b.declared, b.value⟩ := by
  refine ⟨fun text => Parameters.find?_ofList bs _, fun key p hfound => ?_,
    Parameters.size_ofList bs, fun _ _ => Parameter.bareName_eq_iff, ?_⟩
  · rw [Parameters.find?_ofList] at hfound
    obtain ⟨b, -, rfl⟩ := Option.map_eq_some_iff.mp hfound
    rfl
  · intro name b later hb hlater text htext
    simp only [← Parameter.bareName_eq_iff] at hb hlater htext
    have hnone : later.filter (fun other => Parameter.bareName other.text = name) = [] := by
      simpa [List.filter_eq_nil_iff] using hlater
    refine ⟨congrArg Term.parameter htext, ?_⟩
    rw [Parameters.find?_ofList, List.filter_append, List.filter_cons, hnone]
    simp [hb]

theorem declared_limit_replaces_number :
    let number : Binding := ⟨":limit", none, some (.int 3)⟩
    let flag : Binding := ⟨"::limit", some (.column .boolean), none⟩
    let declared : Binding := ⟨"?limit", some (.column .string), none⟩
    let bound := Parameters.ofList [number, flag, declared]
    Parameter.Spells "limit" "limit" ∧ bound.size = 2 ∧
      bound.find? (Parameter.bareName "limit") = some ⟨"limit", some (.column .string), none⟩ ∧
      bound.find? (Parameter.bareName "::limit") = some ⟨":limit", some (.column .boolean), none⟩ ∧
      Term.param "limit" = .parameter "limit" ∧
      (Parameters.ofList [number, flag]).find? "limit" = some ⟨"limit", none, some (.int 3)⟩ := by
  intro number flag declared bound
  have hnames : Parameter.bareName ":limit" = "limit" ∧ Parameter.bareName "?limit" = "limit" ∧
      Parameter.bareName "limit" = "limit" ∧ Parameter.bareName "::limit" = ":limit" := by
    decide +kernel
  have hbare : Parameter.Spells "limit" "limit" := .bare (by decide +kernel)
  have hflag : ¬ Parameter.Spells "limit" flag.text := by
    rw [← Parameter.bareName_eq_iff]
    decide +kernel
  obtain ⟨hfind, -, hsize, -, -⟩ := lookup_finds_last_binding [number, flag, declared]
  obtain ⟨-, -, -, -, hspellings⟩ := lookup_finds_last_binding []
  refine ⟨hbare, hsize.trans (by decide +kernel), (hfind "limit").trans ?_,
    (hfind "::limit").trans ?_, ?_⟩
  · simp [number, flag, declared, hnames]
  · simp [number, flag, declared, hnames]
  · exact hspellings "limit" number [flag] .colon (by simpa using hflag) "limit" hbare

end FilterTyping
