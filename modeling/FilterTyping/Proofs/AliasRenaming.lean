import FilterTyping.Proofs.FreeAliases
import FilterTyping.Proofs.Reports
import FilterTyping.Query.Renaming

/-!
# Renaming aliases keeps the findings

An alias matters to a check only through the declaration that it leads to. So under new names, as
long as distinct aliases keep distinct ones, the same mismatches come up in the same order, and only
the texts of the paths differ.
-/

namespace FilterTyping

variable {rename : String → String}

/-! ## Comparisons -/

def Comparison.mapAlias (rename : String → String) (c : Comparison) : Comparison :=
  ⟨c.scope.mapAlias rename, c.path.mapAlias rename, c.parameter⟩

theorem Operand.isQuantified_mapAlias (operand : Operand) :
    (operand.mapAlias rename).isQuantified = operand.isQuantified := by
  cases operand <;> rw [Operand.mapAlias] <;> rfl

-- The induction is on the tree. Renaming commutes with the scope that a subselect adds to.
mutual

theorem Statement.comparisons_mapAlias (outer : Scope) : ∀ statement : Statement,
    (statement.mapAlias rename).comparisons (outer.mapAlias rename) =
      (statement.comparisons outer).map (·.mapAlias rename)
  | ⟨sources, filter, groupFilter⟩ => by
    rw [Statement.mapAlias, Statement.comparisons, Statement.comparisons, List.map_append,
      ← Condition.clauseComparisons_mapAlias (sources :: outer) filter,
      ← Condition.clauseComparisons_mapAlias (sources :: outer) groupFilter]
    rfl

theorem Condition.clauseComparisons_mapAlias (scope : Scope) : ∀ clause : Option Condition,
    Condition.clauseComparisons (scope.mapAlias rename) (Condition.mapAliasClause rename clause) =
      (Condition.clauseComparisons scope clause).map (·.mapAlias rename)
  | none => rfl
  | some condition => Condition.comparisons_mapAlias scope condition

theorem Condition.comparisons_mapAlias (scope : Scope) : ∀ condition : Condition,
    (condition.mapAlias rename).comparisons (scope.mapAlias rename) =
      (condition.comparisons scope).map (·.mapAlias rename)
  | .or branches => by
    rw [Condition.mapAlias, Condition.comparisons, Condition.comparisons,
      Condition.branchComparisons_mapAlias scope branches]
  | .and branches => by
    rw [Condition.mapAlias, Condition.comparisons, Condition.comparisons,
      Condition.branchComparisons_mapAlias scope branches]
  | .not inner => by
    rw [Condition.mapAlias, Condition.comparisons, Condition.comparisons,
      Condition.comparisons_mapAlias scope inner]
  | .group inner => by
    rw [Condition.mapAlias, Condition.comparisons, Condition.comparisons,
      Condition.comparisons_mapAlias scope inner]
  | .compare left op right => by
    rw [Condition.mapAlias, Condition.comparisons_compare, Condition.comparisons_compare,
      Operand.isQuantified_mapAlias, Operand.isQuantified_mapAlias]
    split
    · rfl
    · rw [List.map_append, Operand.comparisonsAgainst_mapAlias scope left right,
        Operand.comparisonsAgainst_mapAlias scope right left]
  | .unchecked _ => by
    rw [Condition.mapAlias, Condition.comparisons, Condition.comparisons, List.map_nil]

theorem Condition.branchComparisons_mapAlias (scope : Scope) : ∀ branches : List Condition,
    Condition.branchComparisons (scope.mapAlias rename) (Condition.mapAliasAll rename branches) =
      (Condition.branchComparisons scope branches).map (·.mapAlias rename)
  | [] => rfl
  | condition :: conditions => by
    rw [Condition.mapAliasAll, Condition.branchComparisons, Condition.branchComparisons,
      List.map_append, Condition.comparisons_mapAlias scope condition,
      Condition.branchComparisons_mapAlias scope conditions]

theorem Operand.comparisonsAgainst_mapAlias (scope : Scope) : ∀ operand other : Operand,
    (operand.mapAlias rename).comparisonsAgainst (scope.mapAlias rename) (other.mapAlias rename) =
      (operand.comparisonsAgainst scope other).map (·.mapAlias rename)
  | .subselect statement, other => by
    rw [Operand.mapAlias, Operand.comparisonsAgainst, Operand.comparisonsAgainst,
      Statement.comparisons_mapAlias scope statement]
  | .quantified _ _, other => by
    rw [Operand.mapAlias]
    rfl
  | .term term, other => by
    rcases term with _ | _ | _ | _ | _ <;>
    rcases other with (_ | _ | _ | _ | _) | _ | _ <;>
    simp [Operand.mapAlias, Term.mapAlias, Operand.comparisonsAgainst, Comparison.mapAlias]

end

/-! ## Judgements -/

structure Flag where
  path : FieldPath
  parameter : String
  actual : TypeToken
  expected : List TypeToken

namespace Flag

def mismatch (flag : Flag) : Mismatch :=
  ⟨flag.parameter, flag.actual, flag.expected, flag.path.render⟩

def mapAlias (rename : String → String) (flag : Flag) : Flag :=
  { flag with path := flag.path.mapAlias rename }

def sides (flag : Flag) : FieldPath × String :=
  (flag.path, flag.parameter)

end Flag

/-- The second of two judgements is the first under new aliases. -/
inductive Judgement.Renamed (rename : String → String) (c : Comparison) :
    Judgement → Judgement → Prop
  | unresolved : Renamed rename c .unresolved .unresolved
  | compatible : Renamed rename c .compatible .compatible
  | incompatible {flag : Flag} (hsides : flag.sides = (c.path, c.parameter)) :
    Renamed rename c (.incompatible flag.mismatch) (.incompatible (flag.mapAlias rename).mismatch)
  | defective {defect defect' : Defect} (hkind : defect'.kind = defect.kind)
    (horigin : defect'.origin = defect.origin) :
    Renamed rename c (.defective defect) (.defective defect')

namespace Comparison

variable (ctx : Context)

theorem expected_mapAlias_path (schema : Metadata) (entity : String) (path : FieldPath) :
    (∃ tokens, schema.expected entity path = .ok tokens ∧
      schema.expected entity (path.mapAlias rename) = .ok tokens) ∨
    ∃ defect defect', schema.expected entity path = .error defect ∧
      schema.expected entity (path.mapAlias rename) = .error defect' ∧
      defect'.kind = defect.kind ∧ defect'.origin = defect.origin := by
  obtain ⟨qualifier, _ | name, kind⟩ := path
  · exact .inr ⟨_, _, rfl, rfl, rfl, rfl⟩
  cases kind with
  | state =>
    simp only [Metadata.expected, FieldPath.mapAlias]
    cases schema.fieldTokens entity name with
    | ok tokens => exact .inl ⟨tokens, rfl, rfl⟩
    | error fault => exact .inr ⟨_, _, rfl, rfl, rfl, rfl⟩
  | toOne =>
    simp only [Metadata.expected, FieldPath.mapAlias]
    cases schema.targetTokens entity name with
    | ok tokens => exact .inl ⟨tokens, rfl, rfl⟩
    | error fault => exact .inr ⟨_, _, rfl, rfl, rfl, rfl⟩
  | collection => exact .inr ⟨_, _, rfl, rfl, rfl, rfl⟩

theorem expected_mapAlias (hinj : Function.Injective rename) (schema : Metadata) (c : Comparison) :
    (∃ tokens, c.expected schema = .ok tokens ∧
      (c.mapAlias rename).expected schema = .ok tokens) ∨
    ∃ defect defect', c.expected schema = .error defect ∧
      (c.mapAlias rename).expected schema = .error defect' ∧
      defect'.kind = defect.kind ∧ defect'.origin = defect.origin := by
  have hfound : (c.mapAlias rename).scope.entityOf? (c.mapAlias rename).path.qualifier =
      c.scope.entityOf? c.path.qualifier :=
    Scope.entityOf?_mapAlias hinj c.scope c.path.qualifier
  rw [expected, expected, hfound]
  cases c.scope.entityOf? c.path.qualifier with
  | none => exact .inr ⟨_, _, rfl, rfl, rfl, rfl⟩
  | some entity => exact expected_mapAlias_path schema entity c.path

theorem judge_mapAlias (hinj : Function.Injective rename) (c : Comparison) :
    Judgement.Renamed rename c (c.judge ctx) ((c.mapAlias rename).judge ctx) := by
  have hparameter : (c.mapAlias rename).parameter = c.parameter := rfl
  rw [judge, judge, hparameter]
  cases ctx.actual? c.parameter with
  | none => exact .unresolved
  | some actual =>
    obtain ⟨tokens, hold, hnew⟩ | ⟨defect, defect', hold, hnew, hkind, horigin⟩ :=
      expected_mapAlias hinj ctx.schema c
    · simp only [hold, hnew]
      split
      · exact .compatible
      · exact @Judgement.Renamed.incompatible _ c ⟨c.path, c.parameter, actual, tokens⟩ rfl
    · simp only [hold, hnew]
      exact .defective hkind horigin

end Comparison

/-! ## Findings -/

/-- Two checks end in the same way, the second under new aliases. -/
inductive EndAlike (rename : String → String) (flags : List Flag) :
    Except Failure Unit → Except Failure Unit → Prop
  | passed : EndAlike rename flags (.ok ()) (.ok ())
  | mismatch {flag : Flag} (hlast : flags.getLast? = some flag) :
    EndAlike rename flags (.error (.mismatch flag.mismatch))
      (.error (.mismatch (flag.mapAlias rename).mismatch))
  | defect {defect defect' : Defect} (hkind : defect'.kind = defect.kind)
    (horigin : defect'.origin = defect.origin) :
    EndAlike rename flags (.error (.defect defect)) (.error (.defect defect'))

namespace Comparison

variable (ctx : Context)

theorem findings_mapAlias (hinj : Function.Injective rename) (cs : List Comparison) :
    ∃ flags : List Flag,
      (flags.map (·.sides)).Sublist (cs.map fun c => (c.path, c.parameter)) ∧
      mismatches ctx cs = flags.map (·.mismatch) ∧
      mismatches ctx (cs.map (·.mapAlias rename)) =
        flags.map (fun flag => (flag.mapAlias rename).mismatch) ∧
      ∀ others, EndAlike rename others (verdict ctx cs)
        (verdict ctx (cs.map (·.mapAlias rename))) := by
  induction cs with
  | nil => exact ⟨[], .slnil, rfl, rfl, fun _ => .passed⟩
  | cons c cs ih =>
    obtain ⟨flags, hsub, hold, hnew, hend⟩ := ih
    have hjudge := judge_mapAlias ctx hinj c
    rw [List.map_cons, List.map_cons, mismatches, mismatches, verdict, verdict]
    generalize c.judge ctx = judgement at hjudge ⊢
    generalize (c.mapAlias rename).judge ctx = judgement' at hjudge ⊢
    cases hjudge with
    | unresolved => exact ⟨flags, hsub.cons _, hold, hnew, hend⟩
    | compatible => exact ⟨flags, hsub.cons _, hold, hnew, hend⟩
    | @incompatible flag hsides =>
      refine ⟨flag :: flags, ?_, ?_, ?_, hend⟩
      · rw [List.map_cons, hsides]
        exact hsub.cons_cons _
      · rw [List.map_cons, ← hold]
      · rw [List.map_cons, ← hnew]
    | defective hkind horigin =>
      exact ⟨[], List.nil_sublist _, rfl, rfl, fun _ => .defect hkind horigin⟩

end Comparison

/-! ## Checks -/

theorem EndAlike.ended {v v' : Except Failure Unit} (hend : ∀ flags, EndAlike rename flags v v')
    (flags : List Flag) :
    EndAlike rename (flags.take 1) (endedBy (flags.map (·.mismatch)).head? v)
      (endedBy (flags.map fun flag => (flag.mapAlias rename).mismatch).head? v') := by
  cases flags with
  | nil => exact hend []
  | cons flag flags => exact .mismatch rfl

/-- Under new aliases, distinct ones for distinct ones, a check finds the same at the same paths,
unless its policy looks at the registration. -/
theorem renaming_aliases_keeps_findings (ctx : Context) (statement : Statement)
    {rename : String → String} (hinj : Function.Injective rename) (policy : Policy)
    (hpolicy : policy ≠ .registered) (react : Sink → HostM Unit)
    (hreturns : ∀ sink, policy = .forward (.sink sink) →
      ∀ h, ∃ h', (react sink).run.run h = (.ok (), h')) (h : Host) :
    let report := Policy.report react policy
    let renamed := statement.mapAlias rename
    ∃ (flags : List Flag) (r r' : Except Failure Unit),
      ((statement.check ctx report h).1.1 = .ok r ∧
        (statement.checkListing ctx report h).1 = .ok (r, flags.map (·.mismatch))) ∧
      ((renamed.check ctx report h).1.1 = .ok r' ∧
        (renamed.checkListing ctx report h).1 =
          .ok (r', flags.map fun flag => (flag.mapAlias rename).mismatch)) ∧
      (flags.map (·.sides)).Sublist
        ((statement.comparisons []).map fun c => (c.path, c.parameter)) ∧
      EndAlike rename flags r r' := by
  intro report renamed
  have hrenamed : renamed.comparisons [] =
      (statement.comparisons []).map (·.mapAlias rename) :=
    Statement.comparisons_mapAlias [] statement
  obtain ⟨flags, hsub, hold, hnew, hend⟩ :=
    Comparison.findings_mapAlias ctx hinj (statement.comparisons [])
  obtain ⟨stops, hdecides⟩ := Policy.decides hpolicy hreturns
  obtain ⟨h₁, hlist, hrun⟩ := Comparison.listAll_of_decides ctx stops hdecides
    (statement.comparisons []) [] h
  obtain ⟨h₂, hlist', hrun'⟩ := Comparison.listAll_of_decides ctx stops hdecides
    (renamed.comparisons []) [] h
  rw [← Statement.checkListing_eq] at hlist hlist'
  simp only [hrenamed, hold, hnew] at hlist hrun hlist' hrun'
  cases stops with
  | true =>
    refine ⟨flags.take 1, _, _, ⟨?_, ?_⟩, ⟨?_, ?_⟩, ?_, .ended hend flags⟩
    · simp [Statement.check_eq, report, hrun]
    · simp [report, hlist]
    · simp [Statement.check_eq, report, hrenamed, hrun']
    · simp [report, hlist']
    · rw [List.map_take]
      exact (List.take_sublist 1 _).trans hsub
  | false =>
    refine ⟨flags, _, _, ⟨?_, ?_⟩, ⟨?_, ?_⟩, hsub, hend flags⟩
    · simp [Statement.check_eq, report, hrun]
    · simp [report, hlist]
    · simp [Statement.check_eq, report, hrenamed, hrun']
    · simp [report, hlist']

theorem renamed_orders_reported_alike :
    let statement : Statement := ⟨[⟨"o", "Order"⟩], some (.and [
      .compare (.subselect orderOfCheapItem) .eq (.term (.literal .null)),
      .compare (.term (.path ⟨"j", some "price", .state⟩)) .eq (.term (.parameter "price"))]), none⟩
    let rename (name : String) := "the_" ++ name
    let report := Policy.report (fun _ => pure ()) (.forward (.sink ⟨0⟩))
    let renamed := (statement.mapAlias rename).check flagsForNumbers report {}
    Function.Injective rename ∧
      renamed.1.2.deliveries = [
        (⟨0⟩, Mismatch.notice ⟨"total", .column .boolean, [.column .integer], "the_o.total"⟩),
        (⟨0⟩, Mismatch.notice ⟨"price", .column .boolean, [.column .integer], "the_o.price"⟩)] ∧
      ∃ flags r r', (statement.check flagsForNumbers report {}).1.1 = .ok r ∧
        renamed.1.1 = .ok r' ∧ EndAlike rename flags r r' := by
  intro statement rename report renamed
  have hinj : Function.Injective rename := fun _ _ heq => by simpa [rename] using heq
  obtain ⟨flags, r, r', ⟨hcheck, _⟩, ⟨hrenamed, _⟩, _, hend⟩ :=
    renaming_aliases_keeps_findings flagsForNumbers statement hinj (.forward (.sink ⟨0⟩))
      (by decide) (fun _ => pure ()) (fun _ _ h => ⟨h, rfl⟩) {}
  exact ⟨hinj, by decide +kernel, flags, r, r', hcheck, hrenamed, hend⟩

end FilterTyping
