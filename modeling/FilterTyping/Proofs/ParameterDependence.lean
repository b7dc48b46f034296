import FilterTyping.Proofs.FreeAliases
import FilterTyping.Proofs.Reports

/-!
# How a check depends on its parameters

A comparison whose parameter has no token is skipped before its path is looked at. So a statement
without such tokens passes whatever its paths are like, and a parameter has a say in its own
comparisons only.
-/

namespace FilterTyping

/-! ## Parameters without a token -/

namespace Comparison

variable {ctx : Context} {cs : List Comparison}

theorem verifyAll_of_unresolved {m : Type → Type} [Monad m] [LawfulMonad m] (obs : Observer m)
    (hunresolved : ∀ c ∈ cs, ctx.actual? c.parameter = none) :
    verifyAll ctx obs cs = ExceptT.lift (cs.forM fun c => obs.skipped c.skip) := by
  induction cs with
  | nil =>
    apply ExceptT.ext
    simp [verifyAll]
  | cons c cs ih =>
    rw [List.forall_mem_cons] at hunresolved
    have hjudge : c.judge ctx = .unresolved := judge_eq_unresolved_iff.mpr hunresolved.1
    apply ExceptT.ext
    simp [verifyAll, verify, hjudge, ih hunresolved.2]

def skips (cs : List Comparison) : Journal :=
  cs.map (.skipped ·.skip)

theorem listAll_of_unresolved (hunresolved : ∀ c ∈ cs, ctx.actual? c.parameter = none)
    (report : Mismatch → HostM Ruling) (listed : List Mismatch) (h : Host) :
    let after := { h with journal := h.journal ++ skips cs }
    listAll ctx report cs listed h = (.ok (.ok (), listed), after) ∧
      runAll ctx report cs h = (.ok (.ok ()), after) := by
  induction cs generalizing h with
  | nil => simp [skips, listAll_nil, runAll_nil]
  | cons c cs ih =>
    rw [List.forall_mem_cons] at hunresolved
    have hjudge : c.judge ctx = .unresolved := judge_eq_unresolved_iff.mpr hunresolved.1
    have hrest := ih hunresolved.2 { h with journal := h.journal ++ [.skipped c.skip] }
    rw [listAll_cons, runAll_cons, hjudge]
    simpa [skips] using hrest

end Comparison

/-- If no compared parameter has a token, a walk does nothing but skip. It asks no schema and no
policy. -/
theorem unresolved_parameters_are_skipped (ctx : Context) (statement : Statement)
    (hunresolved : ∀ c ∈ statement.comparisons [], ctx.actual? c.parameter = none) :
    (∀ (m : Type → Type) [Monad m] [LawfulMonad m] (obs : Observer m),
      (statement.walk ctx obs []).run = do
        (statement.comparisons []).forM fun c => obs.skipped ⟨c.parameter, c.path.render⟩
        return .ok ()) ∧
    ∀ (report : Mismatch → HostM Ruling) (h : Host),
      let skips : Journal := (statement.comparisons []).map fun c =>
        .skipped ⟨c.parameter, c.path.render⟩
      statement.check ctx report h =
        ((.ok (.ok ()), skips), { h with journal := h.journal ++ skips }) ∧
      (statement.checkListing ctx report h).1 = .ok (.ok (), []) ∧
      skips.log = (statement.comparisons []).map fun c =>
        ⟨.debug, Skip.logTarget, "skipping parameter \"" ++ c.parameter ++ "\" compared with "
          ++ c.path.render ++ ": type unresolved"⟩ := by
  refine ⟨fun m _ _ obs => ?_, fun report h => ?_⟩
  · rw [Statement.walk_eq, Comparison.verifyAll_of_unresolved obs hunresolved]
    simp [Comparison.skip]
  · intro skips
    have hskips : Comparison.skips (statement.comparisons []) = skips := rfl
    obtain ⟨hlist, hrun⟩ := Comparison.listAll_of_unresolved hunresolved report [] h
    rw [hskips] at hlist hrun
    refine ⟨?_, ?_, ?_⟩
    · simp [Statement.check_eq, hrun]
    · rw [Statement.checkListing_eq, hlist]
    · rw [Journal.log, List.filterMap_map, ← List.filterMap_eq_map]
      rfl

def oddPaths : Statement :=
  let inner : Statement := ⟨[], none, some (.compare (.term (.path ⟨"o", none, .state⟩)) .eq
    (.term (.parameter "whole")))⟩
  ⟨[⟨"o", "Order"⟩],
    some (.and [
      .compare (.term (.path ⟨"p", some "total", .state⟩)) .eq (.term (.parameter "total")),
      .compare (.term (.parameter "items")) .ne (.term (.path ⟨"o", some "items", .collection⟩)),
      .compare (.quantified .all inner) .eq (.subselect inner)]),
    some (.compare (.term (.literal .null)) .lt (.subselect inner))⟩

theorem oddPaths_skipped_without_tokens :
    let ctx : Context :=
      { schema := Schema.empty
        parameters := Parameters.ofList [⟨":total", none, some .null⟩, ⟨"items", none, none⟩] }
    let skips : Journal := [.skipped ⟨"total", "p.total"⟩, .skipped ⟨"items", "o.items"⟩,
      .skipped ⟨"whole", "o"⟩]
    (∀ c ∈ oddPaths.comparisons [], ctx.actual? c.parameter = none) ∧
      oddPaths.check ctx (Policy.report (fun _ => pure ()) .abort) {} =
        ((.ok (.ok ()), skips), { journal := skips }) := by
  intro ctx skips
  have hunresolved : ∀ c ∈ oddPaths.comparisons [], ctx.actual? c.parameter = none := by
    decide +kernel
  refine ⟨hunresolved, ?_⟩
  rw [((unresolved_parameters_are_skipped ctx oddPaths hunresolved).2 _ {}).1]
  rfl

/-! ## One parameter among others -/

namespace Comparison

variable {ctx ctx' : Context} {cs : List Comparison}

theorem filter_mismatches (hpassed : verdict ctx cs = .ok ()) (keep : String → Bool) :
    (mismatches ctx cs).filter (keep ·.parameter) =
      mismatches ctx (cs.filter (keep ·.parameter)) := by
  induction cs with
  | nil => rfl
  | cons c cs ih =>
    rw [verdict] at hpassed
    cases hjudge : c.judge ctx with
    | unresolved | compatible =>
      rw [hjudge] at hpassed
      cases hkeep : keep c.parameter <;> simp [mismatches, hjudge, hkeep, ih hpassed]
    | incompatible m =>
      rw [hjudge] at hpassed
      obtain ⟨_, _, _, _, _, rfl⟩ := judge_eq_incompatible_iff.mp hjudge
      cases hkeep : keep c.parameter <;> simp [mismatches, hjudge, hkeep, ih hpassed]
    | defective d =>
      rw [hjudge] at hpassed
      cases hpassed

theorem mismatches_filter_of_unresolved {name : String} (hnone : ctx.actual? name = none) :
    mismatches ctx (cs.filter (·.parameter != name)) = mismatches ctx cs := by
  induction cs with
  | nil => rfl
  | cons c cs ih =>
    by_cases hname : c.parameter = name
    · have hjudge : c.judge ctx = .unresolved := by
        rw [judge_eq_unresolved_iff, hname, hnone]
      simp [mismatches, hname, hjudge, ih]
    · simp [mismatches, hname, ih]

theorem verdict_eq_ok_of_unresolved {name : String} (hpassed : verdict ctx cs = .ok ())
    (hsame : ∀ c : Comparison, c.parameter ≠ name → c.judge ctx = c.judge ctx')
    (hnone : ctx'.actual? name = none) : verdict ctx' cs = .ok () := by
  rw [verdict_eq_ok_iff] at hpassed ⊢
  intro c hc d hjudge
  by_cases hname : c.parameter = name
  · rw [judge_eq_unresolved_iff.mpr (hname ▸ hnone)] at hjudge
    cases hjudge
  · rw [← hsame c hname] at hjudge
    exact hpassed c hc d hjudge

end Comparison

/-- A parameter concerns its own mismatches only, as long as the check passes. -/
theorem parameter_concerns_own_mismatches (schema : Metadata) (infer : Value → TypeToken)
    (statement : Statement) (name : String) (first second : ParameterStore)
    (hagree : ∀ other, other ≠ name → first.find? other = second.find? other)
    (react : Sink → HostM Unit) (recipient : Recipient)
    (hreturns : ∀ sink, recipient = .sink sink →
      ∀ h, ∃ h', (react sink).run.run h = (.ok (), h')) (h h' : Host) :
    ∃ (r r' : Except Failure Unit) (told told' : List Mismatch),
      statement.Forwards ⟨schema, first, infer⟩ react recipient h r told ∧
      statement.Forwards ⟨schema, second, infer⟩ react recipient h' r' told' ∧
      (r = .ok () → r' = .ok () →
        told.filter (·.parameter != name) = told'.filter (·.parameter != name)) ∧
      (r = .ok () → (∀ p, second.find? name = some p →
          p.declared = none ∧ (p.value = none ∨ p.value = some .null)) →
        r' = .ok () ∧ told' = told.filter (·.parameter != name)) := by
  let ctx : Context := ⟨schema, first, infer⟩
  let ctx' : Context := ⟨schema, second, infer⟩
  have hsame : ∀ c : Comparison, c.parameter ≠ name → c.judge ctx = c.judge ctx' := by
    intro c hother
    have hactual : ctx.actual? c.parameter = ctx'.actual? c.parameter :=
      @Context.actual?_congr ctx ctx' rfl rfl _ (hagree c.parameter hother)
    exact Comparison.judge_congr hactual rfl
  -- The filters leave the same comparisons of both checks, and these are judged alike.
  have hothers : Comparison.mismatches ctx
      ((statement.comparisons []).filter (·.parameter != name)) =
        Comparison.mismatches ctx' ((statement.comparisons []).filter (·.parameter != name)) := by
    apply Comparison.mismatches_congr
    intro c hc
    exact hsame c (by simpa using (List.mem_filter.mp hc).2)
  refine ⟨_, _, _, _, Statement.forwards_findings ctx statement hreturns h,
    Statement.forwards_findings ctx' statement hreturns h', ?_, ?_⟩
  · intro hpassed hpassed'
    rw [Comparison.filter_mismatches hpassed (· != name),
      Comparison.filter_mismatches hpassed' (· != name), hothers]
  · intro hpassed hunbound
    have hnone : ctx'.actual? name = none := (ctx'.actual?_eq_none_iff name).mpr hunbound
    refine ⟨Comparison.verdict_eq_ok_of_unresolved hpassed hsame hnone, ?_⟩
    rw [Comparison.filter_mismatches hpassed (· != name), hothers,
      Comparison.mismatches_filter_of_unresolved hnone]

theorem total_without_type_leaves_price :
    let statement : Statement := ⟨[⟨"o", "Order"⟩],
      some (.compare (.subselect orderOfCheapItem) .eq (.term (.literal .null))), none⟩
    let second : Parameters :=
      .ofList [⟨"price", some (.column .boolean), none⟩, ⟨":total", none, some .null⟩]
    let report := Policy.report (fun _ => pure ()) (.forward (.sink ⟨0⟩))
    let notice (parameter field : String) :=
      Mismatch.notice ⟨parameter, .column .boolean, [.column .integer], field⟩
    (∀ other, other ≠ "total" →
        flagsForNumbers.parameters.find? other = second.find? other) ∧
      (statement.check flagsForNumbers report {}).1.2.deliveries =
        [(⟨0⟩, notice "total" "o.total"), (⟨0⟩, notice "price" "o.price")] ∧
      (statement.check { flagsForNumbers with parameters := second } report {}).1.1 =
        .ok (.ok ()) ∧
      (statement.check { flagsForNumbers with parameters := second } report {}).1.2.deliveries =
        [(⟨0⟩, notice "price" "o.price")] := by
  intro statement second report notice
  have hagree : ∀ other, other ≠ "total" →
      flagsForNumbers.parameters.find? other = second.find? other := by
    intro other hother
    have hname : Parameter.bareName "total" = "total" ∧ Parameter.bareName ":total" = "total" := by
      decide
    simp [flagsForNumbers, second, Parameters.ofList, Parameters.find?_bind, hname, Ne.symm hother]
  have hfound : second.find? "total" = some ⟨"total", none, some .null⟩ := by
    simp [second, Parameters.ofList, Parameters.find?_bind, Parameter.bareName, Parameter.isSigil]
  have hquiet : Quiet (pure ()) := fun h => ⟨h, [], rfl, by simp, rfl⟩
  obtain ⟨r, r', told, told', hfirst, hsecond, _, hunbound⟩ :=
    parameter_concerns_own_mismatches flagsForNumbers.schema flagsForNumbers.infer statement "total"
      flagsForNumbers.parameters second hagree (fun _ => pure ()) (.sink ⟨0⟩)
      (fun _ _ h => ⟨h, rfl⟩) {} {}
  have hdelivered : (statement.check flagsForNumbers report {}).1.2.deliveries =
      [(⟨0⟩, notice "total" "o.total"), (⟨0⟩, notice "price" "o.price")] := by
    decide +kernel
  have htold : told = [(notice "total" "o.total").mismatch,
      (notice "price" "o.price").mismatch] := by
    have hnotices := (hfirst.deliveries ⟨0⟩ rfl hquiet).symm.trans hdelivered
    simpa [Function.comp_def, Mismatch.notice] using congrArg (List.map (·.2.mismatch)) hnotices
  have hpassed : r = .ok () := Except.ok.inj (hfirst.result.symm.trans rfl)
  obtain ⟨rfl, rfl⟩ := hunbound hpassed (by simp [hfound])
  refine ⟨hagree, hdelivered, hsecond.result, (hsecond.deliveries ⟨0⟩ rfl hquiet).trans ?_⟩
  rw [htold]
  rfl

end FilterTyping
