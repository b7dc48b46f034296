import FilterTyping.Proofs.Findings
import FilterTyping.Settings

/-!
# The delivery mode does not change what a check finds

A check that forwards mismatches to a sink, one that logs them and one that ends at the first are
three runs over the same findings.
-/

namespace FilterTyping

/-- The result of a check that `next` ends, or that goes on to the result `r` if nothing does. -/
def endedBy (next : Option Mismatch) (r : Except Failure Unit) : Except Failure Unit :=
  next.elim r fun m => .error (.mismatch m)

namespace Comparison

variable (ctx : Context)

theorem runAll_abort (react : Sink → HostM Unit) (cs : List Comparison) (h : Host) :
    ∃ j : Journal, runAll ctx (Policy.report react .abort) cs h =
        (.ok (endedBy (mismatches ctx cs).head? (verdict ctx cs)),
          { h with journal := h.journal ++ j }) ∧
      j.deliveries = [] := by
  induction cs generalizing h with
  | nil => exact ⟨[], by simp [runAll_nil, mismatches, verdict, endedBy], rfl⟩
  | cons c cs ih =>
    rw [runAll_cons, mismatches, verdict]
    cases c.judge ctx with
    | unresolved =>
      obtain ⟨j, hrun, hj⟩ := ih { h with journal := h.journal ++ [.skipped c.skip] }
      refine ⟨.skipped c.skip :: j, ?_, ?_⟩
      · simp [hrun]
      · simpa [Journal.deliveries] using hj
    | compatible => exact ih h
    | incompatible m => exact ⟨[], by simp [Policy.run_report_abort, endedBy], rfl⟩
    | defective d => exact ⟨[], by simp [endedBy], rfl⟩

theorem deliveries_events (sink : Sink) (cs : List Comparison) :
    (events ctx (fun m => .delivered sink m.notice) cs).deliveries =
      (mismatches ctx cs).map fun m => (sink, m.notice) := by
  rw [Journal.deliveries, filterMap_events _ _ _ (fun _ => rfl), ← List.filterMap_eq_map]
  rfl

theorem errors_events (target : String) (cs : List Comparison) :
    (events ctx (fun m => .logged (m.notice.logEntry target)) cs).log.filter (·.level = .error) =
      (mismatches ctx cs).map fun m => m.notice.logEntry target := by
  rw [Journal.log, List.filter_filterMap, filterMap_events _ _ _ (fun _ => rfl),
    ← List.filterMap_eq_map]
  rfl

theorem deliveries_events_logged (target : String) (cs : List Comparison) :
    (events ctx (fun m => .logged (m.notice.logEntry target)) cs).deliveries = [] := by
  rw [Journal.deliveries, filterMap_events _ _ _ (fun _ => rfl), List.filterMap_eq_nil_iff]
  intro m _
  rfl

end Comparison

/-- Of three checks of one statement the first forwards the mismatches `D`, the second ends at the
first of them, and the third logs each of them as an error. -/
theorem delivery_mode_keeps_findings (ctx : Context) (statement : Statement) (sink : Sink)
    (react : Sink → HostM Unit) (target : String) (h : Host) :
    let forwarding := (statement.check ctx
      (Policy.report (fun _ => pure ()) (.forward (.sink sink))) h).1
    let aborting := (statement.check ctx (Policy.report react .abort) h).1
    let logging := (statement.check ctx
      (Policy.report react (Settings.policy { mode := .log, logTarget := target })) h).1
    let D := Comparison.mismatches ctx (statement.comparisons [])
    let r := Comparison.verdict ctx (statement.comparisons [])
    (forwarding.1 = .ok r ∧ forwarding.2.deliveries = D.map fun m => (sink, m.notice)) ∧
    (r = .ok () ∨ ∃ d, r = .error (.defect d)) ∧
    (r = .ok () ↔ ∀ c ∈ statement.comparisons [], ∀ d, c.judge ctx ≠ .defective d) ∧
    (aborting.1 = .ok (endedBy D.head? r) ∧ aborting.2.deliveries = []) ∧
    (logging.1 = .ok r ∧ logging.2.deliveries = [] ∧
      logging.2.log.filter (·.level = .error) = D.map fun m =>
        ⟨.error, target,
          m.message ++ " [parameter=" ++ m.parameter ++ ", field=" ++ m.field ++ "]"⟩) := by
  intro forwarding aborting logging D r
  have hforward := Comparison.runAll_of_proceed ctx
    (fun m => .delivered sink m.notice) (Policy.run_report_recording · · sink)
    (statement.comparisons []) h
  have hlog := Comparison.runAll_of_proceed ctx
    (fun m => .logged (m.notice.logEntry target)) (Policy.run_report_log react · · target)
    (statement.comparisons []) h
  -- The forwarding and the logging check pass over every mismatch, the aborting one over none.
  obtain ⟨j, habort, hj⟩ := Comparison.runAll_abort ctx react (statement.comparisons []) h
  refine ⟨⟨?_, ?_⟩, Comparison.verdict_eq_ok_or_defect _ _, Comparison.verdict_eq_ok_iff _ _,
    ⟨?_, ?_⟩, ?_, ?_, ?_⟩
  · simp [forwarding, r, Statement.check_eq, hforward]
  · simp [forwarding, D, Statement.check_eq, hforward, Comparison.deliveries_events]
  · simp [aborting, D, r, Statement.check_eq, habort]
  · simp [aborting, Statement.check_eq, habort, hj]
  · simp [logging, r, Statement.check_eq, Settings.policy, hlog]
  · simp [logging, Statement.check_eq, Settings.policy, hlog, Comparison.deliveries_events_logged]
  · simp only [logging, Statement.check_eq, Settings.policy, hlog, List.drop_left]
    exact Comparison.errors_events ctx target _

theorem nestedStatement_found_alike :
    let low : Mismatch := ⟨"low", .column .boolean, [.column .integer], "o.price"⟩
    let total : Mismatch := ⟨"total", .column .boolean, [.column .integer], "o.price"⟩
    let missing : Except Failure Unit :=
      .error (.defect (.schema (.unknownField "Order" "sum")))
    let check (policy : Policy) :=
      (nestedStatement.check flagsForPrices (Policy.report (fun _ => pure ()) policy) {}).1
    let logging := check (Settings.policy { mode := .log, logTarget := "app" })
    (Comparison.mismatches flagsForPrices (nestedStatement.comparisons []) = [low, total] ∧
        Comparison.verdict flagsForPrices (nestedStatement.comparisons []) = missing) ∧
      ((check (.forward (.sink ⟨0⟩))).1 = .ok missing ∧
        (check (.forward (.sink ⟨0⟩))).2.deliveries = [(⟨0⟩, low.notice), (⟨0⟩, total.notice)]) ∧
      ((check .abort).1 = .ok (.error (.mismatch low)) ∧ (check .abort).2.deliveries = []) ∧
      logging.1 = .ok missing ∧
      (logging.2.log.filter (·.level = .error)).map (·.target) = ["app", "app"] := by
  intro low total missing check logging
  have hmismatches : Comparison.mismatches flagsForPrices (nestedStatement.comparisons []) =
      [low, total] := rfl
  have hverdict : Comparison.verdict flagsForPrices (nestedStatement.comparisons []) = missing :=
    rfl
  obtain ⟨⟨hforwarded, hdeliveries⟩, -, -, ⟨haborted, hnone⟩, hlogged, -, hlog⟩ :=
    delivery_mode_keeps_findings flagsForPrices nestedStatement ⟨0⟩ (fun _ => pure ()) "app" {}
  rw [hmismatches] at hdeliveries haborted hlog
  rw [hverdict] at hforwarded haborted hlogged
  refine ⟨⟨hmismatches, hverdict⟩, ⟨hforwarded, hdeliveries⟩, ⟨haborted, hnone⟩, hlogged, ?_⟩
  rw [hlog]
  rfl

end FilterTyping
