import FilterTyping.Proofs.DeliveryModes

/-!
# Reports of a check

The mismatches that a check puts before its policy, in order, whatever becomes of them.
-/

namespace FilterTyping

def Observer.listing (report : Mismatch → HostM Ruling) :
    Observer (StateT (List Mismatch) HostM) where
  skipped skip := StateT.lift (Host.record (.skipped skip))
  report mismatch listed := do
    let ruling ← report mismatch
    return (ruling, listed ++ [mismatch])

def Statement.checkListing (ctx : Context) (report : Mismatch → HostM Ruling)
    (statement : Statement) (h : Host) :
    Except Panic (Except Failure Unit × List Mismatch) × Host :=
  ((statement.walk ctx (.listing report) []).run.run []).run.run h

namespace Comparison

variable (ctx : Context) {report : Mismatch → HostM Ruling}

def listAll (report : Mismatch → HostM Ruling) (cs : List Comparison) (listed : List Mismatch)
    (h : Host) : Except Panic (Except Failure Unit × List Mismatch) × Host :=
  ((verifyAll ctx (.listing report) cs).run.run listed).run.run h

theorem listAll_nil (listed : List Mismatch) (h : Host) :
    listAll ctx report [] listed h = (.ok (.ok (), listed), h) := rfl

theorem listAll_cons (c : Comparison) (cs : List Comparison) (listed : List Mismatch) (h : Host) :
    listAll ctx report (c :: cs) listed h =
      match c.judge ctx with
      | .unresolved =>
        listAll ctx report cs listed { h with journal := h.journal ++ [.skipped c.skip] }
      | .compatible => listAll ctx report cs listed h
      | .incompatible m =>
        match (report m).run.run h with
        | (.ok .proceed, h') => listAll ctx report cs (listed ++ [m]) h'
        | (.ok (.abort m'), h') => (.ok (.error (.mismatch m'), listed ++ [m]), h')
        | (.error p, h') => (.error p, h')
      | .defective d => (.ok (.error (.defect d), listed), h) := by
  cases hj : c.judge ctx with
  | unresolved | compatible | defective d =>
    simp only [listAll, verifyAll, verify, hj]
    rfl
  | incompatible m =>
    have hreport : ((Observer.listing report).report m).run listed = do
        let ruling ← report m
        return (ruling, listed ++ [m]) := rfl
    simp only [listAll, verifyAll, verify, hj, ExceptT.run_bind, ExceptT.run_lift, StateT.run_bind,
      map_eq_pure_bind]
    simp only [hreport, HostM.run_bind]
    rcases (report m).run.run h with ⟨_ | _ | _, h'⟩ <;> rfl

theorem listAll_of_decides (stops : Bool)
    (hdecides : ∀ m h, ∃ h', (report m).run.run h =
      (.ok (if stops then .abort m else .proceed), h'))
    (cs : List Comparison) (listed : List Mismatch) (h : Host) :
    ∃ h', let found := mismatches ctx cs
      let result := if stops then endedBy found.head? (verdict ctx cs) else verdict ctx cs
      let reported := if stops then found.take 1 else found
      listAll ctx report cs listed h = (.ok (result, listed ++ reported), h') ∧
        runAll ctx report cs h = (.ok result, h') := by
  induction cs generalizing listed h with
  | nil => exact ⟨h, by simp [listAll_nil, mismatches, verdict, endedBy], by
      simp [runAll_nil, mismatches, verdict, endedBy]⟩
  | cons c cs ih =>
    rw [mismatches, verdict, listAll_cons, runAll_cons]
    cases c.judge ctx with
    | unresolved => exact ih listed { h with journal := h.journal ++ [.skipped c.skip] }
    | compatible => exact ih listed h
    | incompatible m =>
      obtain ⟨h₁, hreport⟩ := hdecides m h
      cases stops with
      | true =>
        refine ⟨h₁, ?_, ?_⟩
        · simp [hreport, endedBy]
        · simp [hreport, endedBy]
      | false =>
        obtain ⟨h', hlist, hrun⟩ := ih (listed ++ [m]) h₁
        refine ⟨h', ?_, ?_⟩
        · simpa [hreport] using hlist
        · simpa [hreport] using hrun
    | defective d => exact ⟨h, by simp [endedBy], by simp [endedBy]⟩

end Comparison

theorem Statement.checkListing_eq (ctx : Context) (report : Mismatch → HostM Ruling)
    (statement : Statement) (h : Host) :
    statement.checkListing ctx report h =
      Comparison.listAll ctx report (statement.comparisons []) [] h := by
  rw [Statement.checkListing, Statement.walk_eq]
  rfl

theorem Policy.forward_proceeds {recipient : Recipient} {react : Sink → HostM Unit}
    (hreturns : ∀ sink, recipient = .sink sink →
      ∀ h, ∃ h', (react sink).run.run h = (.ok (), h')) (m : Mismatch) (h : Host) :
    ∃ h', (report react (.forward recipient) m).run.run h = (.ok .proceed, h') := by
  cases recipient with
  | log target => exact ⟨_, run_report_log react m h target⟩
  | sink sink =>
    obtain ⟨h', hreact⟩ := hreturns sink rfl
      { h with journal := h.journal ++ [.delivered sink m.notice] }
    refine ⟨h', ?_⟩
    rw [run_report_forward, hreact]

theorem Policy.decides {policy : Policy} (hpolicy : policy ≠ .registered)
    {react : Sink → HostM Unit}
    (hreturns : ∀ sink, policy = .forward (.sink sink) →
      ∀ h, ∃ h', (react sink).run.run h = (.ok (), h')) :
    ∃ stops : Bool, ∀ m h, ∃ h', (report react policy m).run.run h =
      (.ok (if stops then .abort m else .proceed), h') := by
  match policy with
  | .abort => exact ⟨true, fun m h => ⟨h, rfl⟩⟩
  | .forward recipient =>
    refine ⟨false, forward_proceeds fun sink hsink => hreturns sink ?_⟩
    rw [hsink]
  | .registered => exact absurd rfl hpolicy

/-! ## Forwarding checks -/

/-- The sink comes back from being told. It may add to the journal, but tells no sink itself. -/
def Quiet (reaction : HostM Unit) : Prop :=
  ∀ h, ∃ h' j, reaction.run.run h = (.ok (), h') ∧ h'.journal = h.journal ++ j ∧
    Journal.deliveries j = []

/-- A check that forwards to `recipient` has the result `r`, and hands on the mismatches `told`. -/
structure Statement.Forwards (ctx : Context) (statement : Statement) (react : Sink → HostM Unit)
    (recipient : Recipient) (h : Host) (r : Except Failure Unit) (told : List Mismatch) :
    Prop where
  result : (statement.check ctx (Policy.report react (.forward recipient)) h).1.1 = .ok r
  reports : (statement.checkListing ctx (Policy.report react (.forward recipient)) h).1 =
    .ok (r, told)
  deliveries (sink : Sink) (hsink : recipient = .sink sink) (hquiet : Quiet (react sink)) :
    (statement.check ctx (Policy.report react (.forward recipient)) h).1.2.deliveries =
      told.map fun m => (sink, m.notice)
  errors (target : String) (htarget : recipient = .log target) :
    (statement.check ctx (Policy.report react (.forward recipient)) h).1.2.log.filter
      (·.level = .error) = told.map fun m => m.notice.logEntry target

theorem Comparison.runAll_quiet (ctx : Context) {react : Sink → HostM Unit} {sink : Sink}
    (hquiet : Quiet (react sink)) (cs : List Comparison) (h : Host) :
    ∃ h' j, runAll ctx (Policy.report react (.forward (.sink sink))) cs h =
        (.ok (verdict ctx cs), h') ∧
      h'.journal = h.journal ++ j ∧
      Journal.deliveries j = (mismatches ctx cs).map fun m => (sink, m.notice) := by
  induction cs generalizing h with
  | nil => exact ⟨h, [], runAll_nil ctx h, by simp, rfl⟩
  | cons c cs ih =>
    rw [runAll_cons, verdict, mismatches]
    cases c.judge ctx with
    | unresolved =>
      obtain ⟨h', j, hrun, hjournal, hj⟩ :=
        ih { h with journal := h.journal ++ [.skipped c.skip] }
      refine ⟨h', .skipped c.skip :: j, hrun, by simp [hjournal], ?_⟩
      simpa [Journal.deliveries] using hj
    | compatible => exact ih h
    | incompatible m =>
      obtain ⟨h₁, j₁, hreact, hjournal₁, hj₁⟩ :=
        hquiet { h with journal := h.journal ++ [.delivered sink m.notice] }
      obtain ⟨h', j, hrun, hjournal, hj⟩ := ih h₁
      refine ⟨h', .delivered sink m.notice :: (j₁ ++ j), ?_, ?_, ?_⟩
      · simp [Policy.run_report_forward, hreact, hrun]
      · simp [hjournal, hjournal₁]
      · rw [List.map_cons, ← hj, ← List.nil_append (Journal.deliveries j), ← hj₁,
          ← Journal.deliveries_append]
        rfl
    | defective d => exact ⟨h, [], rfl, by simp, rfl⟩

/-- What a forwarding check finds does not depend on the recipient. -/
theorem Statement.forwards_findings (ctx : Context) (statement : Statement)
    {react : Sink → HostM Unit} {recipient : Recipient}
    (hreturns : ∀ sink, recipient = .sink sink →
      ∀ h, ∃ h', (react sink).run.run h = (.ok (), h')) (h : Host) :
    statement.Forwards ctx react recipient h (Comparison.verdict ctx (statement.comparisons []))
      (Comparison.mismatches ctx (statement.comparisons [])) := by
  obtain ⟨h', hlist, hrun⟩ := Comparison.listAll_of_decides ctx false
    (Policy.forward_proceeds hreturns) (statement.comparisons []) [] h
  refine ⟨?_, ?_, ?_, ?_⟩
  · simpa [Statement.check_eq] using congrArg Prod.fst hrun
  · simpa [Statement.checkListing_eq] using congrArg Prod.fst hlist
  · rintro sink rfl hquiet
    obtain ⟨h', j, hrun, hjournal, hj⟩ :=
      Comparison.runAll_quiet ctx hquiet (statement.comparisons []) h
    simpa [Statement.check_eq, hrun, hjournal] using hj
  · rintro target rfl
    have hrun := Comparison.runAll_of_proceed ctx (fun m => .logged (m.notice.logEntry target))
      (Policy.run_report_log react · · target) (statement.comparisons []) h
    simpa [Statement.check_eq, hrun] using
      Comparison.errors_events ctx target (statement.comparisons [])

end FilterTyping
