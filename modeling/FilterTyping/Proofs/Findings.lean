import FilterTyping.Delivery.Policy
import FilterTyping.Proofs.Listing

/-!
# What a check finds

The mismatches and the defect that a list of comparisons holds, whatever policy the check runs
under, and the steps by which a check on a host comes upon them.
-/

namespace FilterTyping

/-! ## Findings -/

namespace Comparison

/-- The mismatches, up to the first comparison that cannot be judged. -/
def mismatches (ctx : Context) : List Comparison → List Mismatch
  | [] => []
  | c :: cs =>
    match c.judge ctx with
    | .unresolved | .compatible => mismatches ctx cs
    | .incompatible m => m :: mismatches ctx cs
    | .defective _ => []

/-- The result of a check that lets every mismatch pass. -/
def verdict (ctx : Context) : List Comparison → Except Failure Unit
  | [] => .ok ()
  | c :: cs =>
    match c.judge ctx with
    | .unresolved | .compatible | .incompatible _ => verdict ctx cs
    | .defective d => .error (.defect d)

def events (ctx : Context) (tell : Mismatch → Event) : List Comparison → Journal
  | [] => []
  | c :: cs =>
    match c.judge ctx with
    | .unresolved => .skipped c.skip :: events ctx tell cs
    | .compatible => events ctx tell cs
    | .incompatible m => tell m :: events ctx tell cs
    | .defective _ => []

theorem verdict_eq_ok_or_defect (ctx : Context) (cs : List Comparison) :
    verdict ctx cs = .ok () ∨ ∃ d, verdict ctx cs = .error (.defect d) := by
  induction cs with
  | nil => exact .inl rfl
  | cons c cs ih =>
    rw [verdict]
    split
    · exact ih
    · exact ih
    · exact ih
    · exact .inr ⟨_, rfl⟩

theorem verdict_eq_ok_iff (ctx : Context) (cs : List Comparison) :
    verdict ctx cs = .ok () ↔ ∀ c ∈ cs, ∀ d, c.judge ctx ≠ .defective d := by
  induction cs with
  | nil => simp [verdict]
  | cons c cs ih =>
    rw [verdict, List.forall_mem_cons]
    cases hj : c.judge ctx <;> simp [ih]

theorem filterMap_events {β : Type} (ctx : Context) (tell : Mismatch → Event)
    (view : Event → Option β) (hskip : ∀ skip, view (.skipped skip) = none)
    (cs : List Comparison) :
    (events ctx tell cs).filterMap view = (mismatches ctx cs).filterMap (view ∘ tell) := by
  induction cs with
  | nil => rfl
  | cons c cs ih =>
    rw [events, mismatches]
    cases c.judge ctx <;> simp [List.filterMap_cons, hskip, ih]

/-! ## Steps of a check -/

def runAll (ctx : Context) (report : Mismatch → HostM Ruling) (cs : List Comparison) (h : Host) :
    Except Panic (Except Failure Unit) × Host :=
  (verifyAll ctx (.ofReport report) cs).run.run.run h

variable (ctx : Context) {report : Mismatch → HostM Ruling}

theorem runAll_nil (h : Host) : runAll ctx report [] h = (.ok (.ok ()), h) := rfl

/-- All that one comparison can do to a check. -/
theorem runAll_cons (c : Comparison) (cs : List Comparison) (h : Host) :
    runAll ctx report (c :: cs) h =
      match c.judge ctx with
      | .unresolved =>
        runAll ctx report cs { h with journal := h.journal ++ [.skipped c.skip] }
      | .compatible => runAll ctx report cs h
      | .incompatible m =>
        match (report m).run.run h with
        | (.ok .proceed, h') => runAll ctx report cs h'
        | (.ok (.abort m'), h') => (.ok (.error (.mismatch m')), h')
        | (.error p, h') => (.error p, h')
      | .defective d => (.ok (.error (.defect d)), h) := by
  cases hj : c.judge ctx with
  | unresolved | compatible | defective d =>
    simp only [runAll, verifyAll, verify, hj]
    rfl
  | incompatible m =>
    -- The only step that depends on the host: the report may do anything to it.
    simp only [runAll, verifyAll, verify, hj, Observer.ofReport, ExceptT.run_bind, ExceptT.run_lift]
    simp only [ExceptT.run, StateT.run, ExceptT.mk, Functor.map, ExceptT.map, bind, StateT.bind]
    rcases report m h with ⟨_ | _ | _, h'⟩ <;> rfl

theorem runAll_of_proceed (tell : Mismatch → Event)
    (hpass : ∀ m h, (report m).run.run h =
      (.ok .proceed, { h with journal := h.journal ++ [tell m] }))
    (cs : List Comparison) (h : Host) :
    runAll ctx report cs h =
      (.ok (verdict ctx cs), { h with journal := h.journal ++ events ctx tell cs }) := by
  induction cs generalizing h with
  | nil => simp [runAll_nil, verdict, events]
  | cons c cs ih =>
    rw [runAll_cons, verdict, events]
    cases c.judge ctx <;> simp [hpass, ih]

end Comparison

/-! ## Contexts that judge alike -/

section Alike

variable {m : Type → Type} [Monad m] {ctx ctx' : Context}

theorem Comparison.verifyAll_congr (obs : Observer m) {cs : List Comparison}
    (hsame : ∀ c ∈ cs, c.judge ctx = c.judge ctx') :
    verifyAll ctx obs cs = verifyAll ctx' obs cs := by
  induction cs with
  | nil => rfl
  | cons c cs ih =>
    rw [List.forall_mem_cons] at hsame
    rw [verifyAll, verifyAll, verify, verify, hsame.1, ih hsame.2]

theorem Comparison.mismatches_congr {cs : List Comparison}
    (hsame : ∀ c ∈ cs, c.judge ctx = c.judge ctx') : mismatches ctx cs = mismatches ctx' cs := by
  induction cs with
  | nil => rfl
  | cons c cs ih =>
    rw [List.forall_mem_cons] at hsame
    rw [mismatches, mismatches, hsame.1, ih hsame.2]

theorem Statement.walk_eq_of_judge [LawfulMonad m] (obs : Observer m) {statement : Statement}
    {outer : Scope} (hsame : ∀ c ∈ statement.comparisons outer, c.judge ctx = c.judge ctx') :
    statement.walk ctx obs outer = statement.walk ctx' obs outer := by
  rw [Statement.walk_eq, Statement.walk_eq, Comparison.verifyAll_congr obs hsame]

theorem Statement.check_eq_of_judge (report : Mismatch → HostM Ruling) {statement : Statement}
    (hsame : ∀ c ∈ statement.comparisons [], c.judge ctx = c.judge ctx') (h : Host) :
    statement.check ctx report h = statement.check ctx' report h := by
  rw [Statement.check, Statement.check, Statement.walk_eq_of_judge _ hsame]

end Alike

/-! ## Checks -/

theorem Statement.check_eq (ctx : Context) (report : Mismatch → HostM Ruling)
    (statement : Statement) (h : Host) :
    statement.check ctx report h =
      let (result, h') := Comparison.runAll ctx report (statement.comparisons []) h
      ((result, h'.journal.drop h.journal.length), h') := by
  rw [Statement.check, Host.observe, Statement.walk_eq]
  rfl

end FilterTyping
