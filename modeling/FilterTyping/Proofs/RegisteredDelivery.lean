import FilterTyping.Proofs.DeliveryModes
import FilterTyping.Session.Check

/-!
# Delivery to the registered sink

Under the registered policy the registration is read anew at every report, and a sink that is told
of a mismatch may change it. The check delivers as long as it finds a live sink, and the first
mismatch that finds none ends it.
-/

namespace FilterTyping

/-! ## Notes on the registration -/

/-- Decides as `report` does, and notes the registration that each report finds. -/
def Observer.noting (report : Mismatch → HostM Ruling) :
    Observer (StateT (List Registration) HostM) where
  skipped skip := StateT.lift (Host.record (.skipped skip))
  report m notes := do
    let h ← get
    let ruling ← report m
    return (ruling, notes ++ [h.registration])

def Statement.checkNoting (ctx : Context) (report : Mismatch → HostM Ruling)
    (statement : Statement) (h : Host) :
    Except Panic (Except Failure Unit × List Registration) × Host :=
  ((statement.walk ctx (.noting report) []).run.run []).run.run h

namespace Comparison

variable (ctx : Context)

def noteAll (report : Mismatch → HostM Ruling) (cs : List Comparison) (notes : List Registration)
    (h : Host) : Except Panic (Except Failure Unit × List Registration) × Host :=
  ((verifyAll ctx (.noting report) cs).run.run notes).run.run h

theorem noteAll_nil (report : Mismatch → HostM Ruling) (notes : List Registration) (h : Host) :
    noteAll ctx report [] notes h = (.ok (.ok (), notes), h) := rfl

theorem noteAll_cons (report : Mismatch → HostM Ruling) (c : Comparison) (cs : List Comparison)
    (notes : List Registration) (h : Host) :
    noteAll ctx report (c :: cs) notes h =
      match c.judge ctx with
      | .unresolved =>
        noteAll ctx report cs notes { h with journal := h.journal ++ [.skipped c.skip] }
      | .compatible => noteAll ctx report cs notes h
      | .incompatible m =>
        match (report m).run.run h with
        | (.ok .proceed, h') => noteAll ctx report cs (notes ++ [h.registration]) h'
        | (.ok (.abort m'), h') => (.ok (.error (.mismatch m'), notes ++ [h.registration]), h')
        | (.error p, h') => (.error p, h')
      | .defective d => (.ok (.error (.defect d), notes), h) := by
  cases hj : c.judge ctx with
  | unresolved | compatible | defective d =>
    simp only [noteAll, verifyAll, verify, hj]
    rfl
  | incompatible m =>
    have hreport : ((Observer.noting report).report m).run notes = do
        let h ← get
        let ruling ← report m
        return (ruling, notes ++ [h.registration]) := rfl
    simp only [noteAll, verifyAll, verify, hj, ExceptT.run_bind, ExceptT.run_lift, StateT.run_bind,
      map_eq_pure_bind]
    simp only [hreport, HostM.run_bind, HostM.run_get]
    rcases (report m).run.run h with ⟨_ | _ | _, h'⟩ <;> rfl

end Comparison

theorem Statement.checkNoting_eq (ctx : Context) (report : Mismatch → HostM Ruling)
    (statement : Statement) (h : Host) :
    statement.checkNoting ctx report h =
      Comparison.noteAll ctx report (statement.comparisons []) [] h := by
  rw [Statement.checkNoting, Statement.walk_eq]
  rfl

/-! ## Relays -/

structure Handover where
  sink : Sink
  notice : Notice
  told : List (Sink × Notice)

namespace Handover

def delivery (d : Handover) : Sink × Notice :=
  (d.sink, d.notice)

def deliveries (d : Handover) : List (Sink × Notice) :=
  d.delivery :: d.told

end Handover

/-- The sink comes back from being told, and takes no delivery out of the journal. -/
def Returns (reaction : HostM Unit) : Prop :=
  ∀ h, ∃ h' told, reaction.run.run h = (.ok (), h') ∧
    h'.journal.deliveries = h.journal.deliveries ++ told

theorem Reaction.returns {reaction : Reaction} (hpanic : reaction ≠ .panic) :
    Returns reaction.run := by
  intro h
  cases reaction with
  | none => exact ⟨h, [], rfl, by simp⟩
  | clearRegistration =>
    exact ⟨h.onRegistration (·.write Option.none), [], rfl, by simp [Host.onRegistration]⟩
  | panic => exact absurd rfl hpanic

def Leaves (reaction : HostM Unit) (told : List (Sink × Notice)) (next : Registration) : Prop :=
  ∃ h h', reaction.run.run h = (.ok (), h') ∧
    h'.journal.deliveries = h.journal.deliveries ++ told ∧ h'.registration = next

namespace Leaves

variable {reaction : HostM Unit} {told : List (Sink × Notice)} {next : Registration}

theorem told_eq_nil (hleaves : Leaves reaction told next)
    (hquiet : ∀ h, (reaction.run.run h).2.journal.deliveries = h.journal.deliveries) :
    told = [] := by
  obtain ⟨h, h', hrun, htold, -⟩ := hleaves
  have hkept := hquiet h
  rw [hrun, htold] at hkept
  exact List.append_right_eq_self.mp hkept

theorem slot_eq_none (hleaves : Leaves reaction told next)
    (hclear : ∀ h, (reaction.run.run h).2.registration.slot = none) : next.slot = none := by
  obtain ⟨h, h', hrun, -, rfl⟩ := hleaves
  have hslot := hclear h
  rwa [hrun] at hslot

end Leaves

/-- Mismatches handed on one by one, each to the live sink that the one before it left registered.
The first that finds none ends the relay, and else its result is `r`. -/
inductive Relay (react : Sink → HostM Unit) (r : Except Failure Unit) :
    Registration → List Registration → List Mismatch → List Handover → Except Failure Unit → Prop
  | done {found : Registration} : Relay react r found [] [] [] r
  | stop {found : Registration} {m : Mismatch} {ms : List Mismatch} (hnone : found.current = none) :
    Relay react r found [found] (m :: ms) [] (.error (.mismatch m))
  | pass {found next : Registration} {sink : Sink} {told : List (Sink × Notice)} {m : Mismatch}
    {noted : List Registration} {ms : List Mismatch} {handed : List Handover}
    {result : Except Failure Unit} (hsome : found.current = some sink)
    (hleaves : Leaves (react sink) told next)
    (hrest : Relay react r (next.release sink) noted ms handed result) :
    Relay react r found (found :: noted) (m :: ms) (⟨sink, m.notice, told⟩ :: handed) result

namespace Relay

variable {react : Sink → HostM Unit} {r result : Except Failure Unit} {found : Registration}
  {noted : List Registration} {ms : List Mismatch} {handed : List Handover}

/-- The place of the first report that finds no live sink. -/
def stopIndex (noted : List Registration) : Nat :=
  noted.findIdx (·.current.isNone)

theorem length_noted (h : Relay react r found noted ms handed result) :
    noted.length = min (stopIndex noted + 1) ms.length := by
  induction h with
  | done => rfl
  | stop hnone => simp [stopIndex, List.findIdx_cons, hnone]
  | pass hsome _ _ ih =>
    simp only [stopIndex, List.findIdx_cons, hsome, List.length_cons] at ih ⊢
    simp only [Option.isNone_some, cond_false]
    omega

theorem handed_eq (h : Relay react r found noted ms handed result) :
    handed.map (·.notice) = (ms.take (stopIndex noted)).map (·.notice) ∧
      handed.map (some ·.sink) = (noted.take (stopIndex noted)).map (·.current) := by
  induction h with
  | done => exact ⟨rfl, rfl⟩
  | stop hnone => simp [stopIndex, List.findIdx_cons, hnone]
  | pass hsome _ _ ih =>
    simp only [stopIndex] at ih ⊢
    simp [List.findIdx_cons, hsome, ih]

theorem result_eq (h : Relay react r found noted ms handed result) :
    result = endedBy ms[stopIndex noted]? r := by
  induction h with
  | done => rfl
  | stop hnone => simp [stopIndex, List.findIdx_cons, hnone, endedBy]
  | pass hsome _ _ ih =>
    simp only [stopIndex] at ih ⊢
    simp [List.findIdx_cons, hsome, ih]

theorem length_eq_stopIndex (h : Relay react r found noted ms handed result)
    (hlive : ∀ found ∈ noted, found.current.isSome) : ms.length = stopIndex noted := by
  have hlen := h.length_noted
  have hstop : stopIndex noted = noted.length := by
    apply List.findIdx_eq_length_of_false
    intro found hfound
    simpa using hlive found hfound
  omega

theorem flatMap_deliveries (h : Relay react r found noted ms handed result)
    (hquiet : ∀ sink h, ((react sink).run.run h).2.journal.deliveries = h.journal.deliveries) :
    handed.flatMap (·.deliveries) = handed.map (·.delivery) := by
  induction h with
  | done | stop => rfl
  | pass _ hleaves _ ih =>
    rw [List.flatMap_cons, List.map_cons, ih, Handover.deliveries,
      hleaves.told_eq_nil (hquiet _)]
    rfl

theorem of_clearing (h : Relay react r found noted ms handed result) {sink : Sink}
    (hsome : found.current = some sink)
    (hclear : ∀ h, ((react sink).run.run h).2.registration.slot = none) :
    handed.map (·.delivery) = ((ms.take 1).map fun m => (sink, m.notice)) ∧
      result = endedBy ms[1]? r := by
  cases h with
  | done => exact ⟨rfl, rfl⟩
  | stop hnone => simp [hnone] at hsome
  | pass hlive hleaves hrest =>
    obtain rfl : _ = sink := Option.some.inj (hlive.symm.trans hsome)
    have hslot := hleaves.slot_eq_none hclear
    -- The next report, if there is one, finds the slot empty.
    cases hrest with
    | done => exact ⟨rfl, rfl⟩
    | stop => exact ⟨rfl, rfl⟩
    | pass hlive => simp [Registration.current, Registration.release, hslot] at hlive

end Relay

/-! ## Checks under the registered policy -/

namespace Comparison

variable (ctx : Context) {react : Sink → HostM Unit}

theorem noteAll_registered (hreturns : ∀ sink, Returns (react sink)) (cs : List Comparison)
    (notes : List Registration) (h : Host) :
    ∃ noted handed result h',
      noteAll ctx (Policy.report react .registered) cs notes h =
        (.ok (result, notes ++ noted), h') ∧
      runAll ctx (Policy.report react .registered) cs h = (.ok result, h') ∧
      h'.journal.deliveries = h.journal.deliveries ++ handed.flatMap (·.deliveries) ∧
      Relay react (verdict ctx cs) h.registration noted (mismatches ctx cs) handed result := by
  induction cs generalizing notes h with
  | nil => exact ⟨[], [], _, h, by simp [noteAll_nil], runAll_nil _ h, by simp, .done⟩
  | cons c cs ih =>
    rw [noteAll_cons, runAll_cons, verdict, mismatches]
    cases c.judge ctx with
    | unresolved =>
      obtain ⟨noted, handed, result, h', hnote, hrun, hdeliver, hrelay⟩ :=
        ih notes { h with journal := h.journal ++ [.skipped c.skip] }
      refine ⟨noted, handed, result, h', hnote, hrun, ?_, hrelay⟩
      simpa [Journal.deliveries] using hdeliver
    | compatible => exact ih notes h
    | incompatible m =>
      cases hfound : h.registration.current with
      | none =>
        have hreport : (Policy.report react .registered m).run.run h = (.ok (.abort m), h) :=
          Policy.run_report_unregistered hfound
        refine ⟨[h.registration], [], _, h, ?_, ?_, by simp, .stop hfound⟩
        · simp [hreport]
        · simp [hreport]
      | some sink =>
        obtain ⟨h₁, told, hreact, htold⟩ := hreturns sink (h.told sink m)
        let after := h₁.onRegistration (·.release sink)
        obtain ⟨noted, handed, result, h', hnote, hrun, hdeliver, hrelay⟩ :=
          ih (notes ++ [h.registration]) after
        have hreport : (Policy.report react .registered m).run.run h = (.ok .proceed, after) := by
          rw [Policy.run_report_registered hfound, hreact]
        refine ⟨h.registration :: noted, ⟨sink, m.notice, told⟩ :: handed, result, h', ?_, ?_, ?_,
          .pass hfound ⟨_, h₁, hreact, htold, rfl⟩ hrelay⟩
        · simp [hreport, hnote]
        · simp [hreport, hrun]
        · have hjournal : after.journal.deliveries = h₁.journal.deliveries := rfl
          rw [hdeliver, hjournal, htold]
          simp [Host.told, Journal.deliveries, Handover.deliveries, Handover.delivery]
    | defective d => exact ⟨[], [], _, h, by simp, rfl, by simp, .done⟩

theorem runAll_unregistered (cs : List Comparison) (h : Host)
    (hnone : h.registration.current = none) :
    runAll ctx (Policy.report react .registered) cs h =
      runAll ctx (Policy.report react .abort) cs h := by
  induction cs generalizing h with
  | nil => rfl
  | cons c cs ih =>
    rw [runAll_cons, runAll_cons]
    cases c.judge ctx with
    | unresolved => exact ih _ hnone
    | compatible => exact ih h hnone
    | incompatible m => simp [Policy.run_report_unregistered hnone, Policy.run_report_abort]
    | defective d => rfl

end Comparison

/-- Under the registered policy the mismatches `D` are handed on up to the first report that finds
no live sink, and that one ends the check. -/
theorem registered_delivers_until_unregistered (ctx : Context) (statement : Statement)
    (react : Sink → HostM Unit) (hreturns : ∀ sink, Returns (react sink)) (recorder : Sink)
    (h : Host) :
    let forwarding := (statement.check ctx
      (Policy.report (fun _ => pure ()) (.forward (.sink recorder))) h).1
    let registered := statement.check ctx (Policy.report react .registered) h
    ∃ (r result : Except Failure Unit) (D : List Mismatch) (noted : List Registration)
      (handed : List Handover) (k : Nat),
      (forwarding.1 = .ok r ∧ forwarding.2.deliveries = D.map fun m => (recorder, m.notice)) ∧
      (registered.1.1 = .ok result ∧
        registered.2.journal.deliveries =
          h.journal.deliveries ++ handed.flatMap (·.deliveries)) ∧
      statement.checkNoting ctx (Policy.report react .registered) h =
        (.ok (result, noted), registered.2) ∧
      (k = noted.findIdx (·.current.isNone) ∧ noted.length = min (k + 1) D.length) ∧
      (handed.map (·.notice) = (D.take k).map (·.notice) ∧
        handed.map (some ·.sink) = (noted.take k).map (·.current)) ∧
      result = endedBy D[k]? r ∧
      -- Sinks that deliver nothing themselves.
      ((∀ sink h, ((react sink).run.run h).2.journal.deliveries = h.journal.deliveries) →
        registered.2.journal.deliveries = h.journal.deliveries ++ handed.map (·.delivery)) ∧
      -- No live sink from the start: as under the aborting policy.
      (h.registration.current = none →
        registered = statement.check ctx (Policy.report react .abort) h) ∧
      -- A live sink all along: as if forwarded.
      ((∀ found ∈ noted, found.current.isSome) →
        result = r ∧ handed.map (·.notice) = D.map (·.notice)) ∧
      -- A sink that clears the registration when it is told.
      (∀ sink, h.registration.current = some sink →
        (∀ h, ((react sink).run.run h).2.registration.slot = none) →
        handed.map (·.delivery) = ((D.take 1).map fun m => (sink, m.notice)) ∧
          result = endedBy D[1]? r) := by
  intro forwarding registered
  have hforward := Comparison.runAll_of_proceed ctx (fun m => .delivered recorder m.notice)
    (Policy.run_report_recording · · recorder) (statement.comparisons []) h
  obtain ⟨noted, handed, result, h', hnote, hrun, hdeliver, hrelay⟩ :=
    Comparison.noteAll_registered ctx hreturns (statement.comparisons []) [] h
  refine ⟨Comparison.verdict ctx (statement.comparisons []), result,
    Comparison.mismatches ctx (statement.comparisons []), noted, handed, Relay.stopIndex noted,
    ⟨?_, ?_⟩, ⟨?_, ?_⟩, ?_, ⟨rfl, hrelay.length_noted⟩, hrelay.handed_eq, hrelay.result_eq,
    ?_, ?_, ?_, fun _ => hrelay.of_clearing⟩
  · simp [forwarding, Statement.check_eq, hforward]
  · simp [forwarding, Statement.check_eq, hforward, Comparison.deliveries_events]
  · simp [registered, Statement.check_eq, hrun]
  · simp [registered, Statement.check_eq, hrun, hdeliver]
  · simpa [registered, Statement.check_eq, hrun, Statement.checkNoting_eq] using hnote
  · intro hquiet
    rw [← hrelay.flatMap_deliveries hquiet]
    simp [registered, Statement.check_eq, hrun, hdeliver]
  · intro hnone
    simp only [registered, Statement.check_eq, Comparison.runAll_unregistered ctx _ h hnone]
  · intro hlive
    have hall := hrelay.length_eq_stopIndex hlive
    rw [hrelay.result_eq, hrelay.handed_eq.1, ← hall]
    simp [endedBy]

def priceBetween : Statement :=
  ⟨[⟨"i", "Import"⟩],
    some (.and [
      .compare (.term (.path ⟨"i", some "price", .state⟩)) .ge (.term (.parameter "low")),
      .compare (.term (.path ⟨"i", some "price", .state⟩)) .le (.term (.parameter "high"))]),
    none⟩

def twoFlags : Context where
  schema := Schema.empty.insert { path := "Import", fields := [⟨"price", .column .integer, none⟩] }
  parameters := Parameters.ofList
    [⟨"low", some (.column .boolean), none⟩, ⟨"high", some (.column .boolean), none⟩]

def priceMismatch (parameter : String) : Mismatch :=
  ⟨parameter, .column .boolean, [.column .integer], "i.price"⟩

def oneRegistered : Host where
  registration := { slot := some ⟨0⟩, owners := [⟨0⟩], made := 1 }

theorem clearing_sink_gets_first_mismatch :
    let registered := priceBetween.check twoFlags
      (Policy.report (fun _ => Reaction.clearRegistration.run) .registered) oneRegistered
    Returns Reaction.clearRegistration.run ∧
      registered.2.journal.deliveries = [(⟨0⟩, (priceMismatch "low").notice)] ∧
      registered.1.1 = .ok (.error (.mismatch (priceMismatch "high"))) := by
  have hreturns : Returns Reaction.clearRegistration.run := Reaction.returns (by decide)
  obtain ⟨_, _, D, _, _, _, ⟨_, hD⟩, ⟨hresult, _⟩, _, _, _, _, hquiet, _, _, hclear⟩ :=
    registered_delivers_until_unregistered twoFlags priceBetween
      (fun _ => Reaction.clearRegistration.run) (fun _ => hreturns) ⟨0⟩ oneRegistered
  have hforward : (priceBetween.check twoFlags
      (Policy.report (fun _ => pure ()) (.forward (.sink ⟨0⟩))) oneRegistered).1.2.deliveries =
      [(⟨0⟩, (priceMismatch "low").notice), (⟨0⟩, (priceMismatch "high").notice)] := by
    decide +kernel
  rw [hforward] at hD
  obtain ⟨hhanded, hend⟩ := hclear ⟨0⟩ rfl (fun _ => rfl)
  obtain ⟨low, rest, rfl, hlow, hrest⟩ := List.map_eq_cons_iff.mp hD.symm
  obtain ⟨high, rest, rfl, hhigh, -⟩ := List.map_eq_cons_iff.mp hrest
  obtain rfl : high = priceMismatch "high" := congrArg (·.2.mismatch) hhigh
  refine ⟨hreturns, ?_, hresult.trans (congrArg _ hend)⟩
  rw [hquiet (fun _ _ => rfl), hhanded, ← hlow]
  rfl

end FilterTyping
