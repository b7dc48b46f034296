import FilterTyping.Delivery.Host

/-!
# Policies

A policy decides what becomes of a mismatch: it ends the check, or it goes to a sink and the check
goes on.
-/

namespace FilterTyping

inductive Recipient where
  | log (target : String)
  | sink (sink : Sink)
  deriving DecidableEq, Repr

inductive Policy where
  | abort
  | forward (recipient : Recipient)
  | registered
  deriving DecidableEq, Repr

namespace Policy

def forwardText : String := "ForwardToSink \x7b .. \x7d"

/-- Without a live registered sink a mismatch ends the check. -/
def report (react : Sink → HostM Unit) : Policy → Mismatch → HostM Ruling
  | abort, m => return .abort m
  | forward (.log target), m => do
    Host.record (.logged (m.notice.logEntry target))
    return .proceed
  | forward (.sink sink), m => do
    Host.deliver react sink m
    return .proceed
  | registered, m => do
    match (← get).registration.current with
    | some sink =>
      Host.holding sink (Host.deliver react sink m)
      return .proceed
    | none => return .abort m

/-! ## Single reports -/

variable (react : Sink → HostM Unit) (m : Mismatch) (h : Host)

theorem run_report_abort : (report react .abort m).run.run h = (.ok (.abort m), h) := rfl

theorem run_report_log (target : String) :
    (report react (.forward (.log target)) m).run.run h =
      (.ok .proceed, { h with journal := h.journal ++ [.logged (m.notice.logEntry target)] }) := rfl

theorem run_report_recording (sink : Sink) :
    (report (fun _ => pure ()) (.forward (.sink sink)) m).run.run h =
      (.ok .proceed, { h with journal := h.journal ++ [.delivered sink m.notice] }) := rfl

theorem run_report_forward (sink : Sink) :
    (report react (.forward (.sink sink)) m).run.run h =
      match (react sink).run.run { h with journal := h.journal ++ [.delivered sink m.notice] } with
      | (.ok _, h') => (.ok .proceed, h')
      | (.error p, h') => (.error p, h') := by
  simp only [report, Host.deliver, HostM.run_bind, Host.run_record]
  rcases (react sink).run.run _ with ⟨_ | _, h'⟩ <;> rfl

variable {react m h}

theorem run_report_unregistered (hnone : h.registration.current = none) :
    (report react .registered m).run.run h = (.ok (.abort m), h) := by
  simp only [report, HostM.run_bind, HostM.run_get, hnone]
  rfl

theorem run_report_registered {sink : Sink} (hsome : h.registration.current = some sink) :
    (report react .registered m).run.run h =
      match (react sink).run.run (h.told sink m) with
      | (.ok _, h') => (.ok .proceed, h'.onRegistration (·.release sink))
      | (.error p, h') => (.error p, h'.onRegistration (·.release sink)) := by
  simp only [report, Host.deliver, Host.run_holding, HostM.run_bind, HostM.run_get, hsome,
    Host.run_record, Host.onRegistration, Host.told]
  rcases (react sink).run.run _ with ⟨_ | _, h'⟩ <;> rfl

end Policy

/-! ## Checks -/

def Observer.ofReport (report : Mismatch → HostM Ruling) : Observer HostM where
  skipped skip := Host.record (.skipped skip)
  report := report

/-- Walks a statement on a host: its result, what it adds to the journal, and the host after it. -/
def Statement.check (ctx : Context) (report : Mismatch → HostM Ruling) (statement : Statement)
    (h : Host) : (Except Panic (Except Failure Unit) × Journal) × Host :=
  Host.observe (statement.walk ctx (.ofReport report) []).run h

end FilterTyping
