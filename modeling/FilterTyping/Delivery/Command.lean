import FilterTyping.Delivery.Policy

/-!
# Commands of a host

What a host can do with sinks, with the registration and with panics, and how programs of such
commands run. A panic ends every scope on its way out.
-/

namespace FilterTyping

inductive Command where
  | make
  | share (sink : Sink)
  | drop (sink : Sink)
  | register (slot : Option Sink)
  | look (next : Option Sink → List Command)
  /-- The sink that is told of the mismatch, if there is one, runs a program of its own. -/
  | report (m : Mismatch) (reaction : Sink → List Command)
  | within (sink : Sink) (body : List Command)
  | attempt (body : List Command)
  | panic

namespace Command

mutual

/-- Runs a command inside scopes and reports that own the sinks `held`, one for each. -/
def run (held : List Sink) : Command → HostM Unit
  | make => modify (·.makeSink.2)
  | share sink => modify fun h =>
    if sink ∈ h.registration.owners then h.onRegistration (·.retain sink) else h
  | drop sink => modify fun h =>
    if held.count sink < h.registration.owners.count sink then h.onRegistration (·.release sink)
    else h
  | register slot => modify (·.onRegistration (·.write slot))
  | look next => do runAll held (next (← get).registration.current)
  | report m reaction => do
    let _ ← Policy.report (fun sink => runAll (sink :: held) (reaction sink)) .registered m
    return
  | within sink body => fun h =>
    let (result, h') := HasRegistration.withSink sink (runAll (sink :: held) body)
      (h.onRegistration (·.retain sink))
    (result, h'.onRegistration (·.release sink))
  | attempt body => fun h => (.ok (), (runAll held body h).2)
  | panic => throw .panic

def runAll (held : List Sink) : List Command → HostM Unit
  | [] => pure ()
  | command :: commands => do
    run held command
    runAll held commands

end

/-! ## Single commands -/

variable (held : List Sink) (h : Host)

theorem run_share (sink : Sink) :
    (run held (share sink)).run.run h =
      (.ok (), if sink ∈ h.registration.owners then h.onRegistration (·.retain sink) else h) := rfl

theorem run_drop (sink : Sink) :
    (run held (drop sink)).run.run h =
      (.ok (), if held.count sink < h.registration.owners.count sink
        then h.onRegistration (·.release sink) else h) := rfl

theorem run_look (next : Option Sink → List Command) :
    (run held (look next)).run.run h =
      (runAll held (next h.registration.current)).run.run h := by
  rw [run, HostM.run_bind]
  rfl

theorem run_report (m : Mismatch) (reaction : Sink → List Command) :
    (run held (report m reaction)).run.run h =
      match h.registration.current with
      | some sink =>
        let (result, h') := (runAll (sink :: held) (reaction sink)).run.run (h.told sink m)
        (result, h'.onRegistration (·.release sink))
      | none => (.ok (), h) := by
  rw [run, HostM.run_bind]
  cases hfound : h.registration.current with
  | none =>
    rw [Policy.run_report_unregistered hfound]
    rfl
  | some sink =>
    rw [Policy.run_report_registered hfound]
    simp only
    rcases (runAll (sink :: held) (reaction sink)).run.run _ with ⟨_ | _, h'⟩ <;> rfl

def entered (h : Host) (sink : Sink) : Host :=
  h.onRegistration fun r => (r.retain sink).write (some sink)

theorem run_within (sink : Sink) (body : List Command) :
    (run held (within sink body)).run.run h =
      let (result, h') := (runAll (sink :: held) body).run.run (entered h sink)
      (result, h'.onRegistration fun r => (r.write h.registration.slot).release sink) := rfl

theorem run_attempt (body : List Command) :
    (run held (attempt body)).run.run h = (.ok (), ((runAll held body).run.run h).2) := rfl

theorem runAll_cons (command : Command) (commands : List Command) :
    (runAll held (command :: commands)).run.run h =
      match (run held command).run.run h with
      | (.ok _, h') => (runAll held commands).run.run h'
      | (.error p, h') => (.error p, h') := by
  rw [runAll, HostM.run_bind]
  rcases (run held command).run.run h with ⟨_ | _, h'⟩ <;> rfl

theorem runAll_singleton (command : Command) :
    (runAll held [command]).run.run h = (run held command).run.run h := by
  rw [runAll_cons]
  rcases (run held command).run.run h with ⟨_ | _, h'⟩ <;> rfl

variable {held h}

theorem runAll_append {first second : List Command} {h' : Host}
    (hfirst : (runAll held first).run.run h = (.ok (), h')) :
    (runAll held (first ++ second)).run.run h = (runAll held second).run.run h' := by
  induction first generalizing h with
  | nil =>
    obtain rfl : h = h' := congrArg Prod.snd hfirst
    rfl
  | cons command first ih =>
    rw [runAll_cons] at hfirst
    rw [List.cons_append, runAll_cons]
    rcases hrun : (run held command).run.run h with ⟨_ | _, h₁⟩
    · rw [hrun] at hfirst
      cases hfirst
    · rw [hrun] at hfirst
      exact ih hfirst

end Command

end FilterTyping
