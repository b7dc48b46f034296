import FilterTyping.Delivery.Command
import FilterTyping.Session.Run

/-!
# Scopes of the registration

The registration is one cell for the whole process, yet scopes nest: each puts back the slot that it
found, however its body ends, and holds its own sink in the slot until the body writes another.
-/

namespace FilterTyping

theorem HasRegistration.slot_withSink {σ α : Type} [HasRegistration σ] (sink : Sink)
    (body : σ → α × σ) (s : σ) :
    (registration (withSink sink body s).2).slot = (registration s).slot := by
  simp [withSink, registration_onRegistration, Registration.write]

namespace Command

/-! ## Owners -/

theorem le_owners_retain {r : Registration} {other sink : Sink} {n : Nat}
    (howned : n ≤ r.owners.count sink) :
    n + (if other = sink then 1 else 0) ≤ (r.retain other).owners.count sink := by
  rw [Registration.count_owners_retain]
  omega

theorem le_owners_release {r : Registration} {other sink : Sink} {n : Nat}
    (howned : n + (if other = sink then 1 else 0) ≤ r.owners.count sink) :
    n ≤ (r.release other).owners.count sink := by
  rw [Registration.count_owners_release]
  exact Nat.le_sub_of_add_le howned

-- The bound `n` is free below the number of scopes on the sink, so that a nested scope on the same
-- sink can ask for one owner more.
mutual

theorem le_owners_run (sink : Sink) : ∀ (command : Command) (held : List Sink) (n : Nat) (h : Host),
    n ≤ held.count sink → n ≤ h.registration.owners.count sink →
      n ≤ ((run held command).run.run h).2.registration.owners.count sink
  | make, _, n, h, _, howned =>
    Nat.le_trans howned (Registration.count_owners_make h.registration sink)
  | share other, _, n, h, _, howned => by
    rw [run_share]
    split
    · exact Nat.le_of_add_right_le (le_owners_retain howned)
    · exact howned
  | drop other, held, n, h, hn, howned => by
    rw [run_drop]
    split
    · next hlt =>
      change n ≤ (h.registration.release other).owners.count sink
      rw [Registration.count_owners_release]
      split
      · next heq =>
        subst heq
        omega
      · exact howned
    · exact howned
  | register _, _, _, _, _, howned => howned
  | look next, held, n, h, hn, howned => by
    rw [run_look]
    exact le_owners_runAll sink (next h.registration.current) held n h hn howned
  | report m reaction, held, n, h, hn, howned => by
    rw [run_report]
    cases h.registration.current with
    | none => exact howned
    | some other =>
      have hbody := le_owners_runAll sink (reaction other) (other :: held)
        (n + if other = sink then 1 else 0) (h.told other m) (by simpa [List.count_cons] using hn)
        (le_owners_retain howned)
      exact le_owners_release hbody
  | within other body, held, n, h, hn, howned => by
    have hbody := le_owners_runAll sink body (other :: held) (n + if other = sink then 1 else 0)
      (entered h other) (by simpa [List.count_cons] using hn) (le_owners_retain howned)
    rw [run_within]
    exact le_owners_release hbody
  | attempt body, held, n, h, hn, howned => by
    rw [run_attempt]
    exact le_owners_runAll sink body held n h hn howned
  | panic, _, _, _, _, howned => howned

theorem le_owners_runAll (sink : Sink) : ∀ (commands : List Command) (held : List Sink) (n : Nat)
    (h : Host), n ≤ held.count sink → n ≤ h.registration.owners.count sink →
      n ≤ ((runAll held commands).run.run h).2.registration.owners.count sink
  | [], _, _, _, _, howned => howned
  | command :: commands, held, n, h, hn, howned => by
    have hfirst := le_owners_run sink command held n h hn howned
    rw [runAll_cons]
    rcases hrun : (run held command).run.run h with ⟨_ | _, h'⟩
    · rwa [hrun] at hfirst
    · rw [hrun] at hfirst
      exact le_owners_runAll sink commands held n h' hn hfirst

end

/-! ## Writes -/

mutual

/-- The command writes the registration, as seen from outside. A scope puts back what it finds. -/
def writes (held : List Sink) : Command → Host → Bool
  | register _, _ => true
  | look next, h => anyWrites held (next h.registration.current) h
  | report m reaction, h =>
    match h.registration.current with
    | some sink => anyWrites (sink :: held) (reaction sink) (h.told sink m)
    | none => false
  | attempt body, h => anyWrites held body h
  | make, _ | share _, _ | drop _, _ | within _ _, _ | panic, _ => false

def anyWrites (held : List Sink) : List Command → Host → Bool
  | [], _ => false
  | command :: commands, h =>
    writes held command h ||
      match (run held command).run.run h with
      | (.ok _, h') => anyWrites held commands h'
      | (.error _, _) => false

end

theorem slot_run_within (held : List Sink) (sink : Sink) (body : List Command) (h : Host) :
    ((run held (within sink body)).run.run h).2.registration.slot = h.registration.slot :=
  HasRegistration.slot_withSink sink (runAll (sink :: held) body)
    (h.onRegistration (·.retain sink))

theorem current_run_of_slot {sink : Sink} {command : Command} {held : List Sink} {h : Host}
    (hheld : sink ∈ held) (hcurrent : h.registration.current = some sink)
    (hslot : ((run held command).run.run h).2.registration.slot = h.registration.slot) :
    ((run held command).run.run h).2.registration.current = some sink := by
  rw [Registration.current_eq_some_iff] at hcurrent ⊢
  refine ⟨hslot.trans hcurrent.1, List.one_le_count_iff.mp ?_⟩
  apply le_owners_run sink command held 1 h
  · exact List.one_le_count_iff.mpr hheld
  · exact List.one_le_count_iff.mpr hcurrent.2

theorem current_told {sink : Sink} {h : Host} (hcurrent : h.registration.current = some sink)
    (m : Mismatch) : (h.told sink m).registration.current = some sink := by
  rw [Registration.current_eq_some_iff] at hcurrent ⊢
  exact ⟨hcurrent.1, List.mem_cons_self⟩

mutual

theorem current_run (sink : Sink) : ∀ (command : Command) (held : List Sink) (h : Host),
    sink ∈ held → writes held command h = false → h.registration.current = some sink →
      ((run held command).run.run h).2.registration.current = some sink
  | make, held, h, hheld, _, hcurrent => current_run_of_slot hheld hcurrent rfl
  | share other, held, h, hheld, _, hcurrent => by
    apply current_run_of_slot hheld hcurrent
    rw [run_share]
    split <;> rfl
  | drop other, held, h, hheld, _, hcurrent => by
    apply current_run_of_slot hheld hcurrent
    rw [run_drop]
    split <;> rfl
  | register slot, held, h, _, hwrites, _ => by simp [writes] at hwrites
  | look next, held, h, hheld, hwrites, hcurrent => by
    rw [writes] at hwrites
    rw [run_look]
    exact current_runAll sink (next h.registration.current) held h hheld hwrites hcurrent
  | report m reaction, held, h, hheld, hwrites, hcurrent => by
    rw [writes, hcurrent] at hwrites
    have hafter := current_runAll sink (reaction sink) (sink :: held) (h.told sink m)
      List.mem_cons_self hwrites (current_told hcurrent m)
    -- The report gives up its own ownership in the end, and the slot is still the same.
    rw [Registration.current_eq_some_iff] at hafter
    apply current_run_of_slot hheld hcurrent
    rw [(Registration.current_eq_some_iff.mp hcurrent).1, ← hafter.1, run_report, hcurrent]
    rfl
  | within other body, held, h, hheld, _, hcurrent =>
    current_run_of_slot hheld hcurrent (slot_run_within held other body h)
  | attempt body, held, h, hheld, hwrites, hcurrent => by
    rw [writes] at hwrites
    rw [run_attempt]
    exact current_runAll sink body held h hheld hwrites hcurrent
  | panic, _, _, _, _, hcurrent => hcurrent

theorem current_runAll (sink : Sink) : ∀ (commands : List Command) (held : List Sink) (h : Host),
    sink ∈ held → anyWrites held commands h = false → h.registration.current = some sink →
      ((runAll held commands).run.run h).2.registration.current = some sink
  | [], _, _, _, _, hcurrent => hcurrent
  | command :: commands, held, h, hheld, hwrites, hcurrent => by
    rw [anyWrites, Bool.or_eq_false_iff] at hwrites
    obtain ⟨hfirst, hrest⟩ := hwrites
    have hafter := current_run sink command held h hheld hfirst hcurrent
    rw [runAll_cons]
    rcases hrun : (run held command).run.run h with ⟨_ | _, h'⟩
    · rwa [hrun] at hafter
    · rw [hrun] at hafter hrest
      exact current_runAll sink commands held h' hheld hrest hafter

end

/-! ## Moments -/

/-- While the commands run from `h`, and before they write the registration, the host is once
`h'`. -/
inductive Moment : List Sink → List Command → Host → Host → Prop
  | here {held : List Sink} {commands : List Command} {h : Host} : Moment held commands h h
  | after {held : List Sink} {command : Command} {commands : List Command} {h h₁ h' : Host}
    (hwrites : writes held command h = false) (hrun : (run held command).run.run h = (.ok (), h₁))
    (hrest : Moment held commands h₁ h') : Moment held (command :: commands) h h'
  | look {held : List Sink} {next : Option Sink → List Command} {commands : List Command}
    {h h' : Host} (hinside : Moment held (next h.registration.current) h h') :
    Moment held (look next :: commands) h h'
  | report {held : List Sink} {m : Mismatch} {reaction : Sink → List Command}
    {commands : List Command} {sink : Sink} {h h' : Host}
    (hsome : h.registration.current = some sink)
    (hinside : Moment (sink :: held) (reaction sink) (h.told sink m) h') :
    Moment held (report m reaction :: commands) h h'
  | attempt {held : List Sink} {body commands : List Command} {h h' : Host}
    (hinside : Moment held body h h') : Moment held (attempt body :: commands) h h'

theorem Moment.current_eq {held : List Sink} {commands : List Command} {h h' : Host} {sink : Sink}
    (hmoment : Moment held commands h h') (hheld : sink ∈ held)
    (hcurrent : h.registration.current = some sink) : h'.registration.current = some sink := by
  induction hmoment with
  | here => exact hcurrent
  | @after held command _ h _ _ hwrites hrun _ ih =>
    have hafter := current_run sink command held h hheld hwrites hcurrent
    rw [hrun] at hafter
    exact ih hheld hafter
  | look _ ih => exact ih hheld hcurrent
  | report hsome _ ih =>
    obtain rfl := Option.some.inj (hcurrent.symm.trans hsome)
    exact ih List.mem_cons_self (current_told hcurrent _)
  | attempt _ ih => exact ih hheld hcurrent

theorem current_entered (h : Host) (sink : Sink) :
    (entered h sink).registration.current = some sink := by
  rw [Registration.current_eq_some_iff]
  exact ⟨rfl, List.mem_cons_self⟩

end Command

theorem Step.slot_run_within (name : String) (steps : List Step) (s : Session) :
    (Step.run (.within name steps) s).2.host.registration.slot = s.host.registration.slot := by
  rw [Step.run]
  split
  · next sink _ =>
    exact HasRegistration.slot_withSink sink (Step.runAll steps) (s.onRegistration (·.retain sink))
  · rfl

/-- A scope ends as its body does and puts the slot back. Its sink is registered inside until the
body writes the registration. -/
theorem scope_restores_slot_and_registers_sink (held : List Sink) (sink : Sink)
    (body : List Command) (h : Host) :
    let call := (Command.run held (.within sink body)).run.run h
    let inside := Command.entered h sink
    call.1 = ((Command.runAll (sink :: held) body).run.run inside).1 ∧
    call.2.registration.slot = h.registration.slot ∧
    (∀ moment, Command.Moment (sink :: held) body inside moment →
      moment.registration.current = some sink) ∧
    ∀ (name : String) (steps : List Step) (s : Session),
      (Step.run (.within name steps) s).2.host.registration.slot = s.host.registration.slot := by
  intro call inside
  refine ⟨rfl, Command.slot_run_within held sink body h, ?_, Step.slot_run_within⟩
  intro moment hmoment
  exact hmoment.current_eq List.mem_cons_self (Command.current_entered h sink)

theorem panic_through_scopes_restores_slot :
    let h : Host := { registration := { slot := some ⟨2⟩, owners := [⟨0⟩, ⟨1⟩], made := 3 } }
    let body : List Command := [.drop ⟨0⟩, .attempt [.within ⟨1⟩ [.register none, .panic]],
      .within ⟨1⟩ [.register none, .panic]]
    let call := (Command.run [] (.within ⟨0⟩ body)).run.run h
    (call.1 = .error .panic ∧ call.2.registration.slot = some ⟨2⟩) ∧
      ∃ moment, Command.Moment [⟨0⟩] body (Command.entered h ⟨0⟩) moment ∧
        moment.registration.owners = [⟨0⟩, ⟨1⟩] ∧ moment.registration.current = some ⟨0⟩ := by
  intro h body call
  obtain ⟨_, hslot, hinside, _⟩ := scope_restores_slot_and_registers_sink [] ⟨0⟩ body h
  have hmoment : Command.Moment [⟨0⟩] body (Command.entered h ⟨0⟩) _ :=
    .after rfl rfl (.after rfl rfl .here)
  exact ⟨⟨rfl, hslot⟩, _, hmoment, rfl, hinside _ hmoment⟩

end FilterTyping
