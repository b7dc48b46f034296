import FilterTyping.Proofs.Ownership
import FilterTyping.Session.Program

/-!
# Owners in sessions

In a session a sink is owned by its name and by the scopes that run on it. The steps of a session
are a program, and one that puts only owned sinks in the slot. So what holds of such programs holds
of sessions.
-/

namespace FilterTyping

namespace Session

def Owns (s : Session) (held : List Sink) : Prop :=
  ∀ sink, (s.sinks.map Prod.snd).count sink + held.count sink ≤
    s.host.registration.owners.count sink

/-- The accesses account for the session since it started from nothing. -/
structure Traced (held : List Sink) (accesses : List Access) (s : Session) : Prop where
  accounted : Command.Accounted {} accesses s.host
  namesOwned : Registration.NamesOwned {} accesses
  owns : s.Owns held

/-- The commands take the host of one session to that of the other. -/
structure Replayed (held : List Sink) (before : List Access) (s : Session) (commands : List Command)
    (result : Except Panic Unit) (s' : Session) : Prop where
  run_eq : (Command.runAll held commands).run.run s.host = (result, s'.host)
  traced : Traced held (before ++ Command.accessesAll held commands s.host) s'

variable {held : List Sink} {before : List Access} {s s' s'' : Session} {name : String}
  {sink : Sink}

theorem Traced.lt_owners (htraced : Traced held before s)
    (hfound : s.sinks.lookup name = some sink) :
    held.count sink < s.host.registration.owners.count sink := by
  obtain ⟨others, rest, hsinks, _⟩ := List.lookup_eq_some_iff.mp hfound
  have hle := htraced.owns sink
  have hpos : 0 < (s.sinks.map Prod.snd).count sink := by
    rw [List.count_pos_iff, hsinks]
    simp
  omega

theorem count_sinks_filter (hfound : s.sinks.lookup name = some sink) (other : Sink) :
    ((s.sinks.filter (·.1 != name)).map Prod.snd).count other +
      (if sink = other then 1 else 0) ≤ (s.sinks.map Prod.snd).count other := by
  obtain ⟨others, rest, hsinks, _⟩ := List.lookup_eq_some_iff.mp hfound
  have hle (entries : List (String × Sink)) :
      ((entries.filter (·.1 != name)).map Prod.snd).count other ≤
        (entries.map Prod.snd).count other :=
    (List.filter_sublist.map Prod.snd).count_le other
  have hothers := hle others
  have hrest := hle rest
  simp only [hsinks, List.filter_append, List.map_append, List.count_append, List.map_cons,
    List.filter_cons, List.count_cons, beq_iff_eq, bne_self_eq_false, Bool.false_eq_true, if_false]
  omega

theorem Traced.owned (htraced : Traced held before s) (hfound : s.sinks.lookup name = some sink) :
    sink ∈ s.host.registration.owners :=
  List.count_pos_iff.mp (Nat.zero_lt_of_lt (htraced.lt_owners hfound))

theorem Traced.enter (htraced : Traced held before s) (howned : sink ∈ s.host.registration.owners) :
    Traced (sink :: held) (before ++ [.entered sink]) (s.entered sink) := by
  refine ⟨htraced.accounted.quietly .entered rfl rfl, ?_, fun other => ?_⟩
  · refine htraced.namesOwned.concat fun other hother => ?_
    obtain rfl := Option.some.inj hother
    exact htraced.accounted.follows.ownerCount_pos_iff.mpr howned
  · have hle := htraced.owns other
    change _ ≤ (s.host.registration.retain sink).owners.count other
    rw [Registration.count_owners_retain, List.count_cons]
    simp only [beq_iff_eq]
    change (s.sinks.map Prod.snd).count other + _ ≤ _
    omega

namespace Replayed

theorem nothing (htraced : Traced held before s) (hhost : s'.host = s.host)
    (hsinks : s'.sinks = s.sinks) : Replayed held before s [] (.ok ()) s' := by
  refine ⟨by rw [hhost]; rfl, ?_⟩
  obtain ⟨haccounted, hnames, howns⟩ := htraced
  rw [Command.accessesAll, List.append_nil]
  exact ⟨hhost ▸ haccounted, hnames, by rwa [Owns, hhost, hsinks]⟩

theorem append {first second : List Command} {result : Except Panic Unit}
    (hfirst : Replayed held before s first (.ok ()) s')
    (hsecond : Replayed held (before ++ Command.accessesAll held first s.host) s' second result
      s'') :
    Replayed held before s (first ++ second) result s'' := by
  refine ⟨?_, ?_⟩
  · rw [Command.runAll_append hfirst.run_eq, hsecond.run_eq]
  · rw [Command.accessesAll_append hfirst.run_eq, ← List.append_assoc]
    exact hsecond.traced

theorem command {command : Command} {result : Except Panic Unit} (htraced : Traced held before s)
    (hrun : (Command.run held command).run.run s.host = (result, s'.host))
    (hnames : Registration.NamesOwned {} (before ++ Command.accesses held command s.host))
    (howns : s'.Owns held) : Replayed held before s [command] result s' := by
  refine ⟨?_, ?_⟩
  · rw [Command.runAll_singleton, hrun]
  · rw [Command.accessesAll_singleton]
    have haccounted := htraced.accounted.run command held
    rw [hrun] at haccounted
    exact ⟨haccounted, hnames, howns⟩

theorem drop (htraced : Traced held before s) (name : String) :
    Replayed held before s (s.dropCommands name) (.ok ()) (s.dropSink name) := by
  rw [dropCommands, dropSink]
  cases hfound : s.sinks.lookup name with
  | none => exact nothing htraced rfl rfl
  | some sink =>
    have hlt := htraced.lt_owners hfound
    refine command htraced ?_ ?_ fun other => ?_
    · rw [Command.run_drop, if_pos hlt]
      rfl
    · rw [Command.accesses, if_pos hlt]
      exact htraced.namesOwned.concat nofun
    · have hle := htraced.owns other
      have hfilter := count_sinks_filter hfound other
      change _ ≤ (s.host.registration.release sink).owners.count other
      rw [Registration.count_owners_release]
      change ((s.sinks.filter (·.1 != name)).map Prod.snd).count other + _ ≤ _
      omega

theorem make (htraced : Traced held before s) (name : String) (reaction : Reaction) :
    Replayed held before s (s.dropCommands name ++ [.make]) (.ok ()) (s.addSink name reaction) := by
  have hdrop := drop htraced name
  refine hdrop.append (command hdrop.traced rfl ?_ fun other => ?_)
  · rw [Command.accesses]
    exact hdrop.traced.namesOwned.concat nofun
  · have hle := hdrop.traced.owns other
    simp only [addSink, Host.makeSink, Registration.make, List.map_cons, List.count_cons]
    omega

theorem register (htraced : Traced held before s) {slot : Option Sink}
    (howned : ∀ sink, slot = some sink → sink ∈ s.host.registration.owners) :
    Replayed held before s [.register slot] (.ok ()) (s.onRegistration (·.write slot)) := by
  refine command htraced rfl ?_ htraced.owns
  rw [Command.accesses]
  refine htraced.namesOwned.concat fun sink hsink => ?_
  exact htraced.accounted.follows.ownerCount_pos_iff.mpr (howned sink hsink)

theorem within {body : List Command} {result : Except Panic Unit} (htraced : Traced held before s)
    (hbody : Replayed (sink :: held) (before ++ [.entered sink]) (s.entered sink) body result s') :
    Replayed held before s [.attempt [.within sink body]] (.ok ())
      (s'.onRegistration fun r => (r.write s.host.registration.slot).release sink) := by
  obtain ⟨hrun, hinside⟩ := hbody
  refine command htraced ?_ ?_ fun other => ?_
  · change (Command.runAll _ body).run.run (Command.entered s.host sink) = _ at hrun
    rw [Command.run_attempt, Command.runAll_singleton, Command.run_within, hrun]
    rfl
  · rw [Command.accesses, Command.accessesAll_singleton, Command.accesses, List.append_cons,
      ← List.append_assoc]
    exact hinside.namesOwned.concat nofun
  · have hle := hinside.owns other
    rw [List.count_cons] at hle
    simp only [beq_iff_eq] at hle
    change (s'.sinks.map Prod.snd).count other + _ ≤
      ((s'.host.registration.write _).release sink).owners.count other
    rw [Registration.count_owners_release]
    change _ ≤ s'.host.registration.owners.count other - _
    omega

end Replayed

theorem setSchema_keeps (s : Session) (schema : Except Fault Schema) :
    (s.setSchema schema).2.host = s.host ∧ (s.setSchema schema).2.sinks = s.sinks := by
  cases schema with
  | ok schema => exact ⟨rfl, rfl⟩
  | error fault => exact ⟨rfl, rfl⟩

end Session

-- The induction is on the steps. Inside a scope one owner more is held.
mutual

theorem Step.replayed_run : ∀ (step : Step) {held : List Sink} {before : List Access} {s : Session},
    step.isQuiet → Session.Traced held before s →
      Session.Replayed held before s (step.commands s) (.ok ()) (step.run s).2
  | step, held, before, s, hquiet, htraced => by
    cases step with
    | check | chain => simp [Step.isQuiet] at hquiet
    | loadSchema | clearSchema =>
      rw [Step.commands, Step.run]
      exact .nothing htraced (s.setSchema_keeps _).1 (s.setSchema_keeps _).2
      all_goals nofun
    | makeSink name reaction => exact .make htraced name reaction
    | registerSink found =>
      cases found with
      | none => exact .register htraced nofun
      | some name =>
        rw [Step.commands, Step.run]
        cases hfound : s.sinks.lookup name with
        | none => exact .nothing htraced rfl rfl
        | some sink =>
          refine .register htraced fun other hother => ?_
          obtain rfl := Option.some.inj hother
          exact htraced.owned hfound
    | dropSink name => exact .drop htraced name
    | readSink name =>
      rw [Step.commands, Step.run]
      · split <;> exact .nothing htraced rfl rfl
      all_goals nofun
    | within name steps =>
      rw [Step.isQuiet] at hquiet
      rw [Step.commands, Step.run]
      cases hfound : s.sinks.lookup name with
      | none => exact .nothing htraced rfl rfl
      | some sink =>
        obtain ⟨result, hbody⟩ :=
          Step.replayed_runAll steps hquiet (htraced.enter (htraced.owned hfound))
        have hscope := hbody.within htraced
        exact hscope
    | _ =>
      rw [Step.commands, Step.run]
      · exact .nothing htraced rfl rfl
      all_goals nofun

theorem Step.replayed_runAll : ∀ (steps : List Step) {held : List Sink} {before : List Access}
    {s : Session}, Step.areQuiet steps → Session.Traced held before s → ∃ result,
      Session.Replayed held before s (Step.commandsAll steps s) result (Step.runAll steps s).2
  | [], _, _, _, _, htraced => ⟨.ok (), .nothing htraced rfl rfl⟩
  | step :: steps, held, before, s, hquiet, htraced => by
    rw [Step.areQuiet, Bool.and_eq_true] at hquiet
    by_cases hpanic : step = .panic
    · subst hpanic
      refine ⟨.error .panic, .command htraced rfl ?_ htraced.owns⟩
      rw [Command.accesses, List.append_nil]
      exact htraced.namesOwned
    · have hfirst := Step.replayed_run step hquiet.1 htraced
      obtain ⟨result, hrest⟩ := Step.replayed_runAll steps hquiet.2 hfirst.traced
      rw [Step.commandsAll, Step.runAll]
      · exact ⟨result, hfirst.append hrest⟩
      all_goals exact hpanic

end

theorem Session.traced_nothing : Session.Traced [] [] {} where
  accounted := ⟨.start, rfl⟩
  namesOwned := nofun
  owns _ := Nat.le_refl 0

/-- The registered sink is the one last written to the slot, as long as that one has an owner. A
sink without owners is never found nor told of anything again. -/
theorem registered_while_last_written_and_owned (held : List Sink) (commands : List Command)
    (h : Host) :
    let start := h.registration
    let accesses := Command.accessesAll held commands h
    let after := ((Command.runAll held commands).run.run h).2
    (∀ sink, after.registration.current = some sink ↔ start.Registers accesses sink) ∧
    (∀ before answer rest, accesses = before ++ .looked answer :: rest →
      ∀ sink, answer = some sink ↔ start.Registers before sink) ∧
    (∀ before sink rest, accesses = before ++ .told sink :: rest → start.Registers before sink) ∧
    after.journal.deliveries.map Prod.fst =
      h.journal.deliveries.map Prod.fst ++ accesses.filterMap Access.told? ∧
    (start.Made → start.NamesOwned accesses →
      (∀ before between rest sink, accesses = before ++ between ++ rest →
        0 < start.ownerCount before sink → start.ownerCount (before ++ between) sink = 0 →
          .looked (some sink) ∉ rest ∧ .told sink ∉ rest ∧
            after.registration.current ≠ some sink) ∧
      ∀ before sink between rest, accesses = before ++ .made sink :: (between ++ rest) →
        start.lastWrite (before ++ .made sink :: between) = some sink →
          ∃ access ∈ between, access.named? = some sink) ∧
    ∀ steps, Step.areQuiet steps →
      let program := Step.commandsAll steps {}
      (Step.runAll steps {}).2.host = ((Command.runAll [] program).run.run {}).2 ∧
        Registration.Made {} ∧ Registration.NamesOwned {} (Command.accessesAll [] program {}) := by
  intro start accesses after
  have hstart : Command.Accounted h [] h := ⟨.start, (List.append_nil _).symm⟩
  obtain ⟨hfollows, hdeliveries⟩ : Command.Accounted h accesses after :=
    hstart.runAll commands held
  refine ⟨fun _ => hfollows.current_eq_some_iff, fun _ _ _ heq _ => hfollows.looked_iff heq,
    fun _ _ _ => hfollows.registers_of_told, hdeliveries, ?_, ?_⟩
  · intro hmade hnames
    refine ⟨?_, fun _ _ _ _ => hfollows.named_since_made hmade hnames⟩
    intro before between rest sink heq howned hgone
    have hnever {middle later : List Access} (hrest : rest = middle ++ later) :
        ¬ start.Registers (before ++ between ++ middle) sink := by
      have hmiddle : accesses = before ++ between ++ middle ++ later := by
        rw [heq, hrest, List.append_assoc _ middle]
      exact hfollows.not_registers_of_unowned hmade hnames hmiddle howned hgone
    refine ⟨?_, ?_, ?_⟩
    · intro hmem
      obtain ⟨middle, later, rfl⟩ := List.append_of_mem hmem
      rw [← List.append_assoc] at heq
      exact hnever rfl ((hfollows.looked_iff heq).mp rfl)
    · intro hmem
      obtain ⟨middle, later, rfl⟩ := List.append_of_mem hmem
      rw [← List.append_assoc] at heq
      exact hnever rfl (hfollows.registers_of_told heq)
    · intro hcurrent
      have hregisters := hfollows.current_eq_some_iff.mp hcurrent
      rw [heq] at hregisters
      exact hnever (List.append_nil rest).symm hregisters
  · intro steps hquiet program
    obtain ⟨result, hrun, htraced⟩ := Step.replayed_runAll steps hquiet Session.traced_nothing
    exact ⟨(congrArg Prod.snd hrun).symm, ⟨nofun, nofun⟩, htraced.namesOwned⟩

theorem sink_dropped_in_scope_stays_unregistered :
    let m : Mismatch := ⟨"total", .column .boolean, [.column .integer], "o.total"⟩
    let program : List Command := [.make, .register (some ⟨0⟩), .make, .within ⟨1⟩ [.drop ⟨0⟩],
      .look fun _ => [], .make, .look fun _ => [], .register (some ⟨2⟩), .report m fun _ => []]
    let start : Registration := {}
    let accesses := Command.accessesAll [] program {}
    let before : List Access := [.made ⟨0⟩, .wrote (some ⟨0⟩), .made ⟨1⟩, .entered ⟨1⟩]
    let dropped : List Access := [.dropped ⟨0⟩]
    let restored : List Access := [.left ⟨1⟩ (some ⟨0⟩), .looked none]
    let replaced : List Access := [.looked none, .wrote (some ⟨2⟩)]
    let reported : List Access := [.looked (some ⟨2⟩), .told ⟨2⟩, .returned ⟨2⟩]
    let steps : List Step := [.makeSink "a" .none, .registerSink (some "a"), .makeSink "b" .none,
      .within "b" [.dropSink "a"]]
    (start.Made ∧ start.NamesOwned accesses) ∧
      (accesses = before ++ dropped ++ (restored ++ .made ⟨2⟩ :: (replaced ++ reported)) ∧
        0 < start.ownerCount before ⟨0⟩ ∧ start.ownerCount (before ++ dropped) ⟨0⟩ = 0 ∧
        start.lastWrite (before ++ dropped ++ restored) = some ⟨0⟩ ∧
        start.lastWrite (before ++ dropped ++ restored ++ .made ⟨2⟩ :: replaced) = some ⟨2⟩) ∧
      .told ⟨0⟩ ∉ restored ++ .made ⟨2⟩ :: (replaced ++ reported) ∧
      (∃ access ∈ replaced, access.named? = some ⟨2⟩) ∧
      Step.areQuiet steps ∧
        (Step.runAll steps {}).2.host =
          ((Command.runAll [] (Step.commandsAll steps {})).run.run {}).2 ∧
        (Step.runAll steps {}).2.host.registration.slot = some ⟨0⟩ ∧
        (Step.runAll steps {}).2.isRegistered = false := by
  intro m program start accesses before dropped restored replaced reported steps
  have hmade : start.Made := ⟨by decide, by decide⟩
  have hnames : start.NamesOwned accesses := by decide +kernel
  have heq : accesses = before ++ dropped ++ (restored ++ .made ⟨2⟩ :: (replaced ++ reported)) := by
    decide +kernel
  have howned : 0 < start.ownerCount before ⟨0⟩ := by decide
  have hgone : start.ownerCount (before ++ dropped) ⟨0⟩ = 0 := by decide
  have hwritten :
      start.lastWrite (before ++ dropped ++ restored ++ .made ⟨2⟩ :: replaced) = some ⟨2⟩ := rfl
  have hquiet : Step.areQuiet steps := by decide
  obtain ⟨_, _, _, _, hhence, hsession⟩ :=
    registered_while_last_written_and_owned [] program {}
  obtain ⟨hgone_for_good, hnew⟩ := hhence hmade hnames
  obtain ⟨_, htold, _⟩ := hgone_for_good before dropped _ ⟨0⟩ heq howned hgone
  have hnamed := hnew (before ++ dropped ++ restored) ⟨2⟩ replaced reported heq hwritten
  exact ⟨⟨hmade, hnames⟩, ⟨heq, howned, hgone, rfl, hwritten⟩, htold, hnamed, hquiet,
    (hsession steps hquiet).1, by decide +kernel, by decide +kernel⟩

end FilterTyping
