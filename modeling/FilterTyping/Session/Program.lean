import FilterTyping.Delivery.Access
import FilterTyping.Session.Run

/-!
# Sessions as programs

What the steps of a session do with its sinks and with the registration, as commands of the host.
Checks are left out.
-/

namespace FilterTyping

mutual

/-- No check runs, at any depth. -/
def Step.isQuiet : Step → Bool
  | .check _ | .chain _ _ => false
  | .within _ steps => Step.areQuiet steps
  | _ => true

def Step.areQuiet : List Step → Bool
  | [] => true
  | step :: steps => Step.isQuiet step && Step.areQuiet steps

end

namespace Session

def dropCommands (s : Session) (name : String) : List Command :=
  match s.sinks.lookup name with
  | some sink => [.drop sink]
  | none => []

def entered (s : Session) (sink : Sink) : Session :=
  s.onRegistration fun r => (r.retain sink).write (some sink)

end Session

mutual

def Step.commands : Step → Session → List Command
  | .makeSink name _, s => s.dropCommands name ++ [.make]
  | .registerSink none, _ => [.register none]
  | .registerSink (some name), s =>
    match s.sinks.lookup name with
    | some sink => [.register (some sink)]
    | none => []
  | .dropSink name, s => s.dropCommands name
  | .within name steps, s =>
    match s.sinks.lookup name with
    -- A panic inside ends the scope and no more.
    | some sink => [.attempt [.within sink (Step.commandsAll steps (s.entered sink))]]
    | none => []
  | _, _ => []

def Step.commandsAll : List Step → Session → List Command
  | [], _ => []
  | .panic :: _, _ => [.panic]
  | step :: steps, s => Step.commands step s ++ Step.commandsAll steps (Step.run step s).2

end

end FilterTyping
