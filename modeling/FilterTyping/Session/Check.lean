import FilterTyping.Check.Visitor
import FilterTyping.Schema.Basic
import FilterTyping.Settings

/-!
# Checks of a session

A session is a host at work: one schema, one set of parameters, and sinks that go by names. Here are
the checks it runs, and what it learns from each.
-/

namespace FilterTyping

/-! ## Sinks of a session -/

/-- What a sink does once it has recorded a mismatch. -/
inductive Reaction where
  | none
  | clearRegistration
  | panic
  deriving DecidableEq, Repr

def Reaction.run : Reaction → HostM Unit
  | none => pure ()
  | clearRegistration => modify (·.onRegistration (·.write Option.none))
  | panic => throw .panic

structure Session where
  schema : Schema := .empty
  parameters : Parameters := {}
  sinks : List (String × Sink) := []
  reactions : List (Sink × Reaction) := []
  host : Host := {}

namespace Session

def react (s : Session) (sink : Sink) : HostM Unit :=
  ((s.reactions.lookup sink).getD .none).run

def context (s : Session) (fixed : Option TypeToken) : Context where
  schema := s.schema
  parameters := s.parameters
  infer :=
    match fixed with
    | some token => fun _ => token
    | none => Value.inferred

end Session

/-! ## Choosing a policy -/

inductive PolicyChoice where
  | registered
  | abort
  | forward
  | sink (name : String)
  | log (target : String)
  | settings (document : String)
  /-- Lets so many mismatches pass, to a sink made for the check, and ends the check at the next. -/
  | limited (count : Nat)
  deriving DecidableEq, Repr

inductive Refusal where
  | settings (error : SettingsError)
  | unknownSink (name : String)
  deriving DecidableEq, Repr

abbrev Setup := StateT Host (Except Refusal)

def Host.limitedReport (react : Sink → HostM Unit) (place : Nat) (sink : Sink) (m : Mismatch) :
    HostM Ruling := do
  if ← spend place then
    deliver react sink m
    return .proceed
  return .abort m

namespace Session

def setup (s : Session) (own : Sink) : PolicyChoice → Setup (Mismatch → HostM Ruling)
  | .registered => return Policy.report s.react .registered
  | .abort => return Policy.report s.react .abort
  | .forward => return Policy.report s.react (.forward (.sink own))
  | .sink name =>
    match s.sinks.lookup name with
    | some sink => return Policy.report s.react (.forward (.sink sink))
    | none => throw (.unknownSink name)
  | .log target => return Policy.report s.react (.forward (.log target))
  | .settings document =>
    match Settings.parse document with
    | .ok settings => return Policy.report s.react settings.policy
    | .error error => throw (.settings error)
  | .limited count => do
    let (place, host) := (← get).grant count
    set host
    return Host.limitedReport s.react place own

end Session

/-! ## One check -/

inductive Outcome where
  | passed
  | failed (failure : Failure)
  | panicked
  deriving DecidableEq, Repr

def Outcome.ofResult : Except Panic (Except Failure Unit) → Outcome
  | .ok (.ok ()) => passed
  | .ok (.error failure) => failed failure
  | .error .panic => panicked

structure CheckRequest where
  statement : Statement
  policy : PolicyChoice := .registered
  inference : Option TypeToken := none

structure CheckReport where
  outcome : Outcome
  notices : List Notice
  log : List LogEntry
  deriving DecidableEq, Repr

namespace Session

def check (s : Session) (request : CheckRequest) : Except Refusal CheckReport × Session :=
  let (own, host) := s.host.makeSink
  match (s.setup own request.policy).run host with
  | .error refusal => (.error refusal, s)
  | .ok (report, host) =>
    let ctx := s.context request.inference
    let ((result, journal), host) := request.statement.check ctx report host
    (.ok ⟨.ofResult result, journal.notices own, journal.log⟩,
      { s with host := host.onRegistration (·.release own) })

end Session

/-! ## Chains -/

inductive VisitorChoice where
  | note (name : String) (failure : Option Failure)
  | checker (policy : PolicyChoice)
  deriving DecidableEq, Repr

structure ChainRun where
  outcome : Outcome
  visits : List String
  deriving DecidableEq, Repr

structure ChainReport where
  size : Nat
  runs : List ChainRun
  notices : List Notice
  log : List LogEntry
  deriving DecidableEq, Repr

namespace Session

def setupVisitor (s : Session) (own : Sink) : VisitorChoice → Setup (Visitor HostM)
  | .note name failure =>
    return fun _ => do
      ExceptT.lift (Host.record (.visited name))
      match failure with
      | some failure => throw failure
      | none => pure ()
  | .checker policy => do
    let report ← s.setup own policy
    return fun statement => statement.walk (s.context none) (.ofReport report) []

def runVisitor (visitor : Visitor HostM) : List Statement → Host → List ChainRun × Host
  | [], h => ([], h)
  | statement :: statements, h =>
    let ((result, journal), h) := Host.observe (visitor statement).run h
    let (runs, h) := runVisitor visitor statements h
    (⟨.ofResult result, journal.visits⟩ :: runs, h)

/-- Runs a chain on each statement. Its checkers share the sink made for the run. -/
def runChain (s : Session) (visitors : List (VisitorTree VisitorChoice))
    (statements : List Statement) : Except Refusal ChainReport × Session :=
  let (own, host) := s.host.makeSink
  match (VisitorTree.mapAllM (s.setupVisitor own) visitors).run host with
  | .error refusal => (.error refusal, s)
  | .ok (chain, host) =>
    let visitor statement := VisitorTree.visitAll id statement chain
    let (runs, after) := runVisitor visitor statements host
    let journal : Journal := after.journal.drop host.journal.length
    (.ok ⟨visitors.length, runs, journal.notices own, journal.log⟩,
      { s with host := after.onRegistration (·.release own) })

end Session

end FilterTyping
