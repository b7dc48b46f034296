import FilterTyping.Session.Check

/-!
# Runs of a session

The steps of a session and their answers. A panic ends the scope it happens in, which puts back the
registration found on entry; the steps after the scope go on.
-/

namespace FilterTyping

/-! ## Steps and answers -/

inductive Step where
  | loadSchema (entities : List Entity)
  | clearSchema
  | putEntity (entity : Entity)
  | schemaSize
  | entity (path : String)
  | findEntity (path : String)
  | member (path name : String)
  | ofClass (className : String)
  | field (path name : String)
  | target (path name : String)
  | clearParameters
  | bind (binding : Binding)
  | parameterCount
  | lookup (name : String)
  | actual (text : String) (inference : Option TypeToken)
  | expected (path : String) (fieldPath : FieldPath)
  | makeSink (name : String) (reaction : Reaction)
  | registerSink (name : Option String)
  | dropSink (name : String)
  | readSink (name : String)
  | isRegistered
  /-- Runs steps with a sink registered. The step owns the sink until its answer is given. -/
  | within (name : String) (steps : List Step)
  | panic
  | check (request : CheckRequest)
  | chain (visitors : List (VisitorTree VisitorChoice)) (statements : List Statement)

inductive Answer where
  | count (n : Nat)
  | size (n : Nat) (isEmpty : Bool)
  | fault (fault : Fault)
  | entity (entity : Entity)
  | noEntity
  | member (field : Option Builtin) (association : Option String)
  | ofClass (isMapped : Bool) (root : Option String)
  | field (mapping : FieldMapping)
  | target (path identity : String)
  | parameter (parameter : Option Parameter)
  | actual (token : Option TypeToken)
  | expected (tokens : Except Defect (List TypeToken))
  | isRegistered (registered : Bool)
  | notices (notices : List Notice)
  | within (answers : List Answer) (panicked registered : Bool)
  | panicked
  | refused (refusal : Refusal)
  | checked (report : CheckReport)
  | chained (report : ChainReport)

namespace Answer

def ofExcept {α : Type} (answer : α → Answer) : Except Fault α → Answer
  | .ok a => answer a
  | .error f => fault f

def ofRefusal {α : Type} (answer : α → Answer) : Except Refusal α → Answer
  | .ok a => answer a
  | .error r => refused r

end Answer

/-! ## Single steps -/

namespace Session

def isRegistered (s : Session) : Bool :=
  s.host.registration.current.isSome

def onRegistration (s : Session) (f : Registration → Registration) : Session :=
  { s with host := s.host.onRegistration f }

instance : HasRegistration Session where
  registration s := s.host.registration
  onRegistration := onRegistration
  registration_onRegistration _ _ := rfl

def setSchema (s : Session) : Except Fault Schema → Answer × Session
  | .ok schema => (.count schema.size, { s with schema })
  | .error f => (.fault f, s)

def dropSink (s : Session) (name : String) : Session :=
  match s.sinks.lookup name with
  | some sink =>
    { s.onRegistration (·.release sink) with sinks := s.sinks.filter (·.1 != name) }
  | none => s

def addSink (s : Session) (name : String) (reaction : Reaction) : Session :=
  let s := s.dropSink name
  let (sink, host) := s.host.makeSink
  { s with
    sinks := (name, sink) :: s.sinks
    reactions := (sink, reaction) :: s.reactions
    host }

def memberAnswer (e : Entity) (name : String) : Answer :=
  .member ((e.field? name).map (·.column)) ((e.association? name).map (·.target))

end Session

/-! ## Runs -/

mutual

def Step.run : Step → Session → Answer × Session
  | .loadSchema entities, s => s.setSchema (Schema.ofEntities entities)
  | .clearSchema, s => s.setSchema (.ok Schema.empty)
  | .putEntity e, s =>
    let (result, schema) := (Schema.register e).run.run s.schema
    (.ofExcept (fun _ => .count schema.size) result, { s with schema })
  | .schemaSize, s => (.size s.schema.size s.schema.isEmpty, s)
  | .entity path, s => (.ofExcept .entity (Metadata.entity s.schema path), s)
  | .findEntity path, s => ((s.schema.find? path).elim .noEntity .entity, s)
  | .member path name, s =>
    (.ofExcept (Session.memberAnswer · name) (Metadata.entity s.schema path), s)
  | .ofClass className, s =>
    (.ofClass (Metadata.isMapped s.schema className) (Metadata.rootOf? s.schema className), s)
  | .field path name, s => (.ofExcept .field (Metadata.field s.schema path name), s)
  | .target path name, s =>
    (.ofExcept (fun (e, identity) => .target e.path identity)
      (Metadata.target s.schema path name), s)
  | .clearParameters, s => (.count 0, { s with parameters := .empty })
  | .bind binding, s =>
    let parameters := s.parameters.bind binding
    (.count parameters.size, { s with parameters })
  | .parameterCount, s => (.size s.parameters.size s.parameters.isEmpty, s)
  | .lookup name, s => (.parameter (s.parameters.find? name), s)
  | .actual text inference, s =>
    (.actual ((s.context inference).actual? (Parameter.bareName text)), s)
  | .expected path fieldPath, s => (.expected (Metadata.expected s.schema path fieldPath), s)
  | .makeSink name reaction, s =>
    let s := s.addSink name reaction
    (.isRegistered s.isRegistered, s)
  | .registerSink none, s =>
    let s := s.onRegistration (·.write none)
    (.isRegistered s.isRegistered, s)
  | .registerSink (some name), s =>
    match s.sinks.lookup name with
    | some sink =>
      let s := s.onRegistration (·.write (some sink))
      (.isRegistered s.isRegistered, s)
    | none => (.refused (.unknownSink name), s)
  | .dropSink name, s =>
    let s := s.dropSink name
    (.isRegistered s.isRegistered, s)
  | .readSink name, s =>
    match s.sinks.lookup name with
    | some sink => (.notices (s.host.journal.notices sink), s)
    | none => (.refused (.unknownSink name), s)
  | .isRegistered, s => (.isRegistered s.isRegistered, s)
  | .within name steps, s =>
    match s.sinks.lookup name with
    | some sink =>
      let s := s.onRegistration (·.retain sink)
      let ((answers, panicked), s') := HasRegistration.withSink sink (Step.runAll steps) s
      (.within answers panicked s'.isRegistered, s'.onRegistration (·.release sink))
    | none => (.refused (.unknownSink name), s)
  | .panic, s => (.panicked, s)
  | .check request, s =>
    let (result, s) := s.check request
    (.ofRefusal .checked result, s)
  | .chain visitors statements, s =>
    let (result, s) := s.runChain visitors statements
    (.ofRefusal .chained result, s)

/-- Runs steps up to the first panic. The flag tells whether there was one. -/
def Step.runAll : List Step → Session → (List Answer × Bool) × Session
  | [], s => (([], false), s)
  | .panic :: _, s => (([.panicked], true), s)
  | step :: steps, s =>
    let (answer, s) := Step.run step s
    let ((answers, panicked), s) := Step.runAll steps s
    ((answer :: answers, panicked), s)

end

namespace Session

def answers (steps : List Step) : List Answer :=
  (Step.runAll steps {}).1.1

def ofEntities (entities : List Entity) (bindings : List Binding) : Except Fault Session := do
  let schema ← Schema.ofEntities entities
  return { schema, parameters := .ofList bindings }

end Session

end FilterTyping
