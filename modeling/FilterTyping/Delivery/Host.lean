import FilterTyping.Delivery.Journal

/-!
# The host

The state that checks act on, and the actions on it. An action may panic; what it did until then
stays done.
-/

namespace FilterTyping

structure Host where
  registration : Registration := {}
  journal : Journal := []
  allowances : List Nat := []
  deriving DecidableEq, Repr

inductive Panic where
  | panic
  deriving DecidableEq, Repr

abbrev HostM := ExceptT Panic (StateM Host)

theorem HostM.run_bind {α β : Type} (action : HostM α) (next : α → HostM β) (h : Host) :
    (action >>= next).run.run h =
      match action.run.run h with
      | (.ok a, h') => (next a).run.run h'
      | (.error p, h') => (.error p, h') := by
  simp only [ExceptT.run, StateT.run, bind, ExceptT.bind, ExceptT.mk, StateT.bind]
  rcases action h with ⟨_ | _, h'⟩ <;> rfl

@[simp]
theorem HostM.run_get (h : Host) : (get : HostM Host).run.run h = (.ok h, h) := rfl

namespace Host

def record (event : Event) : HostM Unit :=
  modify fun h => { h with journal := h.journal ++ [event] }

@[simp]
theorem run_record (event : Event) (h : Host) :
    (record event).run.run h = (.ok (), { h with journal := h.journal ++ [event] }) := rfl

def onRegistration (h : Host) (f : Registration → Registration) : Host :=
  { h with registration := f h.registration }

instance : HasRegistration Host where
  registration := Host.registration
  onRegistration := onRegistration
  registration_onRegistration _ _ := rfl

/-- Runs an action with one owner more of a sink, up to the end of the action or its panic. -/
def holding {α : Type} (sink : Sink) (action : HostM α) : HostM α := fun h =>
  let (result, h') := action (h.onRegistration (·.retain sink))
  (result, h'.onRegistration (·.release sink))

theorem run_holding {α : Type} (sink : Sink) (action : HostM α) (h : Host) :
    (holding sink action).run.run h =
      let (result, h') := action.run.run (h.onRegistration (·.retain sink))
      (result, h'.onRegistration (·.release sink)) := rfl

def makeSink (h : Host) : Sink × Host :=
  let (sink, registration) := h.registration.make
  (sink, { h with registration })

def deliver (react : Sink → HostM Unit) (sink : Sink) (m : Mismatch) : HostM Unit := do
  record (.delivered sink m.notice)
  react sink

def told (h : Host) (sink : Sink) (m : Mismatch) : Host :=
  { h with
    registration := h.registration.retain sink
    journal := h.journal ++ [.delivered sink m.notice] }

def grant (h : Host) (count : Nat) : Nat × Host :=
  (h.allowances.length, { h with allowances := h.allowances ++ [count] })

def spend (place : Nat) : HostM Bool := do
  match (← get).allowances[place]? with
  | some (left + 1) =>
    modify fun h => { h with allowances := h.allowances.set place left }
    return true
  | _ => return false

/-- Runs an action and gives what it added to the journal too. -/
def observe {α : Type} (action : HostM α) (h : Host) : (Except Panic α × Journal) × Host :=
  let (result, h') := action.run.run h
  ((result, h'.journal.drop h.journal.length), h')

end Host

end FilterTyping
