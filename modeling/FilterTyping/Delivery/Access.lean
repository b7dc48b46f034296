import FilterTyping.Delivery.Command

/-!
# Accesses

What a program does with sinks and with the registration, access by access. From a list of accesses
one can read off what was last written to the slot, and how many owners a sink has.
-/

namespace FilterTyping

inductive Access where
  | made (sink : Sink)
  | shared (sink : Sink)
  | dropped (sink : Sink)
  | wrote (slot : Option Sink)
  | entered (sink : Sink)
  -- A scope on the sink ends and writes the slot that it found.
  | left (sink : Sink) (found : Option Sink)
  | looked (answer : Option Sink)
  -- A report tells the sink of a mismatch, and holds it until it comes back.
  | told (sink : Sink)
  | returned (sink : Sink)
  deriving DecidableEq, Repr

namespace Access

def written? : Access → Option (Option Sink)
  | wrote slot => some slot
  | entered sink => some (some sink)
  | left _ found => some found
  | _ => none

def gained? : Access → Option Sink
  | made sink | shared sink | entered sink | told sink => some sink
  | _ => none

def lost? : Access → Option Sink
  | dropped sink | left sink _ | returned sink => some sink
  | _ => none

def named? : Access → Option Sink
  | wrote slot => slot
  | entered sink => some sink
  | _ => none

def told? : Access → Option Sink
  | told sink => some sink
  | _ => none

end Access

namespace Registration

variable (start : Registration) (accesses : List Access)

def lastWrite : Option Sink :=
  (accesses.filterMap Access.written?).getLast?.getD start.slot

def ownerCount (sink : Sink) : Nat :=
  start.owners.count sink + (accesses.filterMap Access.gained?).count sink
    - (accesses.filterMap Access.lost?).count sink

/-- The slot was last written with the sink, and the sink has an owner still. -/
def Registers (sink : Sink) : Prop :=
  start.lastWrite accesses = some sink ∧ 0 < start.ownerCount accesses sink

/-- The program puts no sink in the slot but one that has an owner at that moment. -/
def NamesOwned : Prop :=
  ∀ i (hi : i < accesses.length), ∀ sink ∈ accesses[i].named?,
    0 < start.ownerCount (accesses.take i) sink

instance : Decidable (start.NamesOwned accesses) :=
  inferInstanceAs (Decidable (∀ i (hi : i < accesses.length), ∀ sink ∈ accesses[i].named?,
    0 < start.ownerCount (accesses.take i) sink))

structure Made : Prop where
  serial_lt_of_mem_owners : ∀ sink ∈ start.owners, sink.serial < start.made
  serial_lt_of_mem_slot : ∀ sink ∈ start.slot, sink.serial < start.made

end Registration

/-! ## Accesses of commands -/

namespace Command

mutual

def accesses (held : List Sink) : Command → Host → List Access
  | make, h => [.made h.registration.make.1]
  | share sink, h => if sink ∈ h.registration.owners then [.shared sink] else []
  | drop sink, h =>
    if held.count sink < h.registration.owners.count sink then [.dropped sink] else []
  | register slot, _ => [.wrote slot]
  | look next, h =>
    .looked h.registration.current :: accessesAll held (next h.registration.current) h
  | report m reaction, h =>
    .looked h.registration.current ::
      match h.registration.current with
      | some sink =>
        .told sink :: (accessesAll (sink :: held) (reaction sink) (h.told sink m)
          ++ [.returned sink])
      | none => []
  | within sink body, h =>
    .entered sink :: (accessesAll (sink :: held) body (entered h sink)
      ++ [.left sink h.registration.slot])
  | attempt body, h => accessesAll held body h
  | panic, _ => []

def accessesAll (held : List Sink) : List Command → Host → List Access
  | [], _ => []
  | command :: commands, h =>
    accesses held command h ++
      match (run held command).run.run h with
      | (.ok _, h') => accessesAll held commands h'
      | (.error _, _) => []

end

variable {held : List Sink} {h : Host}

theorem accessesAll_singleton (command : Command) :
    accessesAll held [command] h = accesses held command h := by
  rw [accessesAll]
  split <;> simp [accessesAll]

theorem accessesAll_append {first second : List Command} {h' : Host}
    (hfirst : (runAll held first).run.run h = (.ok (), h')) :
    accessesAll held (first ++ second) h =
      accessesAll held first h ++ accessesAll held second h' := by
  induction first generalizing h with
  | nil =>
    obtain rfl : h = h' := congrArg Prod.snd hfirst
    rw [accessesAll, List.nil_append, List.nil_append]
  | cons command first ih =>
    rw [runAll_cons] at hfirst
    rw [List.cons_append, accessesAll, accessesAll]
    rcases hrun : (run held command).run.run h with ⟨_ | _, h₁⟩
    · rw [hrun] at hfirst
      cases hfirst
    · rw [hrun] at hfirst
      rw [List.append_assoc]
      exact congrArg _ (ih hfirst)

end Command

end FilterTyping
