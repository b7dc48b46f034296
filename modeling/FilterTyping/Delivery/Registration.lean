/-!
# Sinks and the registration

A sink takes in mismatches. At most one sink is registered for the whole process. The registration
does not keep its sink alive: a sink lives as long as it has an owner, and a registration of a sink
that no longer lives counts for nothing.
-/

namespace FilterTyping

structure Sink where
  serial : Nat
  deriving DecidableEq, Repr

structure Registration where
  slot : Option Sink := none
  /-- The sinks that are owned, once for each owner. -/
  owners : List Sink := []
  made : Nat := 0
  deriving DecidableEq, Repr

namespace Registration

/-- The sink that is registered and alive. -/
def current (r : Registration) : Option Sink :=
  r.slot.filter (r.owners.contains ·)

theorem current_eq_some_iff {r : Registration} {sink : Sink} :
    r.current = some sink ↔ r.slot = some sink ∧ sink ∈ r.owners := by
  simp [current, Option.filter_eq_some_iff]

def make (r : Registration) : Sink × Registration :=
  (⟨r.made⟩, { r with owners := ⟨r.made⟩ :: r.owners, made := r.made + 1 })

def release (r : Registration) (sink : Sink) : Registration :=
  { r with owners := r.owners.erase sink }

def write (r : Registration) (slot : Option Sink) : Registration :=
  { r with slot }

def retain (r : Registration) (sink : Sink) : Registration :=
  { r with owners := sink :: r.owners }

/-! ## Counting owners -/

theorem count_owners_make (r : Registration) (sink : Sink) :
    r.owners.count sink ≤ r.make.2.owners.count sink :=
  List.count_le_count_cons

theorem count_owners_retain (r : Registration) (other sink : Sink) :
    (r.retain other).owners.count sink =
      r.owners.count sink + if other = sink then 1 else 0 := by
  simp [retain, List.count_cons]

theorem count_owners_release (r : Registration) (other sink : Sink) :
    (r.release other).owners.count sink =
      r.owners.count sink - if other = sink then 1 else 0 := by
  by_cases h : other = sink
  · subst h
    simp [release]
  · simp [release, h, List.count_erase_of_ne (Ne.symm h)]

end Registration

/-! ## Scopes -/

class HasRegistration (σ : Type) where
  registration : σ → Registration
  onRegistration : σ → (Registration → Registration) → σ
  registration_onRegistration (s : σ) (f : Registration → Registration) :
    registration (onRegistration s f) = f (registration s)

namespace HasRegistration

/-- Runs `body` with a sink in the slot, and then writes the slot that was found, also after a
panic. -/
def withSink {σ α : Type} [HasRegistration σ] (sink : Sink) (body : σ → α × σ) (s : σ) : α × σ :=
  let found := (registration s).slot
  let (a, s') := body (onRegistration s (·.write (some sink)))
  (a, onRegistration s' (·.write found))

end HasRegistration

end FilterTyping
