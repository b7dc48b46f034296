import FilterTyping.Session.Run
import Mathlib.Data.Finset.Card
import Mathlib.Data.Finset.Insert

/-!
# What a schema holds

A schema holds the last entity that it accepted under each path, and only valid ones, whichever way
it came about.
-/

namespace FilterTyping

/-! ## Histories -/

/-- A way to the schema, with the entities accepted on it, in order. -/
inductive Schema.Reached : List Entity → Schema → Prop
  | empty : Reached [] .empty
  | loaded {entities : List Entity} {s : Schema} (hloaded : ofEntities entities = .ok s) :
    Reached entities s
  | registered {accepted : List Entity} {s s' : Schema} {e : Entity} (hreached : Reached accepted s)
    (hregister : (register e).run.run s = (.ok (), s')) : Reached (accepted ++ [e]) s'
  | refused {accepted : List Entity} {s s' : Schema} {e : Entity} {fault : Fault}
    (hreached : Reached accepted s) (hregister : (register e).run.run s = (.error fault, s')) :
    Reached accepted s'

def Schema.Reachable (s : Schema) : Prop :=
  ∃ accepted, Reached accepted s

namespace Schema

variable {s s' : Schema} {e : Entity}

theorem run_register (s : Schema) (e : Entity) :
    (∃ hvalid : e.Valid, (register e).run.run s = (.ok (), s.insert e hvalid)) ∨
      ∃ fault, e.validate = .error fault ∧ ¬ e.Valid ∧
        (register e).run.run s = (.error fault, s) := by
  by_cases hvalid : e.Valid
  · exact .inl ⟨hvalid, run_register_of_valid hvalid⟩
  · obtain ⟨fault, hfault⟩ := Entity.exists_fault_of_not_valid hvalid
    exact .inr ⟨fault, hfault, hvalid, run_register_of_fault hfault⟩

theorem Reached.after_register {accepted : List Entity} (hreached : Reached accepted s)
    (e : Entity) : ((register e).run.run s).2.Reachable := by
  rcases run_register s e with ⟨hvalid, hregister⟩ | ⟨fault, -, -, hregister⟩
  · rw [hregister]
    exact ⟨accepted ++ [e], hreached.registered hregister⟩
  · rw [hregister]
    exact ⟨accepted, hreached.refused hregister⟩

/-- The schema is what the accepted entities come to. -/
structure Holds (s : Schema) (accepted : List Entity) : Prop where
  find?_eq (path : String) : s.find? path = (accepted.filter (·.path = path)).getLast?
  size_eq : s.size = (accepted.map (·.path)).toFinset.card
  valid (e : Entity) (he : e ∈ accepted) : e.Valid

namespace Holds

variable {accepted : List Entity}

theorem empty : Schema.empty.Holds [] := by
  refine ⟨?_, ?_, ?_⟩
  · simp
  · simp [size, Schema.empty]
  · simp

theorem mem_of_find? (hholds : s.Holds accepted) {path : String} (hfound : s.find? path = some e) :
    e ∈ accepted ∧ e.path = path := by
  rw [hholds.find?_eq] at hfound
  have hmem := List.mem_of_getLast? hfound
  simpa using hmem

theorem isSome_find?_iff (hholds : s.Holds accepted) (path : String) :
    (s.find? path).isSome ↔ path ∈ accepted.map (·.path) := by
  rw [hholds.find?_eq, List.getLast?_isSome, List.mem_map, Ne, List.filter_eq_nil_iff]
  simp

theorem insert (hholds : s.Holds accepted) (hvalid : e.Valid) :
    (s.insert e hvalid).Holds (accepted ++ [e]) := by
  refine ⟨?_, ?_, ?_⟩
  · intro path
    rw [find?_insert, hholds.find?_eq, List.filter_append]
    by_cases hpath : e.path = path <;> simp [hpath]
  · have hknown := hholds.isSome_find?_iff e.path
    have hpaths : ((accepted ++ [e]).map (·.path)).toFinset =
        Insert.insert e.path (accepted.map (·.path)).toFinset := by
      rw [List.map_append, List.toFinset_append, Finset.union_comm]
      rfl
    rw [size_insert, hholds.size_eq, hpaths]
    -- An entity in place of an older one brings no new path.
    split
    · next hfound => rw [Finset.card_insert_of_mem (List.mem_toFinset.mpr (hknown.mp hfound))]
    · next hfound =>
      rw [Finset.card_insert_of_notMem fun hmem => hfound (hknown.mpr (List.mem_toFinset.mp hmem))]
  · intro other hother
    rcases List.mem_append.mp hother with hmem | hmem
    · exact hholds.valid other hmem
    · rw [List.mem_singleton.mp hmem]
      exact hvalid

theorem foldlM_add {entities : List Entity} (hholds : s.Holds accepted)
    (hload : entities.foldlM add s = .ok s') : s'.Holds (accepted ++ entities) := by
  induction entities generalizing s accepted with
  | nil =>
    cases hload
    rwa [List.append_nil]
  | cons e entities ih =>
    rw [List.foldlM_cons] at hload
    cases hadd : s.add e with
    | error fault =>
      rw [hadd] at hload
      cases hload
    | ok next =>
      rw [hadd] at hload
      obtain ⟨hvalid, -, rfl⟩ := add_eq_ok_iff.mp hadd
      have hrest := ih (hholds.insert hvalid) hload
      rwa [List.append_assoc] at hrest

end Holds

theorem Reached.holds {accepted : List Entity} (hreached : Reached accepted s) :
    s.Holds accepted := by
  induction hreached with
  | empty => exact .empty
  | loaded hloaded => exact Holds.empty.foldlM_add (ofEntities_eq_ok_iff.mp hloaded).1
  | @registered _ before _ e _ hregister ih =>
    rcases run_register before e with ⟨hvalid, hrun⟩ | ⟨fault, -, -, hrun⟩
    · cases hrun.symm.trans hregister
      exact ih.insert hvalid
    · cases hrun.symm.trans hregister
  | @refused _ before _ e _ _ hregister ih =>
    rcases run_register before e with ⟨hvalid, hrun⟩ | ⟨fault, -, -, hrun⟩
    · cases hrun.symm.trans hregister
    · cases hrun.symm.trans hregister
      exact ih

end Schema

/-! ## Sessions -/

namespace Session

theorem schema_check (s : Session) (request : CheckRequest) :
    (s.check request).2.schema = s.schema := by
  unfold check
  rcases s.host.makeSink with ⟨own, host⟩
  rcases hsetup : (s.setup own request.policy).run host with _ | ⟨report, host'⟩ <;>
    simp only [hsetup]

theorem schema_runChain (s : Session) (visitors : List (VisitorTree VisitorChoice))
    (statements : List Statement) : (s.runChain visitors statements).2.schema = s.schema := by
  unfold runChain
  rcases s.host.makeSink with ⟨own, host⟩
  rcases hsetup : (VisitorTree.mapAllM (s.setupVisitor own) visitors).run host with
    _ | ⟨chain, host'⟩ <;> simp only [hsetup]

theorem schema_dropSink (s : Session) (name : String) : (s.dropSink name).schema = s.schema := by
  unfold dropSink
  split <;> rfl

theorem reachable_setSchema {s : Session} (hs : s.schema.Reachable) {result : Except Fault Schema}
    (hresult : ∀ schema, result = .ok schema → schema.Reachable) :
    (s.setSchema result).2.schema.Reachable := by
  cases result with
  | error fault => exact hs
  | ok schema => exact hresult schema rfl

theorem run_putEntity_of_valid (s : Session) {e : Entity} (hvalid : e.Valid) :
    (Step.putEntity e).run s =
      (.count (s.schema.insert e hvalid).size, { s with schema := s.schema.insert e hvalid }) := by
  rw [Step.run, Schema.run_register_of_valid hvalid]
  rfl

theorem run_putEntity_of_fault (s : Session) {e : Entity} {fault : Fault}
    (hfault : e.validate = .error fault) : (Step.putEntity e).run s = (.fault fault, s) := by
  rw [Step.run, Schema.run_register_of_fault hfault]
  rfl

end Session

theorem Step.runAll_cons_snd {step : Step} (hstep : step ≠ .panic) (steps : List Step)
    (s : Session) : (Step.runAll (step :: steps) s).2 = (Step.runAll steps (step.run s).2).2 := by
  rw [Step.runAll]
  exact hstep

-- The induction is on the steps. A scope changes the schema by the steps inside it only.
mutual

theorem Step.reachable_run : ∀ (step : Step) {s : Session}, s.schema.Reachable →
    (step.run s).2.schema.Reachable
  | step, s, hs => by
    cases step with
    | loadSchema entities =>
      rw [Step.run]
      exact Session.reachable_setSchema hs fun schema hschema => ⟨entities, .loaded hschema⟩
    | clearSchema => exact ⟨[], .empty⟩
    | putEntity e =>
      obtain ⟨accepted, hreached⟩ := hs
      rw [Step.run]
      exact hreached.after_register e
    | makeSink name reaction =>
      rw [Step.run]
      change (s.dropSink name).schema.Reachable
      rwa [Session.schema_dropSink]
    | registerSink found =>
      cases found with
      | none => exact hs
      | some name =>
        rw [Step.run]
        split <;> exact hs
    | dropSink name =>
      rw [Step.run]
      change (s.dropSink name).schema.Reachable
      rwa [Session.schema_dropSink]
    | readSink name =>
      rw [Step.run]
      split <;> exact hs
    | within name steps =>
      rw [Step.run]
      split
      · exact Step.reachable_runAll steps hs
      · exact hs
    | check request =>
      rw [Step.run]
      change (s.check request).2.schema.Reachable
      rwa [Session.schema_check]
    | chain visitors statements =>
      rw [Step.run]
      change (s.runChain visitors statements).2.schema.Reachable
      rwa [Session.schema_runChain]
    | _ => exact hs

theorem Step.reachable_runAll : ∀ (steps : List Step) {s : Session}, s.schema.Reachable →
    (Step.runAll steps s).2.schema.Reachable
  | [], _, hs => hs
  | step :: steps, s, hs => by
    by_cases hpanic : step = .panic
    · subst hpanic
      exact hs
    · rw [Step.runAll_cons_snd hpanic]
      exact Step.reachable_runAll steps (Step.reachable_run step hs)

end

theorem Step.reached_putAll {accepted : List Entity} (entities : List Entity) {s : Session}
    (hreached : s.schema.Reached accepted) :
    (Step.runAll (entities.map .putEntity) s).2.schema.Reached
      (accepted ++ entities.filter (·.Valid)) := by
  induction entities generalizing s accepted with
  | nil => simpa [Step.runAll] using hreached
  | cons e entities ih =>
    have hstep : Step.putEntity e ≠ .panic := nofun
    rw [List.map_cons, Step.runAll_cons_snd hstep, List.filter_cons]
    by_cases hvalid : e.Valid
    · have hregistered := hreached.registered (Schema.run_register_of_valid hvalid)
      rw [Session.run_putEntity_of_valid s hvalid, if_pos (decide_eq_true hvalid),
        List.append_cons]
      exact ih hregistered
    · obtain ⟨fault, hfault⟩ := Entity.exists_fault_of_not_valid hvalid
      rw [Session.run_putEntity_of_fault s hfault, if_neg (by simpa using hvalid)]
      exact ih hreached

/-! ## Reachable schemas -/

/-- However a schema came about, each entity in it is the last of its path that was accepted, and
one that is refused changes nothing. -/
theorem reached_schema_holds_last_accepted :
    (∀ (accepted : List Entity) (s : Schema), s.Reached accepted →
      (∀ path e, s.find? path = some e →
        e.path = path ∧ (e.fields.map (·.name) ++ e.associations.map (·.name)).Nodup ∧
          ∀ name ∈ e.identifier, ∃ f ∈ e.fields, f.name = name) ∧
      (∀ e ∈ accepted, e.Valid) ∧
      (∀ path, s.find? path = (accepted.filter (·.path = path)).getLast?) ∧
      s.size = (accepted.map (·.path)).toFinset.card) ∧
    (∀ (session : Session) (e : Entity),
      match (Schema.register e).run.run session.schema with
      | (.error fault, s) => ¬ e.Valid ∧ s = session.schema ∧
        (Step.putEntity e).run session = (.fault fault, session)
      | (.ok (), s) => e.Valid ∧
        (Step.putEntity e).run session = (.count s.size, { session with schema := s }) ∧
        s.find? e.path = some e ∧
        ∀ path, path ≠ e.path → s.find? path = session.schema.find? path) ∧
    (∀ (session : Session) (accepted entities : List Entity), session.schema.Reached accepted →
      (Step.runAll (entities.map .putEntity) session).2.schema.Reached
        (accepted ++ entities.filter (·.Valid))) ∧
    ∀ steps, (Step.runAll steps {}).2.schema.Reachable := by
  refine ⟨?_, ?_, ?_, ?_⟩
  · intro accepted s hreached
    have hholds := hreached.holds
    refine ⟨fun path e hfound => ?_, hholds.valid, hholds.find?_eq, hholds.size_eq⟩
    exact ⟨s.path_eq hfound, (s.valid hfound).nodup, (s.valid hfound).identifier_field⟩
  · intro session e
    rcases Schema.run_register session.schema e with ⟨hvalid, hrun⟩ | ⟨fault, hfault, hvalid, hrun⟩
    · rw [hrun]
      refine ⟨hvalid, Session.run_putEntity_of_valid session hvalid, ?_, fun path hpath => ?_⟩
      · rw [Schema.find?_insert, if_pos rfl]
      · rw [Schema.find?_insert, if_neg (Ne.symm hpath)]
    · rw [hrun]
      exact ⟨hvalid, rfl, Session.run_putEntity_of_fault session hfault⟩
  · intro session accepted entities hreached
    exact Step.reached_putAll entities hreached
  · intro steps
    exact Step.reachable_runAll steps ⟨[], .empty⟩

def plainOrder : Entity where
  path := "Order"
  identifier := ["id"]
  fields := [⟨"id", .column .integer, none⟩]

def customerOfOrders : Entity where
  path := "Customer"
  associations := [⟨"orders", "Order", .toMany⟩]

def pricedOrder : Entity :=
  { plainOrder with fields := plainOrder.fields ++ [⟨"price", .column .float, none⟩] }

def orderOfSelf : Entity :=
  { plainOrder with fields := [], associations := [⟨"id", "Order", .toOne⟩] }

theorem pricedOrder_takes_the_place :
    ∃ s, Schema.ofEntities [plainOrder, customerOfOrders] = .ok s ∧
      let steps := [.putEntity orderOfSelf, .putEntity pricedOrder]
      let s' := (Step.runAll steps { schema := s }).2.schema
      s'.find? "Order" = some pricedOrder ∧ s'.find? "Customer" = some customerOfOrders ∧
        s'.size = 2 := by
  obtain ⟨s, hload⟩ : ∃ s, Schema.ofEntities [plainOrder, customerOfOrders] = .ok s := ⟨_, rfl⟩
  obtain ⟨hholds, -, hputs, -⟩ := reached_schema_holds_last_accepted
  have hreached := hputs { schema := s } _ [orderOfSelf, pricedOrder] (.loaded hload)
  obtain ⟨-, -, hfind, hsize⟩ := hholds _ _ hreached
  refine ⟨s, hload, ?_, ?_, ?_⟩
  · exact (hfind "Order").trans (by decide)
  · exact (hfind "Customer").trans (by decide)
  · exact hsize.trans (by decide)

end FilterTyping
