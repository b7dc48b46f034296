import FilterTyping.Delivery.Access
import FilterTyping.Proofs.RegistrationScopes

/-!
# Owners and the registered sink

The registration does not own its sink. Whatever a program does, a look-up finds the sink that was
last written to the slot, and only while that sink has an owner.
-/

namespace FilterTyping

/-! ## Reading accesses -/

namespace Registration

variable {start : Registration} {before : List Access} {access : Access}

theorem lastWrite_concat :
    start.lastWrite (before ++ [access]) = access.written?.getD (start.lastWrite before) := by
  cases hwritten : access.written? with
  | none => simp [lastWrite, List.filterMap_append, hwritten]
  | some slot => simp [lastWrite, List.filterMap_append, hwritten]

theorem count_filterMap_concat (f : Access → Option Sink) (sink : Sink) :
    ((before ++ [access]).filterMap f).count sink =
      (before.filterMap f).count sink + if f access = some sink then 1 else 0 := by
  rw [List.filterMap_append, List.count_append]
  cases hf : f access with
  | none => simp [hf]
  | some other => simp [hf, List.count_singleton]

theorem NamesOwned.of_append {rest : List Access} (hnames : start.NamesOwned (before ++ rest)) :
    start.NamesOwned before := by
  intro i hi sink hsink
  have hi' : i < (before ++ rest).length := by
    rw [List.length_append]
    omega
  have howned := hnames i hi' sink (by rwa [List.getElem_append_left hi])
  rwa [List.take_append_of_le_length (by omega)] at howned

theorem NamesOwned.concat (hnames : start.NamesOwned before)
    (hnamed : ∀ sink, access.named? = some sink → 0 < start.ownerCount before sink) :
    start.NamesOwned (before ++ [access]) := by
  intro i hi sink hsink
  by_cases hlast : i < before.length
  · rw [List.getElem_append_left hlast] at hsink
    rw [List.take_append_of_le_length (by omega)]
    exact hnames i hlast sink hsink
  · rw [List.length_append, List.length_singleton] at hi
    obtain rfl : i = before.length := by omega
    rw [List.take_left]
    exact hnamed sink (by simpa using hsink)

theorem NamesOwned.owned_of_named {accesses rest : List Access} {sink : Sink}
    (hnames : start.NamesOwned accesses) (heq : accesses = before ++ access :: rest)
    (hnamed : access.named? = some sink) : 0 < start.ownerCount before sink := by
  subst heq
  have howned := hnames before.length (by simp) sink (by simpa using hnamed)
  rwa [List.take_left] at howned

end Registration

/-! ## Single accesses -/

/-- All that an access can do to the registration, after the accesses `before`. -/
inductive Access.Does (start : Registration) (before : List Access) :
    Access → Registration → Registration → Prop
  | made {r : Registration} : Does start before (.made r.make.1) r r.make.2
  | shared {r : Registration} {sink : Sink} (howned : sink ∈ r.owners) :
    Does start before (.shared sink) r (r.retain sink)
  | dropped {r : Registration} {sink : Sink} (howned : sink ∈ r.owners) :
    Does start before (.dropped sink) r (r.release sink)
  | wrote {r : Registration} {slot : Option Sink} : Does start before (.wrote slot) r (r.write slot)
  | entered {r : Registration} {sink : Sink} :
    Does start before (.entered sink) r ((r.retain sink).write (some sink))
  -- What a scope writes in the end is what the slot held at some earlier moment.
  | left {r : Registration} {sink : Sink} {earlier : List Access} (howned : sink ∈ r.owners)
    (hearlier : earlier <+: before) :
    Does start before (.left sink (start.lastWrite earlier)) r
      ((r.write (start.lastWrite earlier)).release sink)
  | looked {r : Registration} : Does start before (.looked r.current) r r
  | told {r : Registration} {sink : Sink} (hcurrent : r.current = some sink) :
    Does start before (.told sink) r (r.retain sink)
  | returned {r : Registration} {sink : Sink} (howned : sink ∈ r.owners) :
    Does start before (.returned sink) r (r.release sink)

namespace Access.Does

variable {start r r' : Registration} {before : List Access} {access : Access} {sink : Sink}

theorem slot_eq (hdoes : access.Does start before r r') :
    r'.slot = access.written?.getD r.slot := by
  cases hdoes <;> rfl

theorem made_le (hdoes : access.Does start before r r') : r.made ≤ r'.made := by
  cases hdoes with
  | made => exact Nat.le_succ r.made
  | _ => exact Nat.le_refl r.made

theorem count_owners (hdoes : access.Does start before r r') (sink : Sink) :
    r'.owners.count sink + (if access.lost? = some sink then 1 else 0) =
      r.owners.count sink + if access.gained? = some sink then 1 else 0 := by
  cases hdoes with
  | made | shared | entered | told =>
    change (Registration.retain r _).owners.count sink + _ = _
    rw [Registration.count_owners_retain]
    simp [gained?, lost?, Registration.make]
  | dropped howned | left howned | returned howned =>
    change (Registration.release r _).owners.count sink + _ = _
    rw [Registration.count_owners_release]
    simp only [gained?, lost?, Option.some.injEq, reduceCtorEq, if_false]
    split
    · next heq =>
      subst heq
      have := List.count_pos_iff.mpr howned
      omega
    · rfl
  | wrote | looked => rfl

theorem owned_cases (hdoes : access.Does start before r r') (howned : sink ∈ r'.owners) :
    sink ∈ r.owners ∨ (sink.serial = r.made ∧ r'.made = r.made + 1) ∨
      access.named? = some sink := by
  by_cases hgained : access.gained? = some sink
  · cases hdoes with
    | made =>
      obtain rfl := Option.some.inj hgained
      exact .inr (.inl ⟨rfl, rfl⟩)
    | shared hshared =>
      obtain rfl := Option.some.inj hgained
      exact .inl hshared
    | entered => exact .inr (.inr hgained)
    | told hcurrent =>
      obtain rfl := Option.some.inj hgained
      exact .inl (Registration.current_eq_some_iff.mp hcurrent).2
    | _ => cases hgained
  · have hcount := hdoes.count_owners sink
    have hpos := List.count_pos_iff.mpr howned
    rw [if_neg hgained] at hcount
    exact .inl (List.count_pos_iff.mp (by omega))

end Access.Does

/-! ## Histories -/

inductive Registration.Follows (start : Registration) : List Access → Registration → Prop
  | start : Follows start [] start
  | next {before : List Access} {access : Access} {r r' : Registration}
    (hbefore : Follows start before r) (hdoes : access.Does start before r r') :
    Follows start (before ++ [access]) r'

namespace Registration.Follows

variable {start r : Registration} {accesses before rest early : List Access} {access : Access}
  {sink : Sink}

theorem slot_eq (h : start.Follows accesses r) : r.slot = start.lastWrite accesses := by
  induction h with
  | start => rfl
  | next _ hdoes ih => rw [hdoes.slot_eq, lastWrite_concat, ih]

theorem count_owners_eq (h : start.Follows accesses r) (sink : Sink) :
    r.owners.count sink = start.ownerCount accesses sink := by
  -- Without subtraction: nothing is lost that was not there.
  have hsum : r.owners.count sink + (accesses.filterMap Access.lost?).count sink =
      start.owners.count sink + (accesses.filterMap Access.gained?).count sink := by
    induction h with
    | start => rfl
    | next _ hdoes ih =>
      have hstep := hdoes.count_owners sink
      rw [count_filterMap_concat, count_filterMap_concat]
      omega
  unfold ownerCount
  omega

theorem ownerCount_pos_iff (h : start.Follows accesses r) :
    0 < start.ownerCount accesses sink ↔ sink ∈ r.owners := by
  rw [← h.count_owners_eq, List.count_pos_iff]

theorem current_eq_some_iff (h : start.Follows accesses r) :
    r.current = some sink ↔ start.Registers accesses sink := by
  rw [Registration.current_eq_some_iff, Registers, h.slot_eq, h.ownerCount_pos_iff]

theorem split (h : start.Follows accesses r) (heq : accesses = before ++ access :: rest) :
    ∃ found left, start.Follows before found ∧ access.Does start before found left := by
  induction h generalizing rest with
  | start => simp at heq
  | @next earlier last found left hearlier hdoes ih =>
    rcases List.eq_nil_or_concat rest with rfl | ⟨rest, last', rfl⟩
    · obtain ⟨rfl, hlast⟩ := List.append_inj' heq rfl
      obtain rfl := List.singleton_inj.mp hlast
      exact ⟨found, left, hearlier, hdoes⟩
    · have heq' : earlier ++ [last] = (before ++ access :: rest) ++ [last'] := by simpa using heq
      exact ih (List.append_inj_left' heq' rfl)

theorem of_append (h : start.Follows (before ++ rest) r) : ∃ found, start.Follows before found := by
  cases rest with
  | nil => exact ⟨r, by simpa using h⟩
  | cons access rest =>
    obtain ⟨found, _, hbefore, _⟩ := h.split rfl
    exact ⟨found, hbefore⟩

theorem looked_iff (h : start.Follows accesses r) {answer : Option Sink}
    (heq : accesses = before ++ .looked answer :: rest) :
    answer = some sink ↔ start.Registers before sink := by
  obtain ⟨found, left, hbefore, hdoes⟩ := h.split heq
  cases hdoes
  exact hbefore.current_eq_some_iff

theorem registers_of_told (h : start.Follows accesses r)
    (heq : accesses = before ++ .told sink :: rest) : start.Registers before sink := by
  obtain ⟨found, left, hbefore, hdoes⟩ := h.split heq
  cases hdoes with
  | told hcurrent => exact hbefore.current_eq_some_iff.mp hcurrent

theorem owned_of_named (h : start.Follows before r)
    (hnames : start.NamesOwned (before ++ [access])) (hnamed : access.named? = some sink) :
    sink ∈ r.owners :=
  h.ownerCount_pos_iff.mp (hnames.owned_of_named rfl hnamed)

theorem serial_lt_of_owned (hmade : start.Made) (h : start.Follows accesses r)
    (hnames : start.NamesOwned accesses) (hearly : early <+: accesses)
    (howned : 0 < start.ownerCount early sink) : sink.serial < r.made := by
  induction h generalizing early with
  | start =>
    obtain rfl := List.prefix_nil.mp hearly
    exact hmade.serial_lt_of_mem_owners sink (Follows.start.ownerCount_pos_iff.mp howned)
  | @next before access found left hbefore hdoes ih =>
    have hle := hdoes.made_le
    -- A sink that was owned at the access before is below the bound already.
    have hold (hmem : sink ∈ found.owners) : sink.serial < left.made := by
      have hlt := ih hnames.of_append List.prefix_rfl (hbefore.ownerCount_pos_iff.mpr hmem)
      omega
    rcases List.prefix_concat_iff.mp hearly with rfl | hearly
    · have hmem := (Follows.next hbefore hdoes).ownerCount_pos_iff.mp howned
      obtain hmem | ⟨hserial, hnext⟩ | hnamed := hdoes.owned_cases hmem
      · exact hold hmem
      · omega
      · exact hold (hbefore.owned_of_named hnames hnamed)
    · have hlt := ih hnames.of_append hearly howned
      omega

/-- A sink that has lost its last owner has none ever after. -/
theorem unowned_for_good (hmade : start.Made) (h : start.Follows accesses r)
    (hnames : start.NamesOwned accesses) (hbefore : before <+: accesses)
    (hearly : early <+: before) (howned : 0 < start.ownerCount early sink)
    (hgone : start.ownerCount before sink = 0) : start.ownerCount accesses sink = 0 := by
  induction h with
  | start =>
    obtain rfl := List.prefix_nil.mp hbefore
    exact hgone
  | @next middle access found left hmiddle hdoes ih =>
    rcases List.prefix_concat_iff.mp hbefore with rfl | hbefore
    · exact hgone
    have hfound : sink ∉ found.owners := by
      rw [← hmiddle.ownerCount_pos_iff, ih hnames.of_append hbefore]
      exact Nat.lt_irrefl 0
    have hserial : sink.serial < found.made :=
      hmiddle.serial_lt_of_owned hmade hnames.of_append (hearly.trans hbefore) howned
    -- Only a making could give the sink an owner again, and what is made is new.
    refine Nat.eq_zero_of_not_pos fun hpos => ?_
    have hmem := (Follows.next hmiddle hdoes).ownerCount_pos_iff.mp hpos
    obtain hmem | ⟨hnew, _⟩ | hnamed := hdoes.owned_cases hmem
    · exact hfound hmem
    · omega
    · exact hfound (hmiddle.owned_of_named hnames hnamed)

theorem not_registers_of_unowned (hmade : start.Made) (h : start.Follows accesses r)
    (hnames : start.NamesOwned accesses) {between middle : List Access}
    (heq : accesses = before ++ between ++ middle ++ rest)
    (howned : 0 < start.ownerCount before sink)
    (hgone : start.ownerCount (before ++ between) sink = 0) :
    ¬ start.Registers (before ++ between ++ middle) sink := by
  subst heq
  obtain ⟨found, hfound⟩ := h.of_append
  intro ⟨_, hpos⟩
  have hnone := hfound.unowned_for_good hmade hnames.of_append (List.prefix_append _ middle)
    (List.prefix_append before between) howned hgone
  omega

theorem named_of_written (h : start.Follows accesses r) (hearly : early <+: accesses)
    (hwritten : start.lastWrite early = some sink) :
    start.slot = some sink ∨ ∃ access ∈ early, access.named? = some sink := by
  induction h generalizing early with
  | start =>
    obtain rfl := List.prefix_nil.mp hearly
    exact .inl hwritten
  | @next before access found left hbefore hdoes ih =>
    rcases List.prefix_concat_iff.mp hearly with rfl | hearly
    · -- A scope puts back only what was in the slot before.
      have hold {earlier : List Access} (hearlier : earlier <+: before)
          (hwritten : start.lastWrite earlier = some sink) :
          start.slot = some sink ∨ ∃ other ∈ before ++ [access], other.named? = some sink := by
        obtain hslot | ⟨other, hmem, hnamed⟩ := ih hearlier hwritten
        · exact .inl hslot
        · exact .inr ⟨other, List.mem_append_left _ (hearlier.subset hmem), hnamed⟩
      rw [lastWrite_concat] at hwritten
      cases hdoes with
      | wrote | entered => exact .inr ⟨_, List.mem_append_right _ List.mem_cons_self, hwritten⟩
      | left _ hearlier => exact hold hearlier hwritten
      | _ => exact hold List.prefix_rfl hwritten
    · exact ih hearly hwritten

theorem made_le (h : start.Follows accesses r) : start.made ≤ r.made := by
  induction h with
  | start => exact Nat.le_refl _
  | next _ hdoes ih => exact Nat.le_trans ih hdoes.made_le

theorem named_since_made (hmade : start.Made) (h : start.Follows accesses r)
    (hnames : start.NamesOwned accesses) {between : List Access}
    (heq : accesses = before ++ .made sink :: (between ++ rest))
    (hwritten : start.lastWrite (before ++ .made sink :: between) = some sink) :
    ∃ access ∈ between, access.named? = some sink := by
  obtain ⟨found, left, hbefore, hdoes⟩ := h.split heq
  have hserial : sink.serial = found.made := by
    cases hdoes
    rfl
  have hearly : before ++ .made sink :: between <+: accesses := ⟨rest, by simp [heq]⟩
  obtain hslot | ⟨access, hmem, hnamed⟩ := h.named_of_written hearly hwritten
  · have hlt := hmade.serial_lt_of_mem_slot sink hslot
    have hle := hbefore.made_le
    omega
  · rcases List.mem_append.mp hmem with hmem | hmem
    · -- Named before it was made, the sink would have had an owner before.
      obtain ⟨earlier, later, rfl⟩ := List.append_of_mem hmem
      have howned := (heq ▸ hnames).of_append.owned_of_named rfl hnamed
      have hlt := hbefore.serial_lt_of_owned hmade (heq ▸ hnames).of_append ⟨_, rfl⟩ howned
      omega
    · rcases List.mem_cons.mp hmem with rfl | hmem
      · cases hnamed
      · exact ⟨access, hmem, hnamed⟩

end Registration.Follows

/-! ## Programs -/

namespace Command

/-- The accesses account for all that has happened to the host since `start`. -/
structure Accounted (start : Host) (accesses : List Access) (h : Host) : Prop where
  follows : start.registration.Follows accesses h.registration
  deliveries : h.journal.deliveries.map Prod.fst =
    start.journal.deliveries.map Prod.fst ++ accesses.filterMap Access.told?

theorem Accounted.next {start h h' : Host} {before : List Access} {access : Access}
    (hdone : Accounted start before h)
    (hdoes : access.Does start.registration before h.registration h'.registration)
    (hdeliveries : h'.journal.deliveries.map Prod.fst =
      h.journal.deliveries.map Prod.fst ++ access.told?.toList) :
    Accounted start (before ++ [access]) h' := by
  refine ⟨hdone.follows.next hdoes, ?_⟩
  rw [hdeliveries, hdone.deliveries, List.filterMap_append, List.append_assoc]
  cases htold : access.told? <;> simp [htold]

theorem Accounted.quietly {start h h' : Host} {before : List Access} {access : Access}
    (hdone : Accounted start before h)
    (hdoes : access.Does start.registration before h.registration h'.registration)
    (hjournal : h'.journal = h.journal) (hquiet : access.told? = none) :
    Accounted start (before ++ [access]) h' :=
  hdone.next hdoes (by simp [hquiet, hjournal])

theorem Accounted.told {start h : Host} {before : List Access} {sink : Sink}
    (hdone : Accounted start before h) (hcurrent : h.registration.current = some sink)
    (m : Mismatch) : Accounted start (before ++ [.told sink]) (h.told sink m) :=
  hdone.next (.told hcurrent) (by simp [Host.told, Journal.deliveries, Access.told?])

theorem owned_after_runAll {sink : Sink} (commands : List Command) (held : List Sink) {h : Host}
    (howned : sink ∈ h.registration.owners) :
    sink ∈ ((runAll (sink :: held) commands).run.run h).2.registration.owners := by
  apply List.one_le_count_iff.mp
  apply le_owners_runAll sink commands (sink :: held) 1 h
  · exact List.one_le_count_iff.mpr List.mem_cons_self
  · exact List.one_le_count_iff.mpr howned

mutual

theorem Accounted.run : ∀ (command : Command) (held : List Sink) {start h : Host}
    {before : List Access}, Accounted start before h →
      Accounted start (before ++ accesses held command h) ((run held command).run.run h).2
  | make, _, _, _, _, hdone => by
    rw [accesses]
    exact hdone.quietly .made rfl rfl
  | share sink, _, _, _, _, hdone => by
    rw [accesses, run_share]
    split
    · next howned => exact hdone.quietly (.shared howned) rfl rfl
    · simpa using hdone
  | drop sink, _, _, _, _, hdone => by
    rw [accesses, run_drop]
    split
    · next hlt =>
      have howned := List.count_pos_iff.mp (Nat.zero_lt_of_lt hlt)
      exact hdone.quietly (.dropped howned) rfl rfl
    · simpa using hdone
  | register slot, _, _, _, _, hdone => by
    rw [accesses]
    exact hdone.quietly .wrote rfl rfl
  | look next, held, _, h, _, hdone => by
    rw [accesses, run_look, List.append_cons]
    exact Accounted.runAll (next h.registration.current) held (hdone.quietly .looked rfl rfl)
  | report m reaction, held, start, h, before, hdone => by
    have hlooked : Accounted start (before ++ [.looked h.registration.current]) h :=
      hdone.quietly .looked rfl rfl
    rw [accesses, run_report, List.append_cons]
    cases hcurrent : h.registration.current with
    | none => simpa [hcurrent] using hlooked
    | some sink =>
      rw [hcurrent] at hlooked
      have hbody := Accounted.runAll (reaction sink) (sink :: held) (hlooked.told hcurrent m)
      have howned := owned_after_runAll (h := h.told sink m) (reaction sink) held
        List.mem_cons_self
      rw [List.append_cons, ← List.append_assoc]
      exact hbody.quietly (.returned howned) rfl rfl
  | within sink body, held, start, h, before, hdone => by
    have hentered : Accounted start (before ++ [.entered sink]) (entered h sink) :=
      hdone.quietly .entered rfl rfl
    have hbody := Accounted.runAll body (sink :: held) hentered
    have howned := owned_after_runAll (h := entered h sink) body held List.mem_cons_self
    rw [accesses, run_within, hdone.follows.slot_eq, List.append_cons, ← List.append_assoc]
    -- What the scope found is the last write of the accesses before it.
    refine hbody.quietly (.left howned ?_) rfl rfl
    rw [List.append_assoc]
    exact List.prefix_append _ _
  | attempt body, held, _, _, _, hdone => by
    rw [accesses, run_attempt]
    exact Accounted.runAll body held hdone
  | panic, _, _, _, _, hdone => by
    rw [accesses, List.append_nil]
    exact hdone

theorem Accounted.runAll : ∀ (commands : List Command) (held : List Sink) {start h : Host}
    {before : List Access}, Accounted start before h →
      Accounted start (before ++ accessesAll held commands h)
        ((runAll held commands).run.run h).2
  | [], _, _, _, _, hdone => by
    rw [accessesAll, List.append_nil]
    exact hdone
  | command :: commands, held, _, h, _, hdone => by
    have hfirst := hdone.run command held
    rw [accessesAll, runAll_cons, ← List.append_assoc]
    rcases hrun : (Command.run held command).run.run h with ⟨_ | _, h'⟩
    · rw [hrun] at hfirst
      simpa using hfirst
    · rw [hrun] at hfirst
      exact Accounted.runAll commands held hfirst

end

end Command

end FilterTyping
