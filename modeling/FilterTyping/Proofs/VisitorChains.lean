import FilterTyping.Session.Check

/-!
# Chains of visitors

However chains are nested, a run comes to a run of the leaves in their order, up to the first that
fails.
-/

namespace FilterTyping

namespace VisitorTree

variable {α : Type} {m : Type → Type} [Monad m]

theorem leavesAll_append (visitors visitors' : List (VisitorTree α)) :
    leavesAll (visitors ++ visitors') = leavesAll visitors ++ leavesAll visitors' := by
  induction visitors with
  | nil => rfl
  | cons visitor visitors ih => rw [List.cons_append, leavesAll, leavesAll, ih, List.append_assoc]

theorem leavesAll_install (visitors : List (VisitorTree α)) (visitor : VisitorTree α) :
    leavesAll (install visitors visitor) = leavesAll visitors ++ visitor.leaves := by
  rw [install, leavesAll_append, leavesAll, leavesAll, List.append_nil]

theorem leavesAll_map_leaf (visitors : List α) : leavesAll (visitors.map leaf) = visitors := by
  induction visitors with
  | nil => rfl
  | cons visitor visitors ih => rw [List.map_cons, leavesAll, leaves, ih, List.singleton_append]

/-! ## Runs as actions -/

section Actions

variable [LawfulMonad m] (read : α → Visitor m) (statement : Statement)

-- The induction is on the tree, by way of its lists.
mutual

theorem visit_eq_forM : ∀ tree : VisitorTree α,
    tree.visit read statement = tree.leaves.forM (read · statement)
  | leaf visitor => by
    rw [visit, leaves, List.forM_eq_forM, List.forM_cons, List.forM_nil, bind_pure_unit]
  | chain visitors => by
    rw [visit, leaves, visitAll_eq_forM visitors]

theorem visitAll_eq_forM : ∀ visitors : List (VisitorTree α),
    visitAll read statement visitors = (leavesAll visitors).forM (read · statement)
  | [] => rfl
  | visitor :: visitors => by
    rw [visitAll, leavesAll, List.forM_eq_forM, List.forM_append, visit_eq_forM visitor,
      visitAll_eq_forM visitors]
    rfl

end

theorem visitAll_install (visitors : List (VisitorTree α)) (visitor : VisitorTree α) :
    visitAll read statement (install visitors visitor) =
      (do visitAll read statement visitors; visitor.visit read statement) := by
  rw [visitAll_eq_forM, leavesAll_install, List.forM_eq_forM, List.forM_append, visitAll_eq_forM,
    visit_eq_forM]
  rfl

end Actions

/-! ## Runs on a state -/

def noting {σ : Type} (read : α → Visitor (StateM σ)) (leaf : α) :
    Visitor (StateM (List α × σ)) := fun statement =>
  ExceptT.mk fun (noted, s) =>
    let (result, next) := (read leaf statement).run.run s
    (result, noted ++ [leaf], next)

section States

variable {σ : Type} (read : α → Visitor (StateM σ)) (statement : Statement)

theorem run_noting (leaf : α) (noted : List α) (s : σ) :
    (noting read leaf statement).run.run (noted, s) =
      let (result, next) := (read leaf statement).run.run s
      (result, noted ++ [leaf], next) := rfl

theorem run_forM_cons (leaf : α) (leaves : List α) (s : σ) :
    ((leaf :: leaves).forM (read · statement)).run.run s =
      match (read leaf statement).run.run s with
      | (.ok _, next) => (leaves.forM (read · statement)).run.run next
      | (.error failure, last) => (.error failure, last) := by
  simp only [List.forM_eq_forM, List.forM_cons, ExceptT.run, StateT.run, bind, ExceptT.bind,
    ExceptT.mk, StateT.bind]
  rcases read leaf statement s with ⟨_ | _, next⟩ <;> rfl

/-- The leaves `ran` lead from `s` to the result. If it is a failure, the last of them failed. -/
def Stopped (leaves : List α) (s : σ) (ran : List α) (result : Except Failure Unit) (last : σ) :
    Prop :=
  match result with
  | .ok () => ran = leaves
  | .error failure => ∃ before leaf after next,
    leaves = before ++ leaf :: after ∧ ran = before ++ [leaf] ∧
      (before.forM (read · statement)).run.run s = (.ok (), next) ∧
      (read leaf statement).run.run next = (.error failure, last)

theorem exists_stopped_forM (leaves : List α) (s : σ) : ∃ ran result last,
    Stopped read statement leaves s ran result last ∧
      (leaves.forM (read · statement)).run.run s = (result, last) ∧
      ∀ noted, (leaves.forM (noting read · statement)).run.run (noted, s) =
        (result, noted ++ ran, last) := by
  induction leaves generalizing s with
  | nil => exact ⟨[], .ok (), s, rfl, rfl, fun noted => by rw [List.append_nil]; rfl⟩
  | cons leaf leaves ih =>
    rcases hact : (read leaf statement).run.run s with ⟨failure | _, next⟩
    · refine ⟨[leaf], .error failure, next, ⟨[], leaf, leaves, s, rfl, rfl, rfl, hact⟩, ?_,
        fun noted => ?_⟩
      · rw [run_forM_cons, hact]
      · rw [run_forM_cons, run_noting, hact]
    · obtain ⟨ran, result, last, hstopped, hrun, hnoted⟩ := ih next
      refine ⟨leaf :: ran, result, last, ?_, ?_, fun noted => ?_⟩
      · match result, hstopped with
        | .ok (), hall => exact congrArg (leaf :: ·) hall
        | .error failure, ⟨before, failing, after, mid, hleaves, hran, hbefore, hfailed⟩ =>
          refine ⟨leaf :: before, failing, after, mid, ?_, ?_, ?_, hfailed⟩
          · rw [hleaves, List.cons_append]
          · rw [hran, List.cons_append]
          · rw [run_forM_cons, hact]
            exact hbefore
      · rw [run_forM_cons, hact]
        exact hrun
      · have hrest := hnoted (noted ++ [leaf])
        rw [List.append_assoc] at hrest
        rw [run_forM_cons, run_noting, hact]
        exact hrest

end States

/-! ## Leaves set up with effects -/

section Setup

variable [LawfulMonad m] {β : Type} (f : α → m β)

mutual

theorem leaves_mapM : ∀ tree : VisitorTree α, leaves <$> tree.mapM f = tree.leaves.mapM f
  | leaf visitor => by
    simp [VisitorTree.mapM, leaves]
  | chain visitors => by
    have hchain : leaves ∘ chain = (leavesAll : List (VisitorTree β) → List β) := by
      funext visitors
      rw [Function.comp_apply, leaves]
    rw [VisitorTree.mapM, leaves, ← comp_map, hchain, leavesAll_mapAllM visitors]

theorem leavesAll_mapAllM : ∀ visitors : List (VisitorTree α),
    leavesAll <$> mapAllM f visitors = (leavesAll visitors).mapM f
  | [] => by simp [mapAllM, leavesAll]
  | visitor :: visitors => by
    rw [mapAllM, leavesAll, List.mapM_append, ← leaves_mapM visitor, ← leavesAll_mapAllM visitors]
    simp [leavesAll]

end

end Setup

end VisitorTree

open VisitorTree

theorem Session.runChain_eq_of_leaves (s : Session)
    {visitors visitors' : List (VisitorTree VisitorChoice)}
    (hleaves : leavesAll visitors = leavesAll visitors') (statements : List Statement) :
    s.runChain visitors statements =
      let (report, s') := s.runChain visitors' statements
      (report.map ({ · with size := visitors.length }), s') := by
  have hsetup (own : Sink) (h : Host) :
      (leavesAll <$> mapAllM (s.setupVisitor own) visitors).run h =
        (leavesAll <$> mapAllM (s.setupVisitor own) visitors').run h := by
    rw [leavesAll_mapAllM, leavesAll_mapAllM, hleaves]
  unfold runChain
  rcases s.host.makeSink with ⟨own, host⟩
  have hsetup := hsetup own host
  rw [StateT.run_map, StateT.run_map] at hsetup
  simp only
  generalize (mapAllM (s.setupVisitor own) visitors).run host = ready,
    (mapAllM (s.setupVisitor own) visitors').run host = ready' at hsetup ⊢
  rcases ready with refusal | ⟨chain, after⟩ <;> rcases ready' with refusal' | ⟨chain', after'⟩
  · cases hsetup
    rfl
  · cases hsetup
  · cases hsetup
  · obtain ⟨hchain, rfl⟩ : leavesAll chain = leavesAll chain' ∧ after = after' := by
      simpa [Functor.map, Except.map] using hsetup
    have hvisitor : (visitAll id · chain) = (visitAll id · chain') := by
      funext statement
      rw [visitAll_eq_forM, visitAll_eq_forM, hchain]
    simp only [hvisitor]
    rfl

/-- However chains are nested, a run does what the leaves do, one after the other, up to the first
failure. -/
theorem chains_run_leaves_up_to_first_failure :
    (∀ (α : Type) (m : Type → Type) [Monad m] [LawfulMonad m] (read : α → Visitor m)
        (statement : Statement) (visitors : List (VisitorTree α)),
      (chain visitors).visit read statement = (leavesAll visitors).forM (read · statement) ∧
      ∀ visitor : VisitorTree α,
        leavesAll (install visitors visitor) = leavesAll visitors ++ visitor.leaves ∧
        (chain (install visitors visitor)).visit read statement =
          (do (chain visitors).visit read statement; visitor.visit read statement)) ∧
    (∀ (α σ : Type) (read : α → Visitor (StateM σ)) (statement : Statement)
        (visitors : List (VisitorTree α)) (s : σ),
      ∃ ran result last, Stopped read statement (leavesAll visitors) s ran result last ∧
        ((chain visitors).visit read statement).run.run s = (result, last) ∧
        ∀ noted, ((chain visitors).visit (noting read) statement).run.run (noted, s) =
          (result, noted ++ ran, last)) ∧
    ∀ (s : Session) (visitors : List (VisitorTree VisitorChoice)) (statements : List Statement),
      s.runChain visitors statements =
        let (report, s') := s.runChain ((leavesAll visitors).map leaf) statements
        (report.map ({ · with size := visitors.length }), s') := by
  refine ⟨?_, ?_, ?_⟩
  · intro α m _ _ read statement visitors
    refine ⟨visit_eq_forM read statement (chain visitors), fun visitor => ?_⟩
    exact ⟨leavesAll_install visitors visitor, visitAll_install read statement visitors visitor⟩
  · intro α σ read statement visitors s
    rw [visit_eq_forM, visit_eq_forM]
    exact exists_stopped_forM read statement (leavesAll visitors) s
  · intro s visitors statements
    exact s.runChain_eq_of_leaves (leavesAll_map_leaf _).symm statements

theorem failure_in_inner_chain_ends_run :
    let failure : Failure := .defect (.host .unsupported .resolver "refused")
    let add (n : Nat) : Visitor (StateM Nat) := fun _ => do
      ExceptT.lift (modify (· + n))
      if n = 3 then throw failure
    let visitors := [leaf 1, chain [chain [], chain [leaf 2, leaf 3, leaf 4], leaf 5], leaf 6]
    let statement : Statement := ⟨[], none, none⟩
    ((chain visitors).visit add statement).run.run 0 = (.error failure, 6) ∧
      ((chain visitors).visit (noting add) statement).run.run ([], 0) =
        (.error failure, [1, 2, 3], 6) := by
  intro failure add visitors statement
  have ⟨hactions, _⟩ := chains_run_leaves_up_to_first_failure
  refine ⟨?_, ?_⟩
  · rw [(hactions Nat (StateM Nat) add statement visitors).1]
    rfl
  · rw [(hactions Nat (StateM (List Nat × Nat)) (noting add) statement visitors).1]
    rfl

end FilterTyping
