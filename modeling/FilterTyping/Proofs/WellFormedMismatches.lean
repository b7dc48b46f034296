import FilterTyping.Proofs.Reports
import FilterTyping.Proofs.Spelling

/-!
# Well-formed mismatches

Whoever decides on mismatches may rely on their form. It does not depend on how the host infers the
types of values, nor on what was decided on earlier mismatches.
-/

namespace FilterTyping

/-! ## Expected tokens -/

namespace TypeToken

/-- Tokens in the order in which a mismatch shows them. Only the builtin type has to be there. -/
def arranged (root enumeration : Option String) (type : Builtin) : List TypeToken :=
  root.toList.map entity ++ enumeration.toList.map .enumeration ++ [builtin type]

variable (root enumeration : Option String) (type : Builtin)

theorem length_arranged :
    1 ≤ (arranged root enumeration type).length ∧ (arranged root enumeration type).length ≤ 3 := by
  cases root <;> cases enumeration <;> simp [arranged]

theorem nodup_arranged : (arranged root enumeration type).Nodup := by
  cases root <;> cases enumeration <;> simp [arranged]

end TypeToken

theorem Entity.tokens_eq_arranged (e : Entity) (f : Field) :
    e.tokens f = TypeToken.arranged (if e.isIdentity f.name then some e.rootPath else none)
      f.enumeration f.column.canonical := by
  rw [tokens_eq, TypeToken.arranged]
  cases e.isIdentity f.name <;> rfl

theorem Entity.canonical_of_mem_tokens {e : Entity} {f : Field} {token : TypeToken}
    (htoken : token ∈ e.tokens f) : token.canonical = token := by
  obtain ⟨token, -, rfl⟩ := List.mem_map.mp htoken
  exact token.canonical_canonical

theorem Metadata.exists_of_fieldTokens {s : Metadata} {path name : String} {tokens : List TypeToken}
    (htokens : s.fieldTokens path name = .ok tokens) :
    ∃ (e : Entity) (f : Field), tokens = e.tokens f := by
  rw [fieldTokens_lookup] at htokens
  split at htokens
  · cases htokens
  · split at htokens
    · cases htokens
    · cases htokens
      exact ⟨_, _, rfl⟩

theorem Metadata.exists_of_targetTokens {s : Metadata} {path name : String}
    {tokens : List TypeToken} (htokens : s.targetTokens path name = .ok tokens) :
    ∃ (e : Entity) (f : Field), tokens = e.tokens f := by
  unfold targetTokens at htokens
  cases htarget : s.target path name with
  | error fault =>
    rw [htarget] at htokens
    cases htokens
  | ok found =>
    rw [htarget] at htokens
    exact exists_of_fieldTokens htokens

theorem Metadata.eq_ok_of_mapError {found : Except Fault (List TypeToken)} {tokens : List TypeToken}
    (htokens : found.mapError Defect.schema = .ok tokens) : found = .ok tokens := by
  cases found with
  | error fault => cases htokens
  | ok found =>
    cases htokens
    rfl

theorem Comparison.exists_of_expected {s : Metadata} {c : Comparison} {tokens : List TypeToken}
    (hexpected : c.expected s = .ok tokens) : ∃ (e : Entity) (f : Field), tokens = e.tokens f := by
  unfold expected Metadata.expected at hexpected
  split at hexpected
  · split at hexpected
    · cases hexpected
    · exact Metadata.exists_of_fieldTokens (Metadata.eq_ok_of_mapError hexpected)
    · exact Metadata.exists_of_targetTokens (Metadata.eq_ok_of_mapError hexpected)
    · cases hexpected
  · cases hexpected

/-! ## Mismatches -/

/-- What may be relied on in a mismatch that comes up in a check of the statement. -/
structure Mismatch.WellFormed (ctx : Context) (statement : Statement) (m : Mismatch) : Prop where
  actual_canonical : m.actual.canonical = m.actual
  expected_canonical : ∀ token ∈ m.expected, token.canonical = token
  expected_arranged : ∃ root enumeration type, m.expected = TypeToken.arranged root enumeration type
  expected_length : 1 ≤ m.expected.length ∧ m.expected.length ≤ 3
  expected_nodup : m.expected.Nodup
  not_expected : m.actual ∉ m.expected
  not_widened : ∀ c d, TypeToken.column c ∈ m.expected → d ∈ c.accepts → m.actual ≠ .column d
  bound : ∃ p, ctx.parameters.find? m.parameter = some p ∧
    (p.declared ≠ none ∨ ∃ value, p.value = some value ∧ value ≠ .null)
  resolved : ctx.actual? m.parameter = some m.actual
  compared : ∃ c ∈ statement.comparisons [], c.parameter = m.parameter ∧
    c.path.render = m.field ∧ c.expected ctx.schema = .ok m.expected

theorem Context.exists_of_actual? {ctx : Context} {name : String} {actual : TypeToken}
    (hactual : ctx.actual? name = some actual) :
    ∃ p, ctx.parameters.find? name = some p ∧
      (p.declared ≠ none ∨ ∃ value, p.value = some value ∧ value ≠ .null) := by
  have hsome : ctx.actual? name ≠ none := by simp [hactual]
  simp only [ne_eq, actual?_eq_none_iff, not_forall, not_and_or, not_or] at hsome
  obtain ⟨p, hbound, hdeclared | ⟨hvalue, hnull⟩⟩ := hsome
  · exact ⟨p, hbound, .inl hdeclared⟩
  · obtain ⟨value, hvalue⟩ := Option.ne_none_iff_exists'.mp hvalue
    refine ⟨p, hbound, .inr ⟨value, hvalue, ?_⟩⟩
    rintro rfl
    exact hnull hvalue

theorem Comparison.wellFormed_of_judge {ctx : Context} {statement : Statement} {c : Comparison}
    (hmem : c ∈ statement.comparisons []) {m : Mismatch} (hjudge : c.judge ctx = .incompatible m) :
    m.WellFormed ctx statement := by
  obtain ⟨actual, expected, hactual, hexpected, hfits, rfl⟩ := judge_eq_incompatible_iff.mp hjudge
  obtain ⟨e, f, rfl⟩ := exists_of_expected hexpected
  have hunfit : ¬ actual.fits (e.tokens f) := by simp [hfits]
  rw [TypeToken.fits_iff, not_or] at hunfit
  obtain ⟨hnot, hwide⟩ := hunfit
  have harranged := e.tokens_eq_arranged f
  exact {
    actual_canonical := Context.canonical_actual? hactual
    expected_canonical := fun token => Entity.canonical_of_mem_tokens
    expected_arranged := ⟨_, _, _, harranged⟩
    expected_length := by
      rw [harranged]
      exact TypeToken.length_arranged _ _ _
    expected_nodup := by
      rw [harranged]
      exact TypeToken.nodup_arranged _ _ _
    not_expected := hnot
    not_widened := fun column d hcolumn haccepts hd => hwide ⟨d, column, hd, hcolumn, haccepts⟩
    bound := Context.exists_of_actual? hactual
    resolved := hactual
    compared := ⟨c, hmem, rfl, rfl, hexpected⟩ }

/-! ## Checks -/

theorem Comparison.verifyAll_eq_of_report {m : Type → Type} [Monad m] {ctx : Context}
    {obs obs' : Observer m} (hskipped : obs.skipped = obs'.skipped) {cs : List Comparison}
    (hreport : ∀ c ∈ cs, ∀ mismatch, c.judge ctx = .incompatible mismatch →
      obs.report mismatch = obs'.report mismatch) :
    verifyAll ctx obs cs = verifyAll ctx obs' cs := by
  induction cs with
  | nil => rfl
  | cons c cs ih =>
    obtain ⟨hfirst, hrest⟩ := List.forall_mem_cons.mp hreport
    have hverify : c.verify ctx obs = c.verify ctx obs' := by
      unfold verify
      cases hjudge : c.judge ctx with
      | unresolved => rw [hskipped]
      | compatible | defective => rfl
      | incompatible mismatch => simp only [hfirst mismatch hjudge]
    rw [verifyAll, verifyAll, hverify, ih hrest]

theorem Comparison.judged_of_listed {ctx : Context} {report : Mismatch → HostM Ruling}
    {cs : List Comparison} {listed told : List Mismatch} {h : Host} {r : Except Failure Unit}
    (hlist : (listAll ctx report cs listed h).1 = .ok (r, told)) {m : Mismatch} (hm : m ∈ told) :
    m ∈ listed ∨ ∃ c ∈ cs, c.judge ctx = .incompatible m := by
  induction cs generalizing listed h with
  | nil =>
    cases hlist
    exact .inl hm
  | cons c cs ih =>
    -- The list grows at a mismatch only. Anywhere else it is left to the comparisons that follow.
    have hlater {listed : List Mismatch} {h : Host}
        (hlist : (listAll ctx report cs listed h).1 = .ok (r, told)) :
        m ∈ listed ∨ ∃ c' ∈ c :: cs, c'.judge ctx = .incompatible m :=
      (ih hlist).imp_right fun ⟨c', hc', hjudge⟩ => ⟨c', .tail c hc', hjudge⟩
    rw [listAll_cons] at hlist
    cases hjudge : c.judge ctx with
    | unresolved =>
      rw [hjudge] at hlist
      exact hlater hlist
    | compatible =>
      rw [hjudge] at hlist
      exact hlater hlist
    | defective defect =>
      rw [hjudge] at hlist
      cases hlist
      exact .inl hm
    | incompatible found =>
      have hadded (hfound : m ∈ listed ++ [found]) :
          m ∈ listed ∨ ∃ c' ∈ c :: cs, c'.judge ctx = .incompatible m := by
        rcases List.mem_append.mp hfound with hold | hnew
        · exact .inl hold
        · rw [List.mem_singleton.mp hnew]
          exact .inr ⟨c, .head cs, hjudge⟩
      simp only [hjudge] at hlist
      split at hlist
      · exact (hlater hlist).elim hadded .inr
      · cases hlist
        exact hadded hm
      · cases hlist

/-- A walk never asks about a mismatch that is not well formed, and so no policy ever sees one. -/
theorem reported_mismatches_are_wellFormed (ctx : Context) (statement : Statement) :
    (∀ (m : Type → Type) [Monad m] [LawfulMonad m] (obs obs' : Observer m),
      obs.skipped = obs'.skipped →
      (∀ mismatch : Mismatch, mismatch.WellFormed ctx statement →
        obs.report mismatch = obs'.report mismatch) →
      statement.walk ctx obs [] = statement.walk ctx obs' []) ∧
    (∀ (report : Mismatch → HostM Ruling) (h : Host) (r : Except Failure Unit)
      (told : List Mismatch), (statement.checkListing ctx report h).1 = .ok (r, told) →
      ∀ mismatch ∈ told, mismatch.WellFormed ctx statement) ∧
    ∀ report : Mismatch → HostM Ruling,
      (∀ mismatch h, ∃ h', (report mismatch).run.run h = (.ok .proceed, h')) →
      ∀ h, (statement.checkListing ctx report h).1 =
        .ok (Comparison.verdict ctx (statement.comparisons []),
          Comparison.mismatches ctx (statement.comparisons [])) := by
  refine ⟨fun m _ _ obs obs' hskipped hagree => ?_, fun report h r told hlist mismatch hm => ?_,
    fun report hpass h => ?_⟩
  · rw [Statement.walk_eq, Statement.walk_eq]
    refine Comparison.verifyAll_eq_of_report hskipped fun c hc mismatch hjudge => ?_
    exact hagree mismatch (Comparison.wellFormed_of_judge hc hjudge)
  · rw [Statement.checkListing_eq] at hlist
    rcases Comparison.judged_of_listed hlist hm with hold | ⟨c, hc, hjudge⟩
    · cases hold
    · exact Comparison.wellFormed_of_judge hc hjudge
  · obtain ⟨h', hlist, -⟩ :=
      Comparison.listAll_of_decides ctx false hpass (statement.comparisons []) [] h
    simpa [Statement.checkListing_eq] using congrArg Prod.fst hlist

theorem custom_names_reported_canonically :
    let statement : Statement := ⟨[⟨"o", "Order"⟩], some (.and [
      .compare (.term (.path ⟨"o", some "item", .toOne⟩)) .eq (.term (.parameter "key")),
      .compare (.term (.parameter "key")) .lt (.subselect ⟨[⟨"i", "Item"⟩],
        some (.compare (.term (.parameter "flag")) .ne (.term (.path ⟨"i", some "code", .state⟩))),
        none⟩)]),
      some (.compare (.term (.path ⟨"o", some "total", .state⟩)) .gt (.term (.parameter "none")))⟩
    let parameters := Parameters.ofList
      [⟨":key", none, some (.int 7)⟩, ⟨"flag", some (.binding .boolean), none⟩,
        ⟨"?none", none, some .null⟩]
    let ctx : Context :=
      ⟨orderOfItem (.column .date) (.custom "guid"), parameters, fun _ => .builtin (.custom "text")⟩
    let tokens := [.entity "Item", .enumeration "Code", .column .guid]
    let told : List Mismatch :=
      [⟨"key", .column .string, tokens, "o.item"⟩, ⟨"flag", .column .boolean, tokens, "i.code"⟩]
    let report := Policy.report (fun _ => pure ()) (.forward (.log "checks"))
    let wary (mismatch : Mismatch) : HostM Ruling :=
      if mismatch.expected = [] then throw .panic else report mismatch
    (statement.checkListing ctx report {}).1 = .ok (.ok (), told) ∧
      (∀ mismatch ∈ told, mismatch.WellFormed ctx statement) ∧
      statement.walk ctx (.ofReport report) [] = statement.walk ctx (.ofReport wary) [] := by
  intro statement parameters ctx tokens told report wary
  obtain ⟨halike, hwellFormed, hall⟩ := reported_mismatches_are_wellFormed ctx statement
  have htold : (statement.checkListing ctx report {}).1 = .ok (.ok (), told) := by
    rw [hall report fun mismatch h => ⟨_, Policy.run_report_log _ mismatch h "checks"⟩]
    decide +kernel
  refine ⟨htold, hwellFormed report {} _ told htold, halike HostM _ _ rfl fun mismatch hform => ?_⟩
  have hexpected := List.ne_nil_of_length_pos hform.expected_length.1
  simp [Observer.ofReport, wary, hexpected]

end FilterTyping
