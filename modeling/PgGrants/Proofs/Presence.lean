/-
Work in which nothing is found missing. Apart from the searches that an operation begins with, what
it looks up either is there or makes no difference, so it may fail but not because something does
not exist. `NeverMisses` says so, and it is proved of what the operations read and send once their
search has found everything.

Only joining roles can find one missing again. By then it has been asked who connects, so a
complaint about a missing role never comes without anything having been sent.
-/
import PgGrants.Proofs.AtomicCommit
import PgGrants.Proofs.Misreadings
import PgGrants.Proofs.Searching

set_option autoImplicit false

namespace PgGrants

variable {σ α β : Type} [Server σ]

open Session

/-! ## 1. Work that finds nothing missing -/

theorem not_isNotFound_ok (a : α) : ¬ IsNotFound (.ok a) := by
  rintro ⟨_, _, h⟩
  cases h

theorem not_isNotFound_error {error : Error} (h : error.isNotFound = false) :
    ¬ IsNotFound (.error error : Except Error α) := by
  rintro ⟨_, _, heq⟩
  cases heq
  cases h

theorem IsNotFound.of_error {error : Error} (h : IsNotFound (.error error : Except Error α)) :
    IsNotFound (.error error : Except Error β) := by
  obtain ⟨what, name, heq⟩ := h
  cases heq
  exact ⟨what, name, rfl⟩

/-- Inside a transaction the work may fail, but not because something does not exist. -/
def NeverMisses (work : Session σ α) : Prop :=
  Does work.run fun outcome _ => ¬ IsNotFound outcome

namespace NeverMisses

theorem ofOutcome {outcome : Except Error α} (h : ¬ IsNotFound outcome) :
    NeverMisses (Session.ofOutcome outcome : Session σ α) :=
  Does.pure h

theorem pure (a : α) : NeverMisses (Pure.pure a : Session σ α) := ofOutcome (not_isNotFound_ok a)

theorem throw {error : Error} (h : error.isNotFound = false) :
    NeverMisses (MonadExcept.throw error : Session σ α) :=
  ofOutcome (not_isNotFound_error h)

/-- What cannot be read is not missing. -/
theorem read {outcome : Except Error α} (h : OnlyMisreads outcome) :
    NeverMisses (Session.ofOutcome outcome : Session σ α) := by
  refine ofOutcome ?_
  rintro ⟨what, name, rfl⟩
  cases h _ rfl

theorem bind {work : Session σ α} {next : α → Session σ β} (hwork : NeverMisses work)
    (hnext : ∀ a, NeverMisses (next a)) : NeverMisses (work >>= next) :=
  Does.bind_run hwork (fun a _ _ => hnext a) fun _ _ h hmissing => h hmissing.of_error

theorem ite {p : Prop} [Decidable p] {work other : Session σ α} (hwork : NeverMisses work)
    (hother : NeverMisses other) : NeverMisses (if p then work else other) := by
  split
  · exact hwork
  · exact hother

theorem ask (query : Query) : NeverMisses (Session.ask query : Session σ (List (List Value))) :=
  Does.send (fun rows _ => not_isNotFound_ok rows)
    (fun failure _ => not_isNotFound_error failure.isNotFound_error)
    fun _ => not_isNotFound_error rfl

theorem get : NeverMisses (MonadState.get : Session σ (Connection σ)) :=
  fun c hc => ⟨.ok c, [], c, ⟨rfl, (List.append_nil _).symm, .nil _⟩, hc, not_isNotFound_ok c⟩

theorem note (caps : Capabilities) :
    NeverMisses (modify fun c => { c with capabilities := some caps } : Session σ PUnit) :=
  fun c hc => ⟨.ok (), [], { c with capabilities := some caps },
    ⟨rfl, (List.append_nil _).symm, .nil _⟩, hc, not_isNotFound_ok ()⟩

end NeverMisses

/-! ## 2. What is read -/

theorem neverMisses_capabilities :
    NeverMisses (Session.capabilities : Session σ Capabilities) := by
  have hversion : NeverMisses (reportedVersion : Session σ Int) :=
    (NeverMisses.ask _).bind fun rows =>
      .read ((onlyMisreads_firstCell rows).bind onlyMisreads_toInteger)
  refine NeverMisses.get.bind fun c => ?_
  cases c.capabilities with
  | some caps => exact .pure caps
  | none =>
    refine (hversion.bind fun _ => .pure _).bind fun caps => ?_
    exact (NeverMisses.note caps).bind fun _ => .pure caps

theorem neverMisses_ownerOfDatabase (database : Option String) :
    NeverMisses (ownerOfDatabase database : Session σ (Option String)) :=
  (NeverMisses.ask _).bind fun rows =>
    .ite (.pure none) ((NeverMisses.read (onlyMisreads_firstCell rows)).bind fun _ => .pure _)

theorem neverMisses_ownersOf (kind : ObjectKind) (schema : Option String)
    (names : List (Option String)) :
    NeverMisses (ownersOf kind schema names : Session σ (List (Option String))) := by
  have hlimits : NeverMisses (limitsKind kind : Session σ Bool) := by
    unfold limitsKind
    cases kind.catalog.kindColumn with
    | none => exact .pure false
    | some column => exact .ite (neverMisses_capabilities.bind fun _ => .pure _) (.pure true)
  have hrows : NeverMisses (aclRows kind schema names : Session σ (List AclRow)) :=
    (hlimits.bind fun _ => .ask _).bind fun rows => .read (.mapM onlyMisreads_rowObject rows)
  exact hrows.bind fun _ => .pure _

theorem neverMisses_namedOwners (owners : List (Option String)) :
    NeverMisses (namedOwners owners : Session σ TextSet) := by
  induction owners with
  | nil => exact .pure ∅
  | cons owner rest ih =>
    unfold namedOwners
    dsimp only
    exact .ite ((neverMisses_ownerOfDatabase none).bind fun _ => ih.bind fun _ => .pure _)
      ((NeverMisses.pure owner).bind fun _ => ih.bind fun _ => .pure _)

theorem DeclaredGrant.neverMisses_owners (declared : DeclaredGrant) (rows : List AclRow) :
    NeverMisses (declared.owners rows : Session σ TextSet) :=
  .ite ((neverMisses_ownersOf _ _ _).bind fun _ => neverMisses_namedOwners _)
    (neverMisses_namedOwners _)

theorem DeclaredDefaults.neverMisses_readHolding (declared : DeclaredDefaults) :
    NeverMisses (declared.readHolding : Session σ Holding) := by
  have hpolicy : NeverMisses (defaultPolicy declared.owner declared.kind declared.schema :
      Session σ Policy) :=
    (NeverMisses.ask _).bind fun rows =>
      .ite (.pure ∅) (.read ((onlyMisreads_firstCell rows).bind onlyMisreads_cellPolicy))
  exact hpolicy.bind fun _ => .pure _

/-! ## 3. What is sent -/

theorem neverMisses_perform (statement : Statement) :
    NeverMisses (perform statement : Session σ Unit) := by
  have hsend : NeverMisses (send (.statement statement) : Session σ (List (List Value))) :=
    Does.send (fun rows _ => not_isNotFound_ok rows)
      (fun failure _ => not_isNotFound_error failure.isNotFound_error)
      fun _ => not_isNotFound_error rfl
  unfold perform
  dsimp only
  split
  · exact .throw rfl
  · refine Does.bind_run (Does.attempt hsend) (fun tried steps htried => ?_) fun _ _ htried => ?_
    -- whether the statement was sent or refused, nothing was found missing
    · obtain ⟨outcome, hok, hsent⟩ := htried
      cases Except.ok.inj hok
      split
      · exact NeverMisses.pure ()
      · exact NeverMisses.throw rfl
      · exact NeverMisses.ofOutcome fun hmissing => hsent hmissing.of_error
    · obtain ⟨outcome, hok, -⟩ := htried
      cases hok

theorem neverMisses_performAll (plan : List Statement) :
    NeverMisses (performAll plan : Session σ Unit) := by
  induction plan with
  | nil => exact .pure ()
  | cons statement rest ih => exact (neverMisses_perform statement).bind fun _ => ih

/-- Inside a transaction nothing is found missing before a command was sent. -/
def MissesAloud (work : Session σ α) : Prop :=
  Does work.run fun outcome steps => IsNotFound outcome → Spoken steps

theorem NeverMisses.missesAloud {work : Session σ α} (h : NeverMisses work) : MissesAloud work :=
  h.mono fun _ _ hnever hmissing => absurd hmissing hnever

/-- After a question whatever follows is not silent. -/
theorem missesAloud_ask_bind {query : Query} {next : List (List Value) → Session σ α}
    (hnext : ∀ rows, Does (next rows).run fun _ _ => True) :
    MissesAloud (ask query >>= next) := by
  -- a question reaches the server unless it cannot be written, and that is another error
  have hask : Does (ask query : Session σ (List (List Value))).run fun outcome steps =>
      Spoken steps ∨ ∃ fault, outcome = .error (.unwritable fault) :=
    .send (fun _ _ => .inl ⟨_, List.mem_cons_self, rfl⟩)
      (fun _ _ => .inl ⟨_, List.mem_cons_self, rfl⟩) fun fault => .inr ⟨fault, rfl⟩
  refine .bind_run hask (fun rows first hfirst => (hnext rows).mono fun _ _ _ _ => ?_) ?_
  · obtain ⟨step, hstep, hsent⟩ | ⟨_, h⟩ := hfirst
    · exact ⟨step, List.mem_append_left _ hstep, hsent⟩
    · cases h
  · rintro error steps (hspoken | ⟨fault, h⟩) ⟨_, _, hmissing⟩
    · exact hspoken
    · cases h
      cases hmissing

theorem NeverMisses.bind_missesAloud {work : Session σ α} {next : α → Session σ β}
    (hwork : NeverMisses work) (hnext : ∀ a, MissesAloud (next a)) :
    MissesAloud (work >>= next) := by
  refine .bind_run hwork (fun a first _ => (hnext a).mono fun _ _ h hmissing => ?_) ?_
  · obtain ⟨step, hstep, hsent⟩ := h hmissing
    exact ⟨step, List.mem_append_right _ hstep, hsent⟩
  · exact fun _ _ h hmissing => absurd hmissing.of_error h

/-- The first that is asked is who connects. -/
theorem missesAloud_asMemberOf {work : Session σ α} (hwork : NeverMisses work)
    (roles : List (Option String)) : MissesAloud (asMemberOf roles work) := by
  -- to note where the work starts asks nothing
  have hstart (scope : Scope) : NeverMisses (start scope work) := by
    have hrecord : NeverMisses (record (.started scope) : Session σ Unit) :=
      Does.record (fun _ => rfl) (not_isNotFound_ok ())
    exact hrecord.bind fun _ => hwork
  have hmember (user : Option String) (names : List String) :
      Does (asMember user names work).run fun _ _ => True :=
    (does_asMember hwork user names).mono fun _ _ _ => trivial
  unfold asMemberOf
  dsimp only
  split
  · exact (hstart _).missesAloud
  · unfold connectingRole
    rw [bind_assoc]
    -- who the connecting role is has been asked before anything can be missing
    refine missesAloud_ask_bind fun rows => ?_
    have hasked : Asks (return (← ofOutcome (Catalog.firstCell rows)).name? :
        Session σ (Option String)) := (AsksOnly.ofOutcome _).bind fun _ => .pure _
    refine .bind_run hasked (fun user _ _ => ?_) fun _ _ _ => trivial
    refine .bind_run (asks_lookUpRole user) (fun found _ _ => ?_) fun _ _ _ => trivial
    cases found with
    | none => exact hmember user _
    | some identity =>
      dsimp only
      split
      · exact (hstart _).mono fun _ _ _ => trivial
      · exact hmember user _

/-- To carry out a job that is found without missing anything. -/
theorem missesAloud_carryOut {lookUp : Session σ (Option Job)} (hlookUp : NeverMisses lookUp) :
    MissesAloud (do carryOut (← lookUp) : Session σ Unit) := by
  refine hlookUp.bind_missesAloud fun job? => ?_
  cases job? with
  | none => exact (NeverMisses.pure ()).missesAloud
  | some job =>
    show MissesAloud job.perform
    unfold Job.perform
    cases job.owners with
    | some owners => exact missesAloud_asMemberOf (neverMisses_performAll _) _
    | none => exact (neverMisses_performAll _).missesAloud

/-- A job with statements that was performed was not silent. -/
theorem spoken_of_perform {job : Job} (hjob : job.statements ≠ []) :
    Does (job.perform : Session σ Unit).run fun outcome steps =>
      outcome = .ok () → Spoken steps := by
  refine (does_perform_job job).mono fun outcome steps ⟨lent, hlends⟩ hok => ?_
  subst hok
  cases hlends with
  | done _ _ _ hsent =>
    -- a job that is done has sent its statements, and it has at least one
    obtain ⟨statement, hstatement⟩ := List.exists_mem_of_ne_nil _ hjob
    have hmem : some statement ∈ job.statements.map some := List.mem_map_of_mem hstatement
    rw [← hsent.complete] at hmem
    obtain ⟨step, hstep, hsome⟩ := List.mem_map.1 hmem
    refine ⟨step, List.mem_append_left _ (List.mem_append_right _ hstep), ?_⟩
    unfold Step.statement? at hsome
    cases hcommand : step.command? with
    | none =>
      rw [hcommand] at hsome
      cases hsome
    | some command => rfl

end PgGrants
