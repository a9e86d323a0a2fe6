/-
Look-ups. Whatever a look-up finds, and also when it fails, it has only put questions: it sends no
statement, changes no membership, and neither opens nor ends a transaction. This is proved of every
look-up of the catalog, and then of what an operation looks up before it sends anything.
-/
import PgGrants.Converge.Grant
import PgGrants.Proofs.Steps

set_option autoImplicit false

namespace PgGrants

/-- The command that was sent, when the step is the sending of one. -/
def Step.command? (step : Step) : Option Command :=
  match step.event with
  | .sent command _ => some command
  | _ => none

/-- The step puts one of the questions. -/
def Step.Puts (step : Step) (allowed : Query → Prop) : Prop :=
  ∃ query, allowed query ∧ step.command? = some (.query query)

/-- Nothing but questions was put, and when one of them failed that is the outcome. -/
structure Asked {α : Type} (allowed : Query → Prop) (outcome : Except Error α)
    (steps : List Step) : Prop where
  questions : ∀ step ∈ steps, step.Puts allowed
  failure : Accepted steps ∨ ∃ failure : Failure, outcome = .error failure.error

namespace Asked

variable {α β : Type} {allowed : Query → Prop}

theorem nil (outcome : Except Error α) : Asked allowed outcome [] :=
  ⟨fun _ h => absurd h List.not_mem_nil, .inl .nil⟩

/-- Every question was answered when the outcome is a success. -/
theorem accepted {a : α} {steps : List Step} (h : Asked allowed (.ok a) steps) :
    Accepted steps := by
  rcases h.failure with h | ⟨_, h⟩
  · exact h
  · cases h

theorem append {a : α} {outcome : Except Error β} {first second : List Step}
    (hfirst : Asked allowed (.ok a) first) (hsecond : Asked allowed outcome second) :
    Asked allowed outcome (first ++ second) where
  questions := fun step hstep =>
    (List.mem_append.1 hstep).elim (hfirst.questions step) (hsecond.questions step)
  failure := by
    exact hsecond.failure.imp_left fun h => hfirst.accepted.append h

theorem error {error : Error} {steps : List Step}
    (h : Asked allowed (.error error : Except Error α) steps) :
    Asked allowed (.error error : Except Error β) steps where
  questions := h.questions
  failure := h.failure.imp_right fun ⟨failure, hfailure⟩ =>
    ⟨failure, by rw [Except.error.inj hfailure]⟩

end Asked

variable {σ α β : Type} [Server σ]

/-- Inside a transaction the work puts such questions and does nothing else. -/
def AsksOnly (allowed : Query → Prop) (work : Session σ α) : Prop :=
  Does work.run (Asked allowed)

/-- Inside a transaction the work puts questions and does nothing else. -/
abbrev Asks (work : Session σ α) : Prop := AsksOnly (fun _ => True) work

namespace AsksOnly

/-! ## Rules -/

variable {allowed : Query → Prop}

theorem ofOutcome (outcome : Except Error α) :
    AsksOnly allowed (Session.ofOutcome outcome : Session σ α) :=
  Does.pure (.nil outcome)

theorem pure (a : α) : AsksOnly allowed (Pure.pure a : Session σ α) := ofOutcome (.ok a)

theorem throw (error : Error) : AsksOnly allowed (MonadExcept.throw error : Session σ α) :=
  ofOutcome (.error error)

theorem bind {work : Session σ α} {next : α → Session σ β} (hwork : AsksOnly allowed work)
    (hnext : ∀ a, AsksOnly allowed (next a)) : AsksOnly allowed (work >>= next) :=
  Does.bind_run hwork (fun a _ hfirst => (hnext a).mono fun _ _ hrest => hfirst.append hrest)
    fun _ _ h => h.error

theorem ite {c : Prop} [Decidable c] {work other : Session σ α} (hwork : AsksOnly allowed work)
    (hother : AsksOnly allowed other) : AsksOnly allowed (if c then work else other) := by
  split
  · exact hwork
  · exact hother

theorem get : AsksOnly allowed (MonadState.get : Session σ (Connection σ)) :=
  fun c hc => ⟨.ok c, [], c, ⟨rfl, (List.append_nil _).symm, .nil _⟩, hc, .nil _⟩

/-- To note what the server can do changes nothing that is logged. -/
theorem note (caps : Capabilities) :
    AsksOnly allowed
      (modify fun c => { c with capabilities := some caps } : Session σ PUnit) :=
  fun c hc => ⟨.ok (), [], { c with capabilities := some caps },
    ⟨rfl, (List.append_nil _).symm, .nil _⟩, hc, .nil _⟩

theorem ask {query : Query} (hquery : allowed query) :
    AsksOnly allowed (Session.ask query : Session σ (List (List Value))) := by
  have puts (sql : String) (failure : Option Failure) :
      ∀ step ∈ [Step.mk (.sent (.query query) sql) failure], step.Puts allowed :=
    fun _ h => ⟨query, hquery, by rw [List.mem_singleton.1 h]; rfl⟩
  refine Does.send (fun _ sql => ⟨puts sql none, .inl fun _ h => ?_⟩) (fun failure sql => ?_)
    fun _ => .nil _
  · rw [List.mem_singleton.1 h]
  · exact ⟨puts sql (some failure), .inr ⟨failure, rfl⟩⟩

end AsksOnly

/-! ## The catalog -/

open Session

section Allowed

variable {allowed : Query → Prop}

theorem asks_fingerprint (h : allowed .reportedVersion) :
    AsksOnly allowed (fingerprint : Session σ Capabilities) :=
  ((AsksOnly.ask h).bind fun _ => .ofOutcome _).bind fun _ => .pure _

theorem asks_capabilities (h : allowed .reportedVersion) :
    AsksOnly allowed (Session.capabilities : Session σ Capabilities) := by
  refine AsksOnly.get.bind fun c => ?_
  cases c.capabilities with
  | some caps => exact .pure caps
  | none =>
    refine (asks_fingerprint h).bind fun caps => ?_
    exact (AsksOnly.note caps).bind fun _ => .pure caps

theorem asks_limitsKind (h : allowed .reportedVersion) (kind : ObjectKind) :
    AsksOnly allowed (limitsKind (σ := σ) kind) := by
  unfold limitsKind
  cases kind.catalog.kindColumn with
  | none => exact .pure false
  | some column => exact .ite ((asks_capabilities h).bind fun _ => .pure _) (.pure true)

theorem asks_askObjects (h : allowed .reportedVersion) {kind : ObjectKind}
    {schema : Option String} {names : List (Option String)}
    (hobjects : ∀ limited, allowed (.objects kind schema names limited)) :
    AsksOnly allowed (askObjects (σ := σ) kind schema names) :=
  (asks_limitsKind h kind).bind fun limited => .ask (hobjects limited)

theorem asks_hasObject (h : allowed .reportedVersion) {kind : ObjectKind}
    {name schema : Option String}
    (hobjects : ∀ limited, allowed (.objects kind schema [name] limited)) :
    AsksOnly allowed (hasObject (σ := σ) kind name schema) :=
  (asks_askObjects h hobjects).bind fun _ => .pure _

end Allowed

theorem asks_connectingRole : Asks (connectingRole : Session σ (Option String)) :=
  (AsksOnly.ask trivial).bind fun _ => (AsksOnly.ofOutcome _).bind fun _ => .pure _

theorem asks_findRole (name : Option String) : Asks (findRole (σ := σ) name) := by
  refine (AsksOnly.ask trivial).bind fun rows => ?_
  cases rows.head? with
  | none => exact .pure none
  | some row => exact (AsksOnly.ofOutcome _).bind fun _ => .pure _

theorem asks_lookUpRole (name : Option String) : Asks (lookUpRole (σ := σ) name) :=
  .ite (.pure _) (asks_findRole name)

theorem asks_hasRole (name : Option String) : Asks (hasRole (σ := σ) name) :=
  (asks_lookUpRole name).bind fun _ => .pure _

theorem asks_isMember (role member : Option String) : Asks (isMember (σ := σ) role member) :=
  (asks_capabilities trivial).bind fun _ => (AsksOnly.ask trivial).bind fun _ =>
    (AsksOnly.ofOutcome _).bind fun _ => .pure _

theorem asks_standing (role grantRole : Option String) :
    Asks (standing (σ := σ) role grantRole) :=
  (AsksOnly.ask trivial).bind fun _ => (AsksOnly.ofOutcome _).bind fun _ => .pure _

theorem asks_ownerOfDatabase (database : Option String) :
    Asks (ownerOfDatabase (σ := σ) database) :=
  (AsksOnly.ask trivial).bind fun _ =>
    .ite (.pure none) ((AsksOnly.ofOutcome _).bind fun _ => .pure _)

theorem asks_aclRows (kind : ObjectKind) (schema : Option String) (names : List (Option String)) :
    Asks (aclRows (σ := σ) kind schema names) :=
  (asks_askObjects trivial fun _ => trivial).bind fun _ => .ofOutcome _

theorem asks_ownersOf (kind : ObjectKind) (schema : Option String)
    (names : List (Option String)) : Asks (ownersOf (σ := σ) kind schema names) :=
  (asks_aclRows kind schema names).bind fun _ => .pure _

theorem asks_defaultPolicy (owner : Option String) (kind : ObjectKind) (schema : Option String) :
    Asks (defaultPolicy (σ := σ) owner kind schema) :=
  (AsksOnly.ask trivial).bind fun _ => .ite (.pure ∅) (.ofOutcome _)

theorem asks_namedOwners (owners : List (Option String)) : Asks (namedOwners (σ := σ) owners) := by
  induction owners with
  | nil => exact .pure ∅
  | cons owner rest ih =>
    unfold namedOwners
    dsimp only
    exact .ite ((asks_ownerOfDatabase none).bind fun _ => ih.bind fun _ => .pure _)
      ((AsksOnly.pure owner).bind fun _ => ih.bind fun _ => .pure _)

/-! ## What has to be there -/

theorem asks_needRole (role : String) : Asks (needRole (σ := σ) role) :=
  (asks_hasRole role).bind fun _ => .ite (.pure ()) (.throw _)

theorem asks_needSchema (schema : String) : Asks (needSchema (σ := σ) schema) :=
  (asks_hasObject trivial fun _ => trivial).bind fun _ => .ite (.pure ()) (.throw _)

theorem asks_bothExist (first second : String) : Asks (bothExist (σ := σ) first second) :=
  (asks_hasRole first).bind fun _ => .ite (asks_hasRole second) (.pure false)

/-- A missing object is no failed question, so nothing that failed is passed over. -/
theorem asks_unlessMissing {work : Session σ α} (h : Asks work) : Asks (unlessMissing work) := by
  refine Does.bind_run (Does.attempt h) (fun tried steps htried => ?_) fun _ _ ⟨_, hok, _⟩ => ?_
  · obtain ⟨outcome, hok, hasked⟩ := htried
    cases Except.ok.inj hok
    cases tried with
    | ok a => exact .pure (by rw [List.append_nil]; exact ⟨hasked.questions, .inl hasked.accepted⟩)
    | error error =>
      dsimp only
      split
      · rename_i hmissing
        -- what the server fails with is never a missing object, so no question failed here
        refine .pure ?_
        rw [List.append_nil]
        refine ⟨hasked.questions, hasked.failure.imp_right fun ⟨failure, hfailure⟩ => ?_⟩
        rw [Except.error.inj hfailure] at hmissing
        cases failure <;> cases hmissing
      · exact .pure (by rw [List.append_nil]; exact hasked.error)
  · cases hok

/-- The dropped roles of a plan are asked about, and nothing else is done. -/
theorem asks_stillThere {exists? : Option String → Session σ Bool}
    (h : ∀ role, Asks (exists? role)) (dropped : List Holding) :
    Asks (PolicyDelta.stillThere exists? dropped) := by
  induction dropped with
  | nil => exact .pure []
  | cons holding rest ih =>
    unfold PolicyDelta.stillThere
    dsimp only
    exact .ite ((AsksOnly.pure true).bind fun _ => ih.bind fun _ => .pure _)
      ((h holding.role).bind fun _ => ih.bind fun _ => .pure _)

theorem asks_plan {exists? : Option String → Session σ Bool} (h : ∀ role, Asks (exists? role))
    (delta : PolicyDelta) (kind : ObjectKind) (name : Option String) :
    Asks (delta.plan kind name exists?) :=
  (asks_stillThere h delta.dropped).bind fun _ => .pure _

/-! ## The targets of a grant -/

theorem asks_targetRows (declared : DeclaredGrant) : Asks (declared.targetRows (σ := σ)) := by
  unfold DeclaredGrant.targetRows
  dsimp only
  refine .ite ((asks_needSchema _).bind fun _ => ?_) ?_
  all_goals
    refine (asks_aclRows _ _ _).bind fun _ => ?_
    exact .ite (.pure _) ((AsksOnly.throw _).bind fun _ => .pure _)

theorem asks_targetRows? (declared : DeclaredGrant) : Asks (declared.targetRows? (σ := σ)) :=
  (asks_hasRole declared.role).bind fun _ =>
    .ite (asks_unlessMissing (asks_targetRows declared)) (.pure none)

theorem asks_owners (declared : DeclaredGrant) (rows : List AclRow) :
    Asks (declared.owners (σ := σ) rows) :=
  .ite ((asks_ownersOf _ _ _).bind fun _ => asks_namedOwners _) (asks_namedOwners _)

end PgGrants
