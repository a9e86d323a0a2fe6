/-
Work on a server that is known. A client tells each connection what the server can do, and then
nothing that is done in a transaction there asks for the version again; nor does it reach past the
connection, to other connections or to the lock.

That the work stays on its connection is seen from what it asks and sends, and that it does not ask
for the version from its run being alike to itself, so the two are found out separately and put
together here for whole transactions.
-/
import PgGrants.Proofs.AtomicCommit
import PgGrants.Proofs.Gates

set_option autoImplicit false

namespace PgGrants

/-! ## 1. Events of work -/

/-- The question for the version. -/
abbrev Command.showVersion : Command := .query .reportedVersion

/-- Something that happens on a connection, but for the question for the version. -/
def Event.isWork : Event → Bool
  | .boundary _ => true
  | .started _ => true
  | .sent (.query .reportedVersion) _ => false
  | .sent _ _ => true
  | _ => false

theorem Event.isWork_of_isInner {event : Event} (h : event.isInner = true)
    (hproper : ∀ sql, event ≠ .sent .showVersion sql) : event.isWork = true := by
  cases event with
  | boundary mark => rfl
  | started scope => rfl
  | sent command sql =>
    cases command with
    | query query =>
      cases query with
      | reportedVersion => exact absurd rfl (hproper sql)
      | _ => rfl
    | _ => rfl
  | _ => cases h

variable {σ α : Type} [Server σ]

/-- Told what the server can do, the work stays on its connection and does not ask for the version.
-/
def Session.IsTold (work : Session σ α) : Prop :=
  ∀ (start : Connection σ) (caps : Capabilities), start.inTransaction = false →
    start.capabilities = some caps → ∃ outcome steps c',
      Leads work.run start outcome steps c' ∧ ∀ step ∈ steps, step.event.isWork = true

/-! ## 2. Transactions -/

theorem Step.Alike.ne_showVersion {caps : Capabilities} {step step' : Step}
    (h : Step.Alike .exact caps step step') (sql : String) :
    step.event ≠ .sent .showVersion sql := by
  intro hevent
  have hcommand : step.command? = some .showVersion := by
    rw [Step.command?, hevent]
  exact h.isProper .reportedVersion hcommand

/-- A transaction adds its boundaries to what happens inside. -/
theorem Transacts.isWork {start : Connection σ} {outcome : Except Error α}
    {steps : List Step} (h : Transacts start (fun _ => Inner) outcome steps)
    (hproper : ∀ step ∈ steps, ∀ sql, step.event ≠ .sent .showVersion sql) :
    ∀ step ∈ steps, step.event.isWork = true := by
  -- between the boundaries everything is inner work, and the version is not asked for
  have hbetween {first last : Step} {inside : List Step} (hfirst : first.event.isWork = true)
      (hinside : Inner inside) (hlast : last.event.isWork = true)
      (hproper : ∀ step ∈ first :: inside ++ [last], ∀ sql, step.event ≠ .sent .showVersion sql) :
      ∀ step ∈ first :: inside ++ [last], step.event.isWork = true := by
    intro step hstep
    have hne := hproper step hstep
    rcases List.mem_append.1 hstep with hstep | hstep
    · rcases List.mem_cons.1 hstep with rfl | hstep
      · exact hfirst
      · exact Event.isWork_of_isInner (hinside step hstep) hne
    · rw [List.mem_singleton.1 hstep]
      exact hlast
  cases h with
  | refused _ => exact List.forall_mem_singleton.2 rfl
  | committed failure _ hinside => exact hbetween rfl hinside rfl hproper
  | rolledBack failure _ hinside => exact hbetween rfl hinside rfl hproper

theorem Session.isTold_transaction {work : Session σ α} {related : α → α → Prop}
    (hinner : ∀ start : Connection σ, start.inTransaction = true → ∃ outcome steps c',
      Leads work.run start outcome steps c' ∧ c'.inTransaction = true ∧ Inner steps)
    (hmatches : ∀ caps, Matches .exact caps work work related) :
    IsTold (Session.transaction work) := by
  intro start caps hstart hcaps
  obtain ⟨outcome, steps, c', hleads, htransacts⟩ :=
    leads_transaction hstart (hinner start.opened rfl)
  obtain ⟨_, _, steps', _, _, _, hleads', _, halike, _⟩ :=
    (hmatches caps).transaction start start ⟨rfl, rfl, hcaps, hcaps⟩
  obtain ⟨-, rfl⟩ := hleads.unique hleads'
  -- a run that matches itself shows that no step of it asks for the version
  have hproper := halike.imp fun _ _ h => And.intro h.ne_showVersion h
  exact ⟨outcome, steps, c', hleads,
    htransacts.isWork ((List.forall₂_and_left _ _).1 hproper).1⟩

/-- A transaction of questions. -/
theorem Asks.isTold_transaction {work : Session σ α} {related : α → α → Prop} (hasks : Asks work)
    (hmatches : ∀ caps, Matches .exact caps work work related) :
    Session.IsTold (Session.transaction work) := by
  refine Session.isTold_transaction (fun start hstart => ?_) hmatches
  obtain ⟨outcome, steps, c', hleads, hc', hasked⟩ := hasks start hstart
  exact ⟨outcome, steps, c', hleads, hc', hasked.aside.inner⟩

/-- A transaction in which a job is looked up and carried out. -/
theorem Asks.isTold_carryOut {lookUp : Session σ (Option Job)} (hasks : Asks lookUp)
    (hmatches : ∀ caps, Matches .exact caps lookUp lookUp (Option.Rel (Job.Alike .exact))) :
    Session.IsTold (Session.transaction do Session.carryOut (← lookUp)) := by
  refine Session.isTold_transaction (fun start hstart => ?_) fun caps =>
    Matches.carryOut Spelling.isIgnored_exact (hmatches caps)
  obtain ⟨outcome, steps, c', hleads, hc', hcarries⟩ := leads_carryOut hasks hstart
  exact ⟨outcome, steps, c', hleads, hc', hcarries.inner⟩

end PgGrants
