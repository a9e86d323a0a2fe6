/-
Sending statements. A plan is sent in its order, and the first statement that cannot be sent or is
refused is the last one: `Sends` lists the ways in which that can go. What the steps of a run amount
to is read off from the commands that were sent.
-/
import PgGrants.Proofs.Lookups

set_option autoImplicit false

namespace PgGrants

/-! ## Kinds of steps -/

namespace Command

/-- The planned statement, when it is one. -/
def statement? : Command → Option Statement
  | .statement planned => some planned
  | _ => none

/-- The role and its new member, for a membership that is lent. -/
def lent? : Command → Option (Option String × Option String)
  | .grantRole role member => some (role, member)
  | _ => none

/-- The role and its former member, for a membership that is taken back. -/
def takenBack? : Command → Option (Option String × Option String)
  | .revokeRole role member => some (role, member)
  | _ => none

/-- The command only asks. -/
def isQuestion : Command → Bool
  | .query _ => true
  | _ => false

end Command

namespace Step

/-- The planned statement that was sent, when the step is the sending of one. -/
def statement? (step : Step) : Option Statement := step.command?.bind Command.statement?

/-- The membership that was lent. -/
def lent? (step : Step) : Option (Option String × Option String) :=
  step.command?.bind Command.lent?

/-- The membership that was taken back. -/
def takenBack? (step : Step) : Option (Option String × Option String) :=
  step.command?.bind Command.takenBack?

/-- The step sends something that may change what anyone may do. -/
def isWrite (step : Step) : Bool := step.command?.any fun command => !command.isQuestion

theorem lent?_of_puts {step : Step} {allowed : Query → Prop} (h : step.Puts allowed) :
    step.lent? = none := by
  obtain ⟨query, _, hquery⟩ := h
  unfold lent?
  rw [hquery]
  rfl

theorem takenBack?_of_puts {step : Step} {allowed : Query → Prop} (h : step.Puts allowed) :
    step.takenBack? = none := by
  obtain ⟨query, _, hquery⟩ := h
  unfold takenBack?
  rw [hquery]
  rfl

theorem isWrite_of_puts {step : Step} {allowed : Query → Prop} (h : step.Puts allowed) :
    step.isWrite = false := by
  obtain ⟨query, _, hquery⟩ := h
  unfold isWrite
  rw [hquery]
  rfl

theorem statement?_sent (statement : Statement) (sql : String) (failure : Option Failure) :
    Step.statement? ⟨.sent (.statement statement) sql, failure⟩ = some statement := rfl

/-- A step that writes nothing sends no planned statement. -/
theorem statement?_of_not_isWrite {step : Step} (h : step.isWrite = false) :
    step.statement? = none := by
  unfold isWrite at h
  unfold statement?
  cases hcommand : step.command? with
  | none => rfl
  | some command =>
    rw [hcommand] at h
    cases command <;> first | rfl | cases h

end Step

/-- No planned statement is sent. -/
abbrev Silent (steps : List Step) : Prop := ∀ step ∈ steps, step.statement? = none

/-- Nothing is sent that may change what anyone may do. -/
abbrev Idle (steps : List Step) : Prop := ∀ step ∈ steps, step.isWrite = false

theorem Silent.append {first second : List Step} (hfirst : Silent first) (hsecond : Silent second) :
    Silent (first ++ second) :=
  List.forall_mem_append.2 ⟨hfirst, hsecond⟩

theorem Silent.statements {steps : List Step} (h : Silent steps) :
    steps.filterMap Step.statement? = [] :=
  List.filterMap_eq_nil_iff.2 h

theorem Idle.nil : Idle [] := fun _ h => absurd h List.not_mem_nil

theorem Idle.silent {steps : List Step} (h : Idle steps) : Silent steps :=
  fun step hstep => Step.statement?_of_not_isWrite (h step hstep)

namespace Asked

variable {α : Type} {allowed : Query → Prop} {outcome : Except Error α} {steps : List Step}

theorem idle (h : Asked allowed outcome steps) : Idle steps :=
  fun step hstep => Step.isWrite_of_puts (h.questions step hstep)

theorem silent (h : Asked allowed outcome steps) : Silent steps := h.idle.silent

end Asked

/-! ## A plan -/

/-- How sending a plan goes: one statement after the other, up to the first that cannot be sent or
is refused. -/
inductive Sends : List Statement → Except Error Unit → List Step → Prop where
  | nil : Sends [] (.ok ()) []
  | cons {statement : Statement} {rest : List Statement} {outcome : Except Error Unit}
      {steps : List Step} (sql : String) (h : Sends rest outcome steps) :
      Sends (statement :: rest) outcome (⟨.sent (.statement statement) sql, none⟩ :: steps)
  | refused {statement : Statement} {rest : List Statement} (sql : String) (failure : Failure)
      (error : Error) :
      Sends (statement :: rest) (.error error) [⟨.sent (.statement statement) sql, some failure⟩]
  | unsent {plan : List Statement} (error : Error) : Sends plan (.error error) []

namespace Sends

variable {plan : List Statement} {outcome : Except Error Unit} {steps : List Step}

/-- What was sent is the beginning of the plan. -/
theorem statements (h : Sends plan outcome steps) :
    steps.filterMap Step.statement? <+: plan := by
  induction h with
  | nil => exact List.nil_prefix
  | cons sql h ih =>
    rw [List.filterMap_cons_some (Step.statement?_sent _ sql _)]
    exact List.cons_prefix_cons.2 ⟨rfl, ih⟩
  | refused sql failure error =>
    rw [List.filterMap_cons_some (Step.statement?_sent _ sql _)]
    exact List.cons_prefix_cons.2 ⟨rfl, List.nil_prefix⟩
  | unsent error => exact List.nil_prefix

/-- A plan that succeeds was sent to its end, and nothing else was. -/
theorem complete (h : Sends plan (.ok ()) steps) :
    steps.map Step.statement? = plan.map some := by
  -- the outcome is an index of `Sends`, so it has to be a variable for the induction
  generalize hok : (Except.ok () : Except Error Unit) = outcome at h
  induction h with
  | nil => rfl
  | cons sql h ih => rw [List.map_cons, Step.statement?_sent, ih hok, List.map_cons]
  | refused => cases hok
  | unsent => cases hok

theorem statements_of_ok (h : Sends plan (.ok ()) steps) :
    steps.filterMap Step.statement? = plan := by
  have hsent : steps.filterMap Step.statement? = (steps.map Step.statement?).filterMap id := by
    rw [List.filterMap_map]
    rfl
  rw [hsent, h.complete, List.filterMap_map]
  exact List.filterMap_some

/-- In a plan that succeeds every statement was accepted. -/
theorem accepted (h : Sends plan (.ok ()) steps) : Accepted steps := by
  generalize hok : (Except.ok () : Except Error Unit) = outcome at h
  induction h with
  | nil => exact .nil
  | cons sql h ih => exact List.forall_mem_cons.2 ⟨rfl, ih hok⟩
  | refused => cases hok
  | unsent => cases hok

/-- Only the last statement can have been refused. -/
theorem onlyLastFails (h : Sends plan outcome steps) :
    steps.Pairwise fun step _ => step.failure = none := by
  induction h with
  | nil => exact .nil
  | cons sql h ih => exact List.pairwise_cons.2 ⟨fun _ _ => rfl, ih⟩
  | refused => exact List.pairwise_singleton _ _
  | unsent => exact .nil

end Sends

section Sending

variable {σ : Type} [Server σ]

open Session

/-- A statement alone goes as a plan of one statement does. -/
theorem does_perform (statement : Statement) :
    Does (perform statement : Session σ Unit).run (Sends [statement]) := by
  have hsend : Does (send (.statement statement) : Session σ _).run fun outcome steps =>
      (∀ rows, outcome = .ok rows → Sends [statement] (.ok ()) steps) ∧
        ∀ failed, outcome = .error failed → ∀ error, Sends [statement] (.error error) steps := by
    refine .send (fun rows sql => ⟨?_, ?_⟩) (fun failure sql => ⟨?_, ?_⟩) fun fault => ⟨?_, ?_⟩
    · exact fun _ _ => .cons sql .nil
    · intro failed h
      cases h
    · intro rows h
      cases h
    · exact fun _ _ => .refused sql failure
    · intro rows h
      cases h
    · exact fun _ _ => .unsent
  unfold perform
  dsimp only
  split
  · exact .pure (.unsent _)
  · refine .bind_run hsend.attempt (fun tried steps htried => ?_) (fun error steps htried => ?_)
    · obtain ⟨outcome, hok, hsent, hfailed⟩ := htried
      cases Except.ok.inj hok
      -- whatever the reply, nothing more is sent
      split
      · exact .pure (by rw [List.append_nil]; exact hsent _ rfl)
      · exact .pure (by rw [List.append_nil]; exact hfailed _ rfl _)
      · exact .pure (by rw [List.append_nil]; exact hfailed _ rfl _)
    · obtain ⟨outcome, hok, -⟩ := htried
      cases hok

/-- The statements of a plan are sent in their order, up to the first that cannot be. -/
theorem does_performAll (plan : List Statement) :
    Does (performAll plan : Session σ Unit).run (Sends plan) := by
  induction plan with
  | nil => exact .pure .nil
  | cons statement rest ih =>
    refine .bind_run (does_perform statement) (fun _ steps h => ?_) fun error steps h => ?_
    -- a success of one statement is that it was sent and accepted
    · cases h with
      | cons sql h =>
        cases h
        exact ih.mono fun _ _ hrest => .cons sql hrest
    · cases h with
      | cons sql h =>
        cases h
        exact .cons sql (.unsent error)
      | refused sql failure => exact .refused sql failure error
      | unsent => exact .unsent error

end Sending

end PgGrants
