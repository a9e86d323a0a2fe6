/-
Lending memberships. Work as a member of the roles is the work itself with steps before it, in which
the connecting role joins the roles, and steps after it, in which the memberships are handed back.
Neither sends any statement of a plan. When the whole succeeds, the memberships that were taken back
after the work are those that were lent before it, newest first, and the server did everything that
was asked of it on both sides.
-/
import PgGrants.Proofs.Sending
import PgGrants.Proofs.Stay

set_option autoImplicit false

namespace PgGrants

/-! ## Steps around the work -/

/-- The step happens inside a transaction, and neither opens nor ends one. -/
def Event.isInner : Event → Bool
  | .sent _ _ => true
  | .started _ => true
  | .boundary .savepoint => true
  | .boundary .release => true
  | .boundary .rollbackTo => true
  | _ => false

/-- The step happens inside a transaction and sends no planned statement. -/
def Step.isAside (step : Step) : Bool := step.event.isInner && step.statement?.isNone

abbrev Aside (steps : List Step) : Prop := ∀ step ∈ steps, step.isAside = true

/-- All of it happens inside a transaction. -/
abbrev Inner (steps : List Step) : Prop := ∀ step ∈ steps, step.event.isInner = true

theorem Aside.nil : Aside [] := fun _ h => absurd h List.not_mem_nil

theorem Aside.append {first second : List Step} (hfirst : Aside first) (hsecond : Aside second) :
    Aside (first ++ second) :=
  List.forall_mem_append.2 ⟨hfirst, hsecond⟩

theorem Aside.inner {steps : List Step} (h : Aside steps) : Inner steps :=
  fun step hstep => (Bool.and_eq_true_iff.1 (h step hstep)).1

theorem Aside.silent {steps : List Step} (h : Aside steps) : Silent steps :=
  fun step hstep => Option.isNone_iff_eq_none.1 (Bool.and_eq_true_iff.1 (h step hstep)).2

theorem Inner.append {first second : List Step} (hfirst : Inner first) (hsecond : Inner second) :
    Inner (first ++ second) :=
  List.forall_mem_append.2 ⟨hfirst, hsecond⟩

theorem Step.isInner_of_puts {step : Step} {allowed : Query → Prop} (h : step.Puts allowed) :
    step.event.isInner = true := by
  obtain ⟨query, _, hquery⟩ := h
  obtain ⟨event, failure⟩ := step
  cases event <;> first | rfl | cases hquery

theorem Asked.aside {α : Type} {allowed : Query → Prop} {outcome : Except Error α}
    {steps : List Step} (h : Asked allowed outcome steps) : Aside steps := by
  intro step hstep
  have hinner := Step.isInner_of_puts (h.questions step hstep)
  have hsilent := h.silent step hstep
  unfold Step.isAside
  rw [hinner, hsilent]
  rfl

theorem Sends.inner {plan : List Statement} {outcome : Except Error Unit} {steps : List Step}
    (h : Sends plan outcome steps) : Inner steps := by
  induction h with
  | nil => exact fun _ h => absurd h List.not_mem_nil
  | cons sql h ih => exact List.forall_mem_cons.2 ⟨rfl, ih⟩
  | refused => exact List.forall_mem_singleton.2 rfl
  | unsent => exact fun _ h => absurd h List.not_mem_nil

/-! ## Moving memberships

Joining and handing back move memberships and do nothing else that counts. `Moves` keeps the
account: when some work succeeds, what was moved is what it was asked to move, and in that order. -/

/-- A role, and its new or former member. -/
abbrev Movement := Option String × Option String

/-- What some work does to memberships: it stays aside, and when it succeeds everything it asked for
was done and the memberships that `moved?` counts are the given ones, in their order. -/
structure Moves {α : Type} (moved? : Step → Option Movement) (moved : List Movement)
    (outcome : Except Error α) (steps : List Step) : Prop where
  aside : Aside steps
  accepted : ∀ a, outcome = .ok a → Accepted steps
  moved : ∀ a, outcome = .ok a → steps.filterMap moved? = moved

/-- What counts movements of memberships counts no questions, boundaries or starts. -/
structure Counts (moved? : Step → Option Movement) : Prop where
  puts : ∀ step allowed, step.Puts allowed → moved? step = none
  quiet : ∀ step, step.command? = none → moved? step = none

theorem counts_lent : Counts Step.lent? where
  puts _ _ h := Step.lent?_of_puts h
  quiet step h := by
    unfold Step.lent?
    rw [h]
    rfl

theorem counts_takenBack : Counts Step.takenBack? where
  puts _ _ h := Step.takenBack?_of_puts h
  quiet step h := by
    unfold Step.takenBack?
    rw [h]
    rfl

section Rules

variable {σ α β : Type} [Server σ] {moved? : Step → Option Movement}

theorem Moves.nil (outcome : Except Error α) : Moves moved? [] outcome [] :=
  ⟨.nil, fun _ _ => .nil, fun _ _ => rfl⟩

theorem Moves.error {moved moved' : List Movement} {error : Error} {steps : List Step}
    (h : Moves moved? moved (.error error : Except Error α) steps) :
    Moves moved? moved' (.error error : Except Error β) steps :=
  ⟨h.aside, fun _ h => (nomatch h), fun _ h => (nomatch h)⟩

theorem Moves.append {first second : List Movement} {a : α} {outcome : Except Error β}
    {steps rest : List Step} (hfirst : Moves moved? first (.ok a) steps)
    (hsecond : Moves moved? second outcome rest) :
    Moves moved? (first ++ second) outcome (steps ++ rest) where
  aside := hfirst.aside.append hsecond.aside
  accepted b hb := (hfirst.accepted a rfl).append (hsecond.accepted b hb)
  moved b hb := by rw [List.filterMap_append, hfirst.moved a rfl, hsecond.moved b hb]

theorem Asked.moves {allowed : Query → Prop} {outcome : Except Error α} {steps : List Step}
    (hcounts : Counts moved?) (h : Asked allowed outcome steps) :
    Moves moved? [] outcome steps where
  aside := h.aside
  accepted a ha := by
    subst ha
    exact h.accepted
  moved _ _ := List.filterMap_eq_nil_iff.2 fun step hstep =>
    hcounts.puts step allowed (h.questions step hstep)

/-- The work moves such memberships. -/
def MovesOnly (moved? : Step → Option Movement) (moved : List Movement) (work : Session σ α) :
    Prop :=
  Does work.run (Moves moved? moved)

namespace MovesOnly

theorem pure (a : α) : MovesOnly moved? [] (Pure.pure a : Session σ α) := Does.pure (.nil _)

theorem ofAsks {work : Session σ α} (hcounts : Counts moved?) (h : Asks work) :
    MovesOnly moved? [] work :=
  Does.mono h fun _ _ hasked => hasked.moves hcounts

theorem bind {first second : List Movement} {work : Session σ α} {next : α → Session σ β}
    (hwork : MovesOnly moved? first work) (hnext : ∀ a, MovesOnly moved? second (next a)) :
    MovesOnly moved? (first ++ second) (work >>= next) :=
  Does.bind_run hwork (fun a _ hfirst => (hnext a).mono fun _ _ hrest => hfirst.append hrest)
    fun _ _ h => h.error

/-- What follows moves nothing. -/
theorem bind_nil {moved : List Movement} {work : Session σ α} {next : α → Session σ β}
    (hwork : MovesOnly moved? moved work) (hnext : ∀ a, MovesOnly moved? [] (next a)) :
    MovesOnly moved? moved (work >>= next) := by
  have h := hwork.bind hnext
  rw [List.append_nil] at h
  exact h

/-- Questions beforehand move nothing. -/
theorem asks_bind {moved : List Movement} {work : Session σ α} {next : α → Session σ β}
    (hcounts : Counts moved?) (hwork : Asks work) (hnext : ∀ a, MovesOnly moved? moved (next a)) :
    MovesOnly moved? moved (work >>= next) :=
  (ofAsks hcounts hwork).bind hnext

theorem ite {moved : List Movement} {c : Prop} [Decidable c] {work other : Session σ α}
    (hwork : MovesOnly moved? moved work) (hother : MovesOnly moved? moved other) :
    MovesOnly moved? moved (if c then work else other) := by
  split
  · exact hwork
  · exact hother

theorem boundary {mark : Boundary} (hcounts : Counts moved?)
    (hmark : (Event.boundary mark).isInner = true) :
    MovesOnly moved? [] (Session.boundary mark : Session σ Unit) := by
  refine Does.boundary fun failure => ⟨?_, fun _ hok => ?_, fun _ _ => ?_⟩
  · refine List.forall_mem_singleton.2 ?_
    unfold Step.isAside
    rw [hmark]
    rfl
  · cases failure with
    | none => exact List.forall_mem_singleton.2 rfl
    | some failure => cases hok
  · rw [List.filterMap_cons_none (hcounts.quiet _ rfl)]
    rfl

/-- A membership that is lent or taken back counts as what the command says it is. -/
theorem send {command : Command} {moved : List Movement}
    (hstatement : command.statement? = none)
    (hmoved : ∀ sql failure, [Step.mk (.sent command sql) failure].filterMap moved? = moved) :
    MovesOnly moved? moved (Session.send command : Session σ (List (List Value))) := by
  -- it stays aside whether or not the server accepts it
  have haside (sql : String) (failure : Option Failure) :
      Aside [Step.mk (.sent command sql) failure] := by
    refine List.forall_mem_singleton.2 ?_
    show (true && (Command.statement? command).isNone) = true
    rw [hstatement]
    rfl
  refine Does.send (fun rows sql => ?_) (fun failure sql => ?_) fun fault => ?_
  · exact ⟨haside sql none, fun _ _ => List.forall_mem_singleton.2 rfl, fun _ _ => hmoved sql none⟩
  · exact ⟨haside sql _, fun _ h => (nomatch h), fun _ h => (nomatch h)⟩
  · exact ⟨.nil, fun _ h => (nomatch h), fun _ h => (nomatch h)⟩

end MovesOnly

end Rules

/-! ## Joining and handing back -/

section Parts

variable {σ α : Type} [Server σ] {moved? : Step → Option Movement}

open Session

theorem asks_mustJoin (user : Option String) (role : String) :
    Asks (mustJoin (σ := σ) user role) := by
  unfold mustJoin
  refine .ite (.pure false) ((asks_lookUpRole role).bind fun found => ?_)
  cases found with
  | none => exact .throw _
  | some identity =>
    dsimp only
    exact .ite (.pure false) ((asks_isMember _ _).bind fun _ => .pure _)

theorem movesOnly_grantRole_lent (role member : Option String) :
    MovesOnly Step.lent? [(role, member)] (grantRole role member : Session σ Unit) :=
  (MovesOnly.send rfl fun _ _ => rfl).bind_nil fun _ => .pure ()

theorem movesOnly_revokeRole_lent (role member : Option String) :
    MovesOnly Step.lent? [] (revokeRole role member : Session σ Unit) :=
  (MovesOnly.send rfl fun _ _ => rfl).bind_nil fun _ => .pure ()

theorem movesOnly_grantRole_takenBack (role member : Option String) :
    MovesOnly Step.takenBack? [] (grantRole role member : Session σ Unit) :=
  (MovesOnly.send rfl fun _ _ => rfl).bind_nil fun _ => .pure ()

theorem movesOnly_revokeRole_takenBack (role member : Option String) :
    MovesOnly Step.takenBack? [(role, member)] (revokeRole role member : Session σ Unit) :=
  (MovesOnly.send rfl fun _ _ => rfl).bind_nil fun _ => .pure ()

/-- A role that leaves the user lends nothing. -/
theorem movesOnly_leave (user : Option String) (role : String) :
    MovesOnly Step.lent? [] (leave (σ := σ) user role) := by
  refine .asks_bind counts_lent (asks_isMember user role) fun _ => ?_
  exact .ite ((movesOnly_revokeRole_lent _ _).bind_nil fun _ => .pure true) (.pure false)

/-- The memberships of the user in the roles. -/
def membershipsOf (user : Option String) (roles : List String) : List Movement :=
  roles.map fun role => (some role, user)

/-- What joining roles does: the memberships that are lent are those by which the scope grows. -/
structure Joins (user : Option String) (given : Scope) (result : Except Error Unit × Scope)
    (steps : List Step) : Prop where
  aside : Aside steps
  accepted : result.1 = .ok () → Accepted steps
  lent : result.1 = .ok () →
    membershipsOf user result.2.granted =
      membershipsOf user given.granted ++ steps.filterMap Step.lent?

theorem Joins.stop {user : Option String} {scope scope' : Scope} {error : Error}
    {steps : List Step} (h : Aside steps) : Joins user scope (.error error, scope') steps :=
  ⟨h, fun h => (nomatch h), fun h => (nomatch h)⟩

/-- Joining goes on after one role was joined, or passed over. -/
theorem Joins.after {user : Option String} {scope scope' : Scope}
    {result : Except Error Unit × Scope} {steps rest : List Step} {moved : List Movement} {α : Type}
    {a : α} (hfirst : Moves Step.lent? moved (.ok a) steps)
    (hscope : membershipsOf user scope'.granted = membershipsOf user scope.granted ++ moved)
    (hrest : Joins user scope' result rest) : Joins user scope result (steps ++ rest) where
  aside := hfirst.aside.append hrest.aside
  accepted hok := (hfirst.accepted a rfl).append (hrest.accepted hok)
  lent hok := by
    rw [hrest.lent hok, hscope, List.filterMap_append, hfirst.moved a rfl, List.append_assoc]

theorem does_join (user : Option String) (roles : List String) (scope : Scope) :
    Does (join (σ := σ) user roles scope) (Joins user scope) := by
  induction roles generalizing scope with
  | nil => exact .pure ⟨.nil, fun _ => .nil, fun _ => (List.append_nil _).symm⟩
  | cons role rest ih =>
    unfold join
    refine Does.bind (asks_mustJoin user role) fun needed first hneeded => ?_
    rcases needed with error | _ | _
    · exact .pure (.stop (by rw [List.append_nil]; exact hneeded.aside))
    · -- nothing is lent for a role that need not be joined
      exact (ih scope).mono fun _ _ hrest =>
        .after (hneeded.moves counts_lent) (List.append_nil _).symm hrest
    · refine Does.bind (movesOnly_leave user role) fun left second hleft => ?_
      have haside := hneeded.aside.append hleft.aside
      cases left with
      | error error => exact .pure (.stop (by rw [List.append_nil]; exact haside))
      | ok left =>
        refine Does.bind (movesOnly_grantRole_lent role user) fun granted third hgranted => ?_
        cases granted with
        | error error =>
          refine .pure (.stop ?_)
          rw [List.append_nil]
          exact hneeded.aside.append (hleft.aside.append hgranted.aside)
        | ok _ =>
          have hmoved := (hneeded.moves counts_lent).append (hleft.append hgranted)
          refine (ih _).mono fun _ _ hrest => ?_
          rw [← List.append_assoc, ← List.append_assoc, List.append_assoc first]
          refine .after hmoved ?_ hrest
          -- whether or not the role left, the scope grows by this role only
          cases left <;> exact List.map_append

theorem movesOnly_ensureTransaction :
    MovesOnly moved? [] (ensureTransaction : Session σ Unit) :=
  Does.ensureTransaction (.nil _)

theorem movesOnly_enterSavepoint (hcounts : Counts moved?) :
    MovesOnly moved? [] (enterSavepoint : Session σ Unit) :=
  (movesOnly_ensureTransaction).bind_nil fun _ => .boundary hcounts rfl

/-- How a savepoint is left: it is released after a success, which may fail, and rolled back to
after a failure. -/
inductive Leaves : Except Error α → Except Error α → List Step → Prop where
  | released (result : α) : Leaves (.ok result) (.ok result) [⟨.boundary .release, none⟩]
  | notReleased (result : α) (failure : Failure) :
      Leaves (.ok result) (.error failure.error) [⟨.boundary .release, some failure⟩]
  | rolledBack (error error' : Error) (failure : Option Failure) :
      Leaves (.error error) (.error error') [⟨.boundary .rollbackTo, failure⟩]

theorem Leaves.aside {entered outcome : Except Error α} {steps : List Step}
    (h : Leaves entered outcome steps) : Aside steps := by
  cases h with
  | released => exact List.forall_mem_singleton.2 rfl
  | notReleased => exact List.forall_mem_singleton.2 rfl
  | rolledBack => exact List.forall_mem_singleton.2 rfl

/-- A success means that the work succeeded and that the savepoint was released. -/
theorem Leaves.of_ok {entered : Except Error α} {result : α} {steps : List Step}
    (h : Leaves entered (.ok result) steps) :
    entered = .ok result ∧ steps = [⟨.boundary .release, none⟩] := by
  cases h
  exact ⟨rfl, rfl⟩

theorem does_boundary (mark : Boundary) :
    Does (boundary mark : Session σ Unit).run fun outcome steps =>
      ∃ failure, outcome = outcomeOf failure ∧ steps = [⟨.boundary mark, failure⟩] :=
  .boundary fun failure => ⟨failure, rfl, rfl⟩

theorem does_rollbackTo (error : Error) :
    Does (do boundary .rollbackTo; throw error : Session σ α).run fun outcome steps =>
      ∃ failure error', outcome = .error error' ∧ steps = [⟨.boundary .rollbackTo, failure⟩] := by
  refine .bind_run (does_boundary .rollbackTo) ?_ ?_
  · rintro _ steps ⟨failure, _, rfl⟩
    exact .pure ⟨failure, error, rfl, rfl⟩
  · rintro error' steps ⟨failure, _, rfl⟩
    exact ⟨failure, error', rfl, rfl⟩

theorem does_release (result : α) :
    Does (do boundary .release; return result : Session σ α).run fun outcome steps =>
      ∃ failure, outcome = (outcomeOf failure).map (fun _ => result) ∧
        steps = [⟨.boundary .release, failure⟩] := by
  refine .bind_run (does_boundary .release) ?_ ?_
  · rintro _ steps ⟨failure, hok, rfl⟩
    exact .pure ⟨failure, by rw [← hok]; rfl, rfl⟩
  · rintro error steps ⟨failure, herror, rfl⟩
    exact ⟨failure, by rw [← herror]; rfl, rfl⟩

theorem does_leaveSavepoint (entered : Except Error α) :
    Does (leaveSavepoint entered : Session σ α).run (Leaves entered) := by
  unfold leaveSavepoint
  cases entered with
  | error error =>
    refine (does_rollbackTo error).mono ?_
    rintro _ _ ⟨failure, error', rfl, rfl⟩
    exact .rolledBack error error' failure
  | ok result =>
    refine (does_release result).mono ?_
    rintro _ _ ⟨failure, rfl, rfl⟩
    -- the work has succeeded, and still the whole fails when the release does
    cases failure with
    | none => exact .released result
    | some failure => exact .notReleased result failure

theorem does_joinInSavepoint (user : Option String) (names : List String) :
    Does (joinInSavepoint (σ := σ) user names) (Joins user (.ofUser user)) := by
  unfold joinInSavepoint
  refine .bind (movesOnly_enterSavepoint counts_lent) fun entered first hentered => ?_
  cases entered with
  | error error => exact .pure (.stop (by rw [List.append_nil]; exact hentered.aside))
  | ok _ =>
    refine .bind (does_join user names _) fun ⟨joined, scope⟩ second hjoined => ?_
    refine .bind (does_leaveSavepoint joined) fun left third hleft => .pure ?_
    rw [List.append_nil]
    -- only a success has to account for what was lent, and then there is just the release
    refine .after hentered (List.append_nil _).symm ⟨hjoined.aside.append hleft.aside, ?_, ?_⟩
    · rintro rfl
      obtain ⟨rfl, rfl⟩ := hleft.of_ok
      exact (hjoined.accepted rfl).append (List.forall_mem_singleton.2 rfl)
    · rintro rfl
      obtain ⟨rfl, rfl⟩ := hleft.of_ok
      rw [List.filterMap_append]
      rw [List.filterMap_cons_none (counts_lent.quiet _ rfl), List.filterMap_nil, List.append_nil]
      exact hjoined.lent rfl

/-! ### Handing back -/

theorem movesOnly_handBack (user : Option String) (roles : List String) :
    MovesOnly Step.takenBack? (membershipsOf user roles) (handBack (σ := σ) user roles) := by
  induction roles with
  | nil => exact .pure ()
  | cons role rest ih => exact (movesOnly_revokeRole_takenBack role user).bind fun _ => ih

/-- To restore memberships takes none back. -/
theorem movesOnly_restore (user : Option String) (roles : List String) :
    MovesOnly Step.takenBack? [] (restore (σ := σ) user roles) := by
  induction roles with
  | nil => exact .pure ()
  | cons role rest ih =>
    refine .asks_bind counts_takenBack (asks_hasRole role) fun found => ?_
    cases found with
    | false => exact ih
    | true => exact (movesOnly_grantRole_takenBack user role).bind_nil fun _ => ih

theorem movesOnly_undo (user : Option String) (scope : Scope) :
    MovesOnly Step.takenBack? (membershipsOf user scope.granted.reverse)
      (undo (σ := σ) user scope) :=
  (movesOnly_handBack user _).bind_nil fun _ => movesOnly_restore user _

end Parts

/-! ## Work with memberships

`Lends` puts the account around the work. More can be lent before and more taken back behind, and
the whole succeeds only when all three parts do. -/

section Lending

variable {α : Type}

/-- Work of some kind with steps aside before and after it. When the whole succeeds, so did the
work, everything around it was done, and the memberships lent before it and taken back after it are
the given ones. -/
inductive Lends (lent takenBack : List Movement) (kind : Except Error α → List Step → Prop) :
    Except Error α → List Step → Prop where
  /-- The work was not started. -/
  | notStarted {error : Error} {steps : List Step} (haside : Aside steps) :
      Lends lent takenBack kind (.error error) steps
  | failed {outcome : Except Error α} {error : Error} {before worked after : List Step}
      (hbefore : Aside before) (haccepted : Accepted before) (hworked : kind outcome worked)
      (hafter : Aside after) :
      Lends lent takenBack kind (.error error) (before ++ worked ++ after)
  | done {result : α} {before worked after : List Step} (hbefore : Aside before)
      (haccepted : Accepted before) (hlent : before.filterMap Step.lent? = lent)
      (hworked : kind (.ok result) worked) (hafter : Aside after) (haccepted' : Accepted after)
      (htakenBack : after.filterMap Step.takenBack? = takenBack) :
      Lends lent takenBack kind (.ok result) (before ++ worked ++ after)

namespace Lends

variable {lent lent' takenBack takenBack' : List Movement}
  {kind : Except Error α → List Step → Prop} {outcome entered : Except Error α}
  {steps first rest : List Step}

/-- The work alone. -/
theorem alone (h : kind outcome steps) : Lends [] [] kind outcome steps := by
  rw [← List.append_nil steps]
  cases outcome with
  | error error => exact .failed .nil .nil h .nil
  | ok result => exact .done .nil .nil rfl h .nil .nil rfl

/-- More memberships are lent before. -/
theorem before {β : Type} {b : β} (hfirst : Moves Step.lent? lent' (.ok b) first)
    (h : Lends lent takenBack kind outcome steps) :
    Lends (lent' ++ lent) takenBack kind outcome (first ++ steps) := by
  -- what was lent before adds to what is lent, unless the work was not started
  cases h with
  | notStarted haside => exact .notStarted (hfirst.aside.append haside)
  | failed hbefore haccepted hworked hafter =>
    rw [← List.append_assoc, ← List.append_assoc]
    exact .failed (hfirst.aside.append hbefore) ((hfirst.accepted b rfl).append haccepted) hworked
      hafter
  | done hbefore haccepted hlent hworked hafter haccepted' htakenBack =>
    rw [← List.append_assoc, ← List.append_assoc]
    refine .done (hfirst.aside.append hbefore) ((hfirst.accepted b rfl).append haccepted) ?_ hworked
      hafter haccepted' htakenBack
    rw [List.filterMap_append, hfirst.moved b rfl, hlent]

/-- More memberships are taken back after. The whole succeeds only when that does. -/
theorem after (h : Lends lent takenBack kind entered steps) (haside : Aside rest)
    (hok : ∀ result, outcome = .ok result →
      entered = .ok result ∧ Accepted rest ∧ rest.filterMap Step.takenBack? = takenBack') :
    Lends lent (takenBack ++ takenBack') kind outcome (steps ++ rest) := by
  -- the whole fails as soon as what follows does, however the work ended
  cases outcome with
  | error error =>
    cases h with
    | notStarted haside' => exact .notStarted (haside'.append haside)
    | failed hbefore haccepted hworked hafter =>
      rw [List.append_assoc]
      exact .failed hbefore haccepted hworked (hafter.append haside)
    | done hbefore haccepted _ hworked hafter _ _ =>
      rw [List.append_assoc]
      exact .failed hbefore haccepted hworked (hafter.append haside)
  | ok result =>
    obtain ⟨rfl, hrest, hmoved⟩ := hok result rfl
    cases h with
    | done hbefore haccepted hlent hworked hafter haccepted' htakenBack =>
      rw [List.append_assoc]
      refine .done hbefore haccepted hlent hworked (hafter.append haside)
        (haccepted'.append hrest) ?_
      rw [List.filterMap_append, htakenBack, hmoved]

/-- The work happens inside a transaction when its own steps do. -/
theorem inner (h : Lends lent takenBack kind outcome steps)
    (hkind : ∀ outcome worked, kind outcome worked → Inner worked) : Inner steps := by
  cases h with
  | notStarted haside => exact haside.inner
  | failed hbefore _ hworked hafter =>
    exact (hbefore.inner.append (hkind _ _ hworked)).append hafter.inner
  | done hbefore _ _ hworked hafter _ _ =>
    exact (hbefore.inner.append (hkind _ _ hworked)).append hafter.inner

end Lends

/-- The attempt as an outcome. -/
def Attempt.outcome : Attempt α → Except Error α
  | .notJoined error => .error error
  | .failed error => .error error
  | .done result => .ok result

variable {σ : Type} [Server σ] {kind : Except Error α → List Step → Prop}

open Session

theorem does_start {work : Session σ α} (hwork : Does work.run kind) (scope : Scope) :
    Does (start scope work).run (Lends [] [] kind) := by
  have hstarted : MovesOnly Step.lent? [] (record (.started scope) : Session σ Unit) := by
    refine Does.record (fun _ => rfl) ⟨?_, fun _ _ => ?_, fun _ _ => rfl⟩
    · exact List.forall_mem_singleton.2 rfl
    · exact List.forall_mem_singleton.2 rfl
  refine .bind_run hstarted (fun _ first hfirst => ?_) fun _ _ h => .notStarted h.aside
  exact hwork.mono fun _ _ hworked => .before hfirst (.alone hworked)

theorem does_savepoint {work : Session σ α} {lent : List Movement}
    (hwork : Does work.run (Lends lent [] kind)) :
    Does (savepoint work).run (Lends lent [] kind) := by
  refine .bind_run (movesOnly_enterSavepoint counts_lent) ?_ fun _ _ h => .notStarted h.aside
  intro _ first hfirst
  refine .bind_run hwork.attempt ?_ fun _ _ ⟨_, h, _⟩ => nomatch h
  rintro tried steps ⟨_, hok, hlends⟩
  cases Except.ok.inj hok
  refine (does_leaveSavepoint tried).mono fun outcome rest hrest => ?_
  refine .before hfirst (.after hlends hrest.aside fun result hresult => ?_)
  subst hresult
  obtain ⟨rfl, rfl⟩ := hrest.of_ok
  exact ⟨rfl, List.forall_mem_singleton.2 rfl, rfl⟩

theorem does_tryAsMember {work : Session σ α} (hwork : Does work.run kind)
    (user : Option String) (names : List String) :
    Does (tryAsMember user names work) fun tried steps =>
      Lends (membershipsOf user tried.2.granted) [] kind tried.1.outcome steps := by
  refine .bind (does_joinInSavepoint user names) fun ⟨joined, scope⟩ first hjoined => ?_
  cases joined with
  | error error => exact .pure (.notStarted (by rw [List.append_nil]; exact hjoined.aside))
  | ok _ =>
    -- joining succeeded, so all that was granted is lent by now
    have hlent : Moves Step.lent? (membershipsOf user scope.granted) (.ok ()) first :=
      ⟨hjoined.aside, fun _ _ => hjoined.accepted rfl, fun _ _ => (hjoined.lent rfl).symm⟩
    refine .bind (does_savepoint (does_start hwork scope)) fun tried second hlends => ?_
    have hall := Lends.before hlent hlends
    rw [List.append_nil] at hall
    cases tried with
    | error error => exact .pure (by rw [List.append_nil]; exact hall)
    | ok result => exact .pure (by rw [List.append_nil]; exact hall)

theorem does_stayAs {work : Session σ α} (hwork : Does work.run kind)
    (user : Option String) (names : List String) :
    Does (stayAs user names work) fun stay steps => ∃ lent,
      Lends lent lent.reverse kind (stay.outcome names) steps := by
  refine .bind (does_tryAsMember hwork user names) fun ⟨attempt, scope⟩ first htried => ?_
  refine .bind (movesOnly_undo user scope) fun released second hundone => .pure ?_
  -- what was lent is what the scope says, and undoing goes through it backwards
  refine ⟨membershipsOf user scope.granted, ?_⟩
  rw [List.append_nil]
  refine .after htried hundone.aside fun result hresult => ?_
  obtain ⟨rfl, rfl⟩ := Stay.outcome_eq_ok hresult
  refine ⟨rfl, hundone.accepted () rfl, (hundone.moved () rfl).trans ?_⟩
  exact List.map_reverse

theorem does_asMember {work : Session σ α} (hwork : Does work.run kind) (user : Option String)
    (names : List String) :
    Does (asMember user names work).run fun outcome steps => ∃ lent,
      Lends lent lent.reverse kind outcome steps := by
  have houtcome : Does (Stay.outcome names <$> stayAs user names work) fun outcome steps =>
      ∃ lent, Lends lent lent.reverse kind outcome steps := .map (does_stayAs hwork user names)
  exact houtcome.congr fun c => exec_asMember user names work c

/-- Every run of work as a member of roles is the work with memberships lent before it, and they are
taken back after it. -/
theorem does_asMemberOf {work : Session σ α} (hwork : Does work.run kind)
    (roles : List (Option String)) :
    Does (asMemberOf roles work).run fun outcome steps => ∃ lent,
      Lends lent lent.reverse kind outcome steps := by
  have hasked {β : Type} {question : Session σ β} {next : β → Session σ α} (h : Asks question)
      (hnext : ∀ b, Does (next b).run fun outcome steps => ∃ lent,
        Lends lent lent.reverse kind outcome steps) :
      Does (question >>= next).run fun outcome steps => ∃ lent,
        Lends lent lent.reverse kind outcome steps := by
    refine .bind_run h (fun b first hfirst => ?_) fun _ _ hfailed =>
      ⟨[], .notStarted hfailed.aside⟩
    refine (hnext b).mono fun _ _ ⟨lent, hlends⟩ => ⟨lent, ?_⟩
    exact .before (hfirst.moves counts_lent) hlends
  have halone (scope : Scope) : Does (start scope work).run fun outcome steps => ∃ lent,
      Lends lent lent.reverse kind outcome steps :=
    (does_start hwork scope).mono fun _ _ h => ⟨[], h⟩
  -- whoever connects, the work is done alone or as a member, after some questions
  unfold asMemberOf
  dsimp only
  split
  · exact halone _
  · refine hasked asks_connectingRole fun user => ?_
    refine hasked (asks_lookUpRole user) fun found => ?_
    cases found with
    | none => exact does_asMember hwork user _
    | some identity =>
      dsimp only
      split
      · exact halone _
      · exact does_asMember hwork user _

end Lending

end PgGrants
