/-
Transactions. On a connection without one, a transaction is opened first; when the server refuses
that, nothing else happens. Otherwise the work runs inside the transaction, and its outcome alone
decides whether the server is told to commit or to roll back.
-/
import PgGrants.Proofs.Steps

set_option autoImplicit false

namespace PgGrants

variable {σ α : Type} [Server σ]

/-- The connection after a transaction was opened on it. -/
def Connection.opened (c : Connection σ) : Connection σ :=
  { Session.logged c (.boundary .begin) (Server.bound .begin c.server).2 with
    inTransaction := true }

namespace Session

/-! ## Runs -/

theorem exec_ensureTransaction_of_refused {c : Connection σ} {failure : Failure}
    (hc : c.inTransaction = false) (h : (Server.bound .begin c.server).1 = some failure) :
    exec ensureTransaction c =
      (.error failure.error, logged c (.boundary .begin) (Server.bound .begin c.server).2) := by
  have hbegin : exec (boundary .begin) c =
      (.error failure.error, logged c (.boundary .begin) (Server.bound .begin c.server).2) := by
    rw [exec_boundary, h]
    rfl
  unfold ensureTransaction
  rw [exec_bind_ok (exec_isInTransaction c), hc]
  exact exec_bind_error hbegin

theorem exec_ensureTransaction_of_opened {c : Connection σ} (hc : c.inTransaction = false)
    (h : (Server.bound .begin c.server).1 = none) :
    exec ensureTransaction c = (.ok (), c.opened) := by
  have hbegin : exec (boundary .begin) c =
      (.ok (), logged c (.boundary .begin) (Server.bound .begin c.server).2) := by
    rw [exec_boundary, h]
    rfl
  unfold ensureTransaction
  rw [exec_bind_ok (exec_isInTransaction c), hc]
  exact exec_bind_ok hbegin

/-- The connection after a transaction was ended on it. -/
def closed (c : Connection σ) (mark : Boundary) : Connection σ :=
  { logged c (.boundary mark) (Server.bound mark c.server).2 with inTransaction := false }

theorem exec_endTransaction {c : Connection σ} (hc : c.inTransaction = true) (mark : Boundary) :
    exec (endTransaction mark) c =
      (outcomeOf (Server.bound mark c.server).1, closed c mark) := by
  unfold endTransaction
  rw [exec_bind_ok (exec_isInTransaction c), hc, if_pos rfl,
    exec_bind_ok (exec_setInTransaction false c), exec_boundary]
  rfl

theorem exec_endTransaction_of_none {c : Connection σ} (hc : c.inTransaction = false)
    (mark : Boundary) : exec (endTransaction mark) c = (.ok (), c) := by
  unfold endTransaction
  rw [exec_bind_ok (exec_isInTransaction c), hc]
  rfl

/-- The first command on a connection opens a transaction for itself. -/
theorem exec_send_of_opened {command : Command} {sql : String} (hsql : command.sql = .ok sql)
    {c : Connection σ} (hc : c.inTransaction = false)
    (h : (Server.bound .begin c.server).1 = none) :
    exec (send command) c = exec (send command) c.opened := by
  have hopened : exec ensureTransaction c.opened = (.ok (), c.opened) :=
    exec_ensureTransaction rfl
  unfold send
  rw [hsql]
  dsimp only
  rw [exec_bind_ok (exec_ensureTransaction_of_opened hc h), exec_bind_ok hopened]

theorem exec_send_of_refused {command : Command} {sql : String} (hsql : command.sql = .ok sql)
    {c : Connection σ} {failure : Failure} (hc : c.inTransaction = false)
    (h : (Server.bound .begin c.server).1 = some failure) :
    exec (send command) c =
      (.error failure.error, logged c (.boundary .begin) (Server.bound .begin c.server).2) := by
  unfold send
  rw [hsql]
  exact exec_bind_error (exec_ensureTransaction_of_refused hc h)

section Runs

variable {work : Session σ α} {c c' : Connection σ}

theorem exec_transaction_of_refused {failure : Failure} (hc : c.inTransaction = false)
    (h : (Server.bound .begin c.server).1 = some failure) :
    exec (transaction work) c =
      (.error failure.error, logged c (.boundary .begin) (Server.bound .begin c.server).2) := by
  have hopen : exec (do ensureTransaction; work) c =
      (.error failure.error, logged c (.boundary .begin) (Server.bound .begin c.server).2) :=
    exec_bind_error (exec_ensureTransaction_of_refused hc h)
  unfold transaction
  rw [exec_bind_ok (exec_attempt _ c), hopen]
  -- there is no transaction to end, so ending it is passed over
  have hnone : (logged c (.boundary .begin) (Server.bound .begin c.server).2).inTransaction =
      false := hc
  exact exec_bind_ok (exec_endTransaction_of_none hnone _)

theorem exec_transaction_of_ok {result : α} (hc : c.inTransaction = false)
    (h : (Server.bound .begin c.server).1 = none)
    (hwork : exec work c.opened = (.ok result, c')) (hc' : c'.inTransaction = true) :
    exec (transaction work) c =
      ((outcomeOf (Server.bound .commit c'.server).1).map fun _ => result, closed c' .commit) := by
  have hopen : exec (do ensureTransaction; work) c = (.ok result, c') := by
    rw [exec_bind_ok (exec_ensureTransaction_of_opened hc h), hwork]
  unfold transaction
  rw [exec_bind_ok (exec_attempt _ c), hopen]
  dsimp only
  rw [exec_bind, exec_endTransaction hc']
  rcases (Server.bound .commit c'.server).1 with _ | failure <;> rfl

/-- A rollback that is refused puts its own error in the place of the first one. -/
theorem exec_transaction_of_error {error : Error} (hc : c.inTransaction = false)
    (h : (Server.bound .begin c.server).1 = none)
    (hwork : exec work c.opened = (.error error, c')) (hc' : c'.inTransaction = true) :
    exec (transaction work) c =
      (.error ((Server.bound .rollback c'.server).1.elim error Failure.error),
        closed c' .rollback) := by
  -- the work runs in the open transaction, and its error is caught
  have hopen : exec (do ensureTransaction; work) c = (.error error, c') := by
    rw [exec_bind_ok (exec_ensureTransaction_of_opened hc h), hwork]
  unfold transaction
  rw [exec_bind_ok (exec_attempt _ c), hopen]
  dsimp only
  rw [exec_bind, exec_endTransaction hc']
  rcases (Server.bound .rollback c'.server).1 with _ | failure <;> rfl

end Runs

end Session

/-! ## Steps

The same runs, with what each step came to. A transaction either was refused at its beginning, or
ends at one boundary that goes by how the work has ended. -/

/-- How a transaction on the connection goes, when the work in it goes in the given way. -/
inductive Transacts (c : Connection σ) (inside : Except Error α → List Step → Prop) :
    Except Error α → List Step → Prop where
  | refused {failure : Failure} (hbegin : (Server.bound .begin c.server).1 = some failure) :
      Transacts c inside (.error failure.error) [⟨.boundary .begin, some failure⟩]
  | committed {result : α} {steps : List Step} (failure : Option Failure)
      (hbegin : (Server.bound .begin c.server).1 = none) (h : inside (.ok result) steps) :
      Transacts c inside ((Session.outcomeOf failure).map fun _ => result)
        (⟨.boundary .begin, none⟩ :: steps ++ [⟨.boundary .commit, failure⟩])
  | rolledBack {error : Error} {steps : List Step} (failure : Option Failure)
      (hbegin : (Server.bound .begin c.server).1 = none) (h : inside (.error error) steps) :
      Transacts c inside (.error (failure.elim error Failure.error))
        (⟨.boundary .begin, none⟩ :: steps ++ [⟨.boundary .rollback, failure⟩])

theorem follows_opened {c : Connection σ} (h : (Server.bound .begin c.server).1 = none) :
    Follows c.server [⟨.boundary .begin, none⟩] c.opened.server :=
  .single (Prod.ext h rfl)

/-- However a transaction is ended, the steps lie between its boundaries. -/
theorem Leads.between_boundaries {work : Session σ α} {c c' : Connection σ}
    {outcome ended : Except Error α} {steps : List Step}
    (hbegin : (Server.bound .begin c.server).1 = none)
    (hrun : Leads work.run c.opened outcome steps c') (mark : Boundary)
    (hexec : Session.exec (Session.transaction work) c = (ended, Session.closed c' mark)) :
    Leads (Session.transaction work).run c ended
      (Step.mk (.boundary .begin) none :: steps ++
        [Step.mk (.boundary mark) (Server.bound mark c'.server).1])
      (Session.closed c' mark) := by
  refine ⟨hexec, ?_, ((follows_opened hbegin).append hrun.server).append (.single rfl)⟩
  have hbefore : c'.log = c.log ++ (Step.mk (.boundary .begin) none :: steps).map Step.event :=
    hrun.log.trans (List.append_assoc _ _ _)
  show c'.log ++ [Event.boundary mark] = _
  rw [hbefore, List.append_assoc, List.map_append]
  rfl

theorem leads_transaction {work : Session σ α} {inside : Except Error α → List Step → Prop}
    {c : Connection σ} (hc : c.inTransaction = false)
    (hwork : ∃ outcome steps c', Leads work.run c.opened outcome steps c' ∧
      c'.inTransaction = true ∧ inside outcome steps) :
    ∃ outcome steps c', Leads (Session.transaction work).run c outcome steps c' ∧
      Transacts c inside outcome steps := by
  -- refused, no work is done
  cases hbegin : (Server.bound .begin c.server).1 with
  | some failure =>
    refine ⟨_, _, _, ⟨Session.exec_transaction_of_refused hc hbegin, rfl, .single ?_⟩,
      .refused hbegin⟩
    exact Prod.ext hbegin rfl
  | none =>
    obtain ⟨outcome, steps, c', hrun, hc', hinside⟩ := hwork
    cases outcome with
    | ok result =>
      exact ⟨_, _, _, hrun.between_boundaries hbegin .commit
        (Session.exec_transaction_of_ok hc hbegin hrun.exec hc'), .committed _ hbegin hinside⟩
    | error error =>
      exact ⟨_, _, _, hrun.between_boundaries hbegin .rollback
        (Session.exec_transaction_of_error hc hbegin hrun.exec hc'), .rolledBack _ hbegin hinside⟩

end PgGrants
