/-
Work on one connection. A session sends commands and gets rows or an error; it keeps the log of what
happened, whether a transaction is open, and what the server is known to be capable of. The first
command opens a transaction when none is open.

A transaction commits when its work succeeds and rolls back when it fails, and a savepoint does the
same inside a transaction; both hand the failure on. The savepoint is given in two halves as well,
for work that has something to say about its own failure.
-/
import PgGrants.Error
import PgGrants.Event

set_option autoImplicit false

namespace PgGrants

/-- One connection to a server. -/
structure Connection (σ : Type) where
  server : σ
  /-- What happened, first things first. -/
  log : List Event
  inTransaction : Bool
  /-- What the server can do, once that is known. -/
  capabilities : Option Capabilities

/-- Work on a connection that cannot fail. -/
abbrev Talk (σ : Type) := StateM (Connection σ)

/-- Work on a connection. -/
abbrev Session (σ : Type) := ExceptT Error (Talk σ)

/-- The failure as an error that the caller meets. -/
def Failure.error : Failure → Error
  | .refused text => .refused text
  | .broken text => .broken text

namespace Session

variable {σ α : Type}

/-- The outcome of the work, as a value. -/
def attempt (work : Session σ α) : Session σ (Except Error α) := ExceptT.lift work.run

/-- Work that has the outcome and does nothing else. -/
def ofOutcome (outcome : Except Error α) : Session σ α := ExceptT.mk (pure outcome)

/-- Puts an event into the log. -/
def record (event : Event) : Session σ Unit :=
  modify fun c => { c with log := c.log ++ [event] }

/-- A transaction is open. -/
def isInTransaction : Session σ Bool := return (← get).inTransaction

/-- Notes whether a transaction is open. -/
def setInTransaction (inTransaction : Bool) : Session σ Unit :=
  modify fun c => { c with inTransaction := inTransaction }

variable [Server σ]

/-- Sends a boundary. -/
def boundary (mark : Boundary) : Session σ Unit := do
  record (.boundary mark)
  let c ← get
  let (failure, server) := Server.bound mark c.server
  set { c with server := server }
  match failure with
  | some failure => throw failure.error
  | none => return

/-- Opens a transaction when none is open. -/
def ensureTransaction : Session σ Unit := do
  unless ← isInTransaction do
    boundary .begin
    setInTransaction true

/-- Sends a command and gives the rows of the reply. -/
def send (command : Command) : Session σ (List (List Value)) := do
  match command.sql with
  -- What cannot be written is not sent, and opens no transaction.
  | .error fault => throw (.unwritable fault)
  | .ok sql =>
    ensureTransaction
    record (.sent command sql)
    let c ← get
    let (reply, server) := Server.answer command c.server
    set { c with server := server }
    match reply with
    | .rows rows => return rows
    | .failed failure => throw failure.error

/-- Sends a question and gives the rows of the reply. -/
def ask (query : Query) : Session σ (List (List Value)) := send (.query query)

/-! ## Transactions and savepoints -/

/-- Ends the transaction, if one is open, by the given boundary. -/
def endTransaction (mark : Boundary) : Session σ Unit := do
  if ← isInTransaction then
    setInTransaction false
    boundary mark

/-- Does the work in a transaction, which is opened when none is open yet; it is committed when the
work succeeds, and rolled back when the work fails. -/
def transaction (work : Session σ α) : Session σ α := do
  let outcome ← attempt (do ensureTransaction; work)
  match outcome with
  | .ok result =>
    endTransaction .commit
    return result
  | .error error =>
    endTransaction .rollback
    throw error

/-- Sets a savepoint, in a transaction that is opened when none is open yet. -/
def enterSavepoint : Session σ Unit := do
  ensureTransaction
  boundary .savepoint

/-- Leaves a savepoint with the outcome of the work in it: it is released after a success, and
rolled back to after a failure. A release that fails is a failure of its own, and nothing is sent
after it. -/
def leaveSavepoint (outcome : Except Error α) : Session σ α :=
  match outcome with
  | .ok result => do
    boundary .release
    return result
  | .error error => do
    boundary .rollbackTo
    throw error

/-- Does the work inside a savepoint. -/
def savepoint (work : Session σ α) : Session σ α := do
  enterSavepoint
  leaveSavepoint (← attempt work)

end Session

end PgGrants
