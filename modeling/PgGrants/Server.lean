/-
The other end of a connection. A server is anything that lets connections be opened and answers
commands and the boundaries of transactions, from a state of its own; what follows is proved and run
against every such server. The simplest one is a script, which gives the next reply whatever it is
asked.
-/
import PgGrants.Sql.Query
import PgGrants.Sql.Statement

set_option autoImplicit false

namespace PgGrants

/-- What is sent over a connection. -/
inductive Command where
  | query (query : Query)
  | statement (statement : Statement)
  /-- Makes `member` a member of `role` for the time being. -/
  | grantRole (role member : Option String)
  /-- Ends the membership of `member` in `role`. -/
  | revokeRole (role member : Option String)
  /-- A text that the caller wrote. -/
  | text (sql : String)

/-- The text that is sent. -/
def Command.sql : Command → Except Unwritable String
  | .query question => question.sql
  | .statement change => change.sql
  | .grantRole role member => do
    return "GRANT " ++ (← Sql.nameOf role) ++ " TO " ++ (← Sql.nameOf member)
  | .revokeRole role member => do
    return "REVOKE " ++ (← Sql.nameOf role) ++ " FROM " ++ (← Sql.nameOf member)
  | .text sql => .ok sql

/-- The boundaries of a transaction and of the savepoints in it. -/
inductive Boundary where
  | begin
  | commit
  | rollback
  | savepoint
  | release
  | rollbackTo
deriving DecidableEq, Repr

/-- The boundary as a log shows it. -/
def Boundary.text : Boundary → String
  | .begin => "BEGIN"
  | .commit => "COMMIT"
  | .rollback => "ROLLBACK"
  | .savepoint => "SAVEPOINT"
  | .release => "RELEASE SAVEPOINT"
  | .rollbackTo => "ROLLBACK TO SAVEPOINT"

/-- How a server does not do what it is told. -/
inductive Failure where
  /-- The server answers with an error. -/
  | refused (text : String)
  /-- The connection breaks. -/
  | broken (text : String)
deriving DecidableEq, Repr

/-- The answer to a command. -/
inductive Reply where
  | rows (rows : List (List Value))
  | failed (failure : Failure)

/-- A state that answers. -/
class Server (σ : Type) where
  /-- What opening a connection to a database fails with, if it fails, and the state after it. -/
  connect : String → σ → Option Failure × σ
  /-- The reply to a command, and the state after it. -/
  answer : Command → σ → Reply × σ
  /-- What a boundary fails with, if it fails, and the state after it. -/
  bound : Boundary → σ → Option Failure × σ

/-! ## Scripts -/

/-- The replies that will be given, first one first. -/
structure Script where
  replies : List Reply

namespace Script

/-- The next reply; no rows when the script has ended. -/
def next (script : Script) : Reply × Script :=
  match script.replies with
  | [] => (.rows [], script)
  | reply :: rest => (reply, ⟨rest⟩)

/-- A script says nothing about connections and boundaries, and they succeed. -/
instance : Server Script where
  connect _ script := (none, script)
  answer _ script := script.next
  bound _ script := (none, script)

end Script

end PgGrants
