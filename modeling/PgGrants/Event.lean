/-
What happens when a program talks to servers: connections, transactions, commands and locks, in
their order. All of it can be seen from outside, but for the start of work with temporary
memberships.
-/
import PgGrants.Scope
import PgGrants.Server

set_option autoImplicit false

namespace PgGrants

/-- How a lock is held: with others who read, or alone. -/
inductive Access where
  | read
  | write
deriving DecidableEq, Repr

/-- The access as a log shows it. -/
def Access.text : Access → String
  | .read => "READ"
  | .write => "WRITE"

/-- Something that happened. -/
inductive Event where
  /-- The means to connect to another database were made. -/
  | engine (database : String)
  /-- The means to connect to a database were given up. -/
  | dispose (database : String)
  /-- A connection to a database was asked for. -/
  | connect (database : String)
  /-- The connection that was opened last is closed. -/
  | close
  | locked (access : Access)
  | unlocked (access : Access)
  | boundary (mark : Boundary)
  /-- A command was sent, with this text. -/
  | sent (command : Command) (sql : String)
  /-- Work starts for which these memberships were changed. -/
  | started (scope : Scope)

namespace Event

/-- The event as a log shows it, if it can be seen. -/
def text? : Event → Option String
  | .engine name => some ("ENGINE " ++ name)
  | .dispose name => some ("DISPOSE " ++ name)
  | .connect name => some ("CONNECT " ++ name)
  | .close => some "CLOSE"
  | .locked access => some ("LOCK " ++ access.text)
  | .unlocked access => some ("UNLOCK " ++ access.text)
  | .boundary mark => some mark.text
  | .sent _ sql => some sql
  | .started _ => none

/-- The memberships with which work starts. -/
def scope? : Event → Option Scope
  | .started scope => some scope
  | _ => none

end Event

end PgGrants
