/-
A client of one server. It connects to the databases of the server, one connection at a time, and
keeps what outlives a connection: what the server can do, found out once, and one engine for each
other database, made when it is first needed. The lock on what all databases share is taken through
it.
-/
import PgGrants.Catalog

set_option autoImplicit false

namespace PgGrants

/-- What a client is made with. -/
structure ClientConfig where
  /-- The database to which the client itself connects. -/
  database : String
  /-- The version that the server is expected to have; with it, the server is not asked. -/
  expectedVersion : Option String
  /-- The kind of server. -/
  dialect : String
  /-- The library that makes connections. -/
  driver : String
deriving DecidableEq, Repr

namespace ClientConfig

/-- The libraries whose way of quoting is known. -/
def quotingDrivers : List String := ["psycopg2", "psycopg"]

/-- Complains about a kind of server or a library that is not known. -/
def check (config : ClientConfig) : Except Error Unit :=
  if config.dialect ≠ "postgresql" then .error (.unknownDialect config.dialect)
  else if quotingDrivers.contains config.driver then .ok ()
  else .error (.unknownDriver config.driver)

end ClientConfig

/-- A client, with the server at the other end and the log of what happened. -/
structure Client (σ : Type) where
  config : ClientConfig
  server : σ
  /-- What happened, first things first. -/
  log : List Event
  /-- What the server can do, once that is known. -/
  capabilities : Option Capabilities
  /-- The other databases that have an engine, in the order in which the engines were made. -/
  engines : List String

/-- What a client does for its caller. -/
abbrev Call (σ : Type) := ExceptT Error (StateM (Client σ))

/-- The means to connect to a database. -/
inductive Engine where
  /-- The client's own. -/
  | own
  /-- The one at this place among those made for other databases. -/
  | other (place : Nat)
deriving DecidableEq, Repr

namespace Client

variable {σ : Type}

/-- A client that has not done anything yet. -/
def new (config : ClientConfig) (server : σ) : Client σ where
  config := config
  server := server
  log := []
  capabilities := none
  engines := []

end Client

namespace Call

variable {σ α : Type}

/-- The outcome of the work, as a value. -/
def attempt (work : Call σ α) : Call σ (Except Error α) := ExceptT.lift work.run

/-- Work that has the outcome and does nothing else. -/
def ofOutcome (outcome : Except Error α) : Call σ α := ExceptT.mk (pure outcome)

/-- Puts an event into the log. -/
def record (event : Event) : Call σ Unit :=
  modify fun c => { c with log := c.log ++ [event] }

/-- Does the work and notes the event after it, also when the work fails. -/
def followedBy (last : Event) (work : Call σ α) : Call σ α := do
  let outcome ← attempt work
  record last
  ofOutcome outcome

/-- Does the work between two events; the second happens also when the work fails. -/
def between (first last : Event) (work : Call σ α) : Call σ α := do
  record first
  followedBy last work

/-- Does the work holding the lock, when what it is about is shared by all databases. -/
def holding (shared : Bool) (access : Access) (work : Call σ α) : Call σ α :=
  if shared then between (.locked access) (.unlocked access) work else work

/-! ## Engines -/

/-- The engine for a database, the client's own when none is named; it is made when there is none.
-/
def engine (database : Option String) : Call σ Engine := do
  let c ← get
  match database with
  | none => return .own
  | some name =>
    if name = c.config.database then return .own
    match c.engines.idxOf? name with
    | some place => return .other place
    | none =>
      record (.engine name)
      modify fun c => { c with engines := c.engines ++ [name] }
      return .other c.engines.length

/-- Gives the engines for other databases up, in the order in which they were made. -/
def dispose : Call σ Unit :=
  modify fun c => { c with log := c.log ++ c.engines.map Event.dispose, engines := [] }

/-! ## Connections -/

variable [Server σ]

/-- Opens a connection to a database. -/
def openConnection (database : String) : Call σ Unit := do
  record (.connect database)
  let c ← get
  let (failure, server) := Server.connect database c.server
  set { c with server := server }
  match failure with
  | some failure => throw failure.error
  | none => return

/-- Does the work on a new connection, with what is known of the server. -/
def runSession (known : Option Capabilities) (work : Session σ α) : Call σ α := do
  let c ← get
  let (outcome, connection) := work.run.run {
    server := c.server, log := c.log, inTransaction := false, capabilities := known }
  set { c with server := connection.server, log := connection.log }
  ofOutcome outcome

/-- Opens a connection to a database, does the work on it and closes it. A connection that could not
be opened is not closed either. -/
def withConnection (database : String) (known : Option Capabilities) (work : Session σ α) :
    Call σ α := do
  openConnection database
  let c ← get
  followedBy .close do
    ofOutcome c.config.check
    runSession known work

/-- What the server can do: by the version that it is expected to have, or else by what it says
itself, once. -/
def capabilities : Call σ Capabilities := do
  let c ← get
  match c.capabilities with
  | some caps => return caps
  | none =>
    let caps ←
      match c.config.expectedVersion with
      | some text => do pure ⟨← ofOutcome (Version.ofText (.text text))⟩
      | none => withConnection c.config.database none Session.fingerprint
    modify fun c => { c with capabilities := some caps }
    return caps

/-- Does the work on a connection to a database, the client's own when none is named. -/
def connect (database : Option String) (work : Session σ α) : Call σ α := do
  -- The version comes first: it can be found out on the client's own engine.
  let caps ← capabilities
  let _ ← engine database
  let c ← get
  withConnection (database.getD c.config.database) (some caps) work

end Call

end PgGrants
