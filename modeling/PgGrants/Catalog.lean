/-
What the server says about roles, objects and memberships. Each look-up puts one question and makes
a value of the rows; a question whose text depends on the version first finds the version out, once
for the connection. The role PUBLIC exists everywhere and is never looked up. A null in place of a
name is no name.
-/
import PgGrants.Payload
import PgGrants.Session

set_option autoImplicit false

namespace PgGrants

/-- An object with its owner and what is granted on it. -/
structure AclRow where
  name : Option String
  owner : Option String
  policy : Policy

/-- The membership of one role in another. -/
structure Standing where
  isMember : Bool
  adminOption : Bool
deriving DecidableEq, Repr

namespace Catalog

/-! ## Rows and cells -/

/-- The first cell of the first row. -/
def firstCell (rows : List (List Value)) : Except Error Value :=
  match rows with
  | (cell :: _) :: _ => .ok cell
  | [] :: _ => .error .absentCell
  | [] => .error .absentRow

/-- The three cells of a row. -/
def threeCells : List Value → Except Error (Value × Value × Value)
  | [a, b, c] => .ok (a, b, c)
  | row => .error (.rowWidth 3 row.length)

/-- The access control list in a cell; one that counts as false is empty. -/
def cellAcl (cell : Value) : Except Error (List AclItem) :=
  if cell.isTrue then
    match cell.iterate with
    | .error cause => .error (.mistyped cause)
    | .ok items => items.mapM AclItem.ofValue
  else .ok []

/-- The policy in a cell. -/
def cellPolicy (cell : Value) : Except Error Policy := return .ofAcl (← cellAcl cell)

/-- The identity in a row of the catalog of roles. -/
def rowRole (row : List Value) : Except Error ServerRole := do
  let (name, oid, isSuperuser) ← threeCells row
  return ⟨name.name?, ← oid.toInteger, isSuperuser.isTrue⟩

/-- The object in a row. -/
def rowObject (row : List Value) : Except Error AclRow := do
  let (name, owner, acl) ← threeCells row
  return ⟨name.name?, owner.name?, ← cellPolicy acl⟩

end Catalog

namespace Session

open Catalog

variable {σ : Type} [Server σ]

/-! ## The server -/

/-- The version, as the number that the server reports. -/
def reportedVersion : Session σ Int := do
  let rows ← ask .reportedVersion
  ofOutcome (do (← firstCell rows).toInteger)

/-- What the server can do, found out anew. -/
def fingerprint : Session σ Capabilities := return ⟨.ofNumber (← reportedVersion)⟩

/-- What the server can do, found out when it is not known yet. -/
def capabilities : Session σ Capabilities := do
  match (← get).capabilities with
  | some caps => return caps
  | none =>
    let caps ← fingerprint
    modify fun c => { c with capabilities := some caps }
    return caps

/-- The connecting role. -/
def connectingRole : Session σ (Option String) := do
  let rows ← ask .connectingRole
  return (← ofOutcome (firstCell rows)).name?

/-! ## Roles -/

/-- The role with exactly this name. -/
def findRole (name : Option String) : Session σ (Option ServerRole) := do
  match (← ask (.role name)).head? with
  | none => return none
  | some row => return some (← ofOutcome (rowRole row))

/-- The role with this name, PUBLIC in any spelling being known beforehand. -/
def lookUpRole (name : Option String) : Session σ (Option ServerRole) :=
  if Role.isPublic (Role.orPublic name) then return some .publicRole else findRole name

/-- The role exists. -/
def hasRole (name : Option String) : Session σ Bool := return (← lookUpRole name).isSome

/-- Is `member` a direct member of `role`? Where memberships say whether the role can be taken on,
only those count by which it can. -/
def isMember (role member : Option String) : Session σ Flag := do
  let caps ← capabilities
  let rows ← ask (.isMember role member (caps.supports .membershipSetOption))
  return ⟨← ofOutcome (firstCell rows)⟩

/-- The membership of `role` in `grantRole`. -/
def standing (role grantRole : Option String) : Session σ Standing := do
  let cell ← ofOutcome (firstCell (← ask (.membership role grantRole)))
  return ⟨!(cell matches .null), cell.isTrue⟩

/-! ## Objects -/

/-- The owner of a database, the connected one when none is named. -/
def ownerOfDatabase (database : Option String) : Session σ (Option String) := do
  let rows ← ask (.ownerOfDatabase database)
  if rows.isEmpty then return none
  return (← ofOutcome (firstCell rows)).name?

/-- The relation of the kind is to be limited to the kind. One of the columns that tell kinds apart
is not there on every server. -/
def limitsKind (kind : ObjectKind) : Session σ Bool := do
  match kind.catalog.kindColumn with
  | none => return false
  | some column =>
    if column = "prokind" then return (← capabilities).supports .prokind else return true

/-- The question for objects of a kind. -/
def askObjects (kind : ObjectKind) (schema : Option String) (names : List (Option String)) :
    Session σ (List (List Value)) := do
  ask (.objects kind schema names (← limitsKind kind))

/-- The object exists. -/
def hasObject (kind : ObjectKind) (name schema : Option String) : Session σ Bool :=
  return !(← askObjects kind schema [name]).isEmpty

/-- The objects of a kind with their owners and policies, every one when no name is given. -/
def aclRows (kind : ObjectKind) (schema : Option String) (names : List (Option String)) :
    Session σ (List AclRow) := do
  let rows ← askObjects kind schema names
  ofOutcome (rows.mapM rowObject)

/-- What one role holds on objects of a kind, PUBLIC when no role is named. -/
def holdingsOn (kind : ObjectKind) (role schema : Option String) (names : List (Option String)) :
    Session σ (List (Option String × Holding)) :=
  return (← aclRows kind schema names).map fun row =>
    (row.name, (row.policy.lookup (Role.orPublic role)).getD (.none role))

/-- The owners of objects of a kind, each once. -/
def ownersOf (kind : ObjectKind) (schema : Option String) (names : List (Option String)) :
    Session σ (List (Option String)) :=
  return ((← aclRows kind schema names).map AclRow.owner).eraseDups

/-- The default privileges that an owner has set for a kind. -/
def defaultPolicy (owner : Option String) (kind : ObjectKind) (schema : Option String) :
    Session σ Policy := do
  let rows ← ask (.defaultAcl owner kind schema)
  if rows.isEmpty then return ∅ else ofOutcome (do cellPolicy (← firstCell rows))

/-- The role that stands for the owner of the connected database. -/
def databaseOwnerRole : String := "pg_database_owner"

/-- The owners, the database owner's role being replaced by the owner; who has no name is left out.
-/
def namedOwners : List (Option String) → Session σ TextSet
  | [] => return ∅
  | owner :: rest => do
    let resolved ← if owner = some databaseOwnerRole then ownerOfDatabase none else pure owner
    let others ← namedOwners rest
    return match resolved.filter (· ≠ "") with
    | some name => others.insert name
    | none => others

/-! ## Statements -/

/-- Sends a statement. A refusal by the server is told with what the statement was meant to do. -/
def perform (statement : Statement) : Session σ Unit := do
  -- The words are made first, so a statement that cannot be told is not sent either.
  let described : Except Unwritable (String × String) := do
    return (← statement.describe, ← statement.subject)
  match described with
  | .error fault => throw (.unwritable fault)
  | .ok (description, target) =>
    match ← attempt (send (.statement statement)) with
    | .ok _ => return
    | .error (.refused reason) => throw (.rejected statement description target reason)
    | .error error => throw error

/-- Sends statements one after the other. -/
def performAll : List Statement → Session σ Unit
  | [] => return
  | statement :: rest => do
    perform statement
    performAll rest

/-- Makes `member` a member of `role`. -/
def grantRole (role member : Option String) : Session σ Unit := do
  let _ ← send (.grantRole role member)

/-- Ends the membership of `member` in `role`. -/
def revokeRole (role member : Option String) : Session σ Unit := do
  let _ ← send (.revokeRole role member)

end Session

end PgGrants
