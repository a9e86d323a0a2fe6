/-
Grants on a database, a schema or objects of a schema: bringing them about, reading them back, and
taking them away. What all databases share is changed under the lock.
-/
import PgGrants.Converge.Requirement

set_option autoImplicit false

namespace PgGrants

/-- What a role was found to hold. When objects differ, it is what the role holds on the first
object that is not as declared. -/
structure GrantReport where
  role : String
  database : String
  kind : ObjectKind
  privileges : TextSet
  /-- The schema as it was given. -/
  schema : Value
  objects : TextSet
  grantOption : Flag

namespace DeclaredGrant

variable {σ : Type} [Server σ]

/-- The grant is about something that all databases share. -/
def isShared (declared : DeclaredGrant) : Bool := declared.kind == .database

/-- The targets with their access control lists; complains when the schema or a target is missing.
-/
def targetRows (declared : DeclaredGrant) : Session σ (List AclRow) := do
  if declared.kind.inSchema then Session.needSchema (declared.schemaName.getD "")
  let rows ← Session.aclRows declared.kind declared.targetSchema (declared.targets.map some)
  let missing := (TextSet.ofList declared.targets).filter fun name =>
    !rows.any fun row => row.name == some name
  unless missing.isEmpty do throw (.notFound declared.kind.phrase (Invalid.commaList missing))
  return rows

/-- The roles whose rights it takes to change the targets: the owners of the targets and of their
schema. -/
def owners (declared : DeclaredGrant) (rows : List AclRow) : Session σ TextSet := do
  let ofRows := rows.map AclRow.owner
  if declared.kind.inSchema then
    let ofSchema ← Session.ownersOf .schema none [declared.schemaName]
    Session.namedOwners (ofRows ++ ofSchema).eraseDups
  else Session.namedOwners ofRows.eraseDups

/-- What the role holds on the target is as declared. -/
def isMet (declared : DeclaredGrant) (caps : Capabilities) (row : AclRow) : Bool :=
  (row.policy.holdingOf declared.role).isAsDeclared declared.kind declared.privileges
    declared.grantOption (some caps)

/-- The state to report: as declared, unless some target is not as declared. -/
def state (declared : DeclaredGrant) (caps : Capabilities) (rows : List AclRow) : GrantReport :=
  let (privileges, grantOption) :=
    match rows.find? fun row => !declared.isMet caps row with
    | none => (declared.privileges, declared.grantOption)
    | some row =>
      let h := row.policy.holdingOf declared.role
      (h.privileges, Flag.ofBool h.isGrantable)
  { role := declared.role
    database := declared.database
    kind := declared.kind
    privileges := privileges
    schema := declared.schema
    objects := declared.objects
    grantOption := grantOption }

/-- Reads the targets when the role and all of them exist. -/
def targetRows? (declared : DeclaredGrant) : Session σ (Option (List AclRow)) := do
  if ← Session.hasRole declared.role then Session.unlessMissing declared.targetRows else return none

end DeclaredGrant

/-- The identifier of the grant. -/
def GrantReport.id (state : GrantReport) : String :=
  Identifier.grant state.role state.database (state.schema.text?.getD "") state.kind
    state.objects.toList

namespace GrantRequest

variable {σ : Type} [Server σ]

/-- The operation that a missing feature is complained about with. -/
def operation : String := "Managing grants"

/-- Reads what the role holds on the targets; nothing when the role or a target does not exist. -/
def read (r : GrantRequest) : Call σ (Option GrantReport) := do
  let declared ← Call.ofOutcome (r.check.mapError .invalid)
  Call.needFeature .privileges operation
  Call.holding declared.isShared .read do
    if ← Call.hasDatabase declared.database then
      Call.inDatabase (some declared.database) do
        match ← declared.targetRows? with
        | none => return none
        | some rows => return some (declared.state (← Session.capabilities) rows)
    else return none

/-- Brings the grant about and reads it back. Nothing is sent when every target is as declared. -/
def sync (r : GrantRequest) : Call σ (Option GrantReport) := do
  let declared ← Call.ofOutcome (r.check.mapError .invalid)
  Call.needPrivileges declared.kind declared.privileges operation
  Call.holding declared.isShared .write do
    Call.needDatabase declared.database
    Call.inDatabase (some declared.database) do
      Session.needRole declared.role
      let rows ← declared.targetRows
      let caps ← Session.capabilities
      unless rows.all (declared.isMet caps) do
        let owners ← declared.owners rows
        Session.performAs owners declared.plan
  r.read

/-- Takes away everything that the role holds on the targets, if there is anything to take away. -/
def revoke (r : GrantRequest) : Call σ Unit := do
  let declared ← Call.ofOutcome (r.check.mapError .invalid)
  Call.needFeature .privileges operation
  Call.holding declared.isShared .write do
    if ← Call.hasDatabase declared.database then
      Call.inDatabase (some declared.database) do
        match ← declared.targetRows? with
        | none => return
        | some rows =>
          let owners ← declared.owners rows
          Session.performAs owners declared.revokePlan

end GrantRequest

end PgGrants
