/-
Default privileges: bringing them about, reading them back, and taking them away.
-/
import PgGrants.Converge.Requirement

set_option autoImplicit false

namespace PgGrants

/-- The default privileges that a role was found to have. -/
structure DefaultsReport where
  role : String
  database : String
  owner : String
  kind : ObjectKind
  privileges : TextSet
  schema : Option String
  grantOption : Bool

namespace DeclaredDefaults

variable {σ : Type} [Server σ]

/-- Complains when the server cannot have such default privileges. -/
def needFeatures (declared : DeclaredDefaults) : Call σ Unit := do
  Call.needPrivileges declared.kind declared.privileges "Managing default privileges"
  if declared.kind == .schema then
    Call.needFeature .privilegesOnSchemas "Default privileges on schemas"

/-- Complains when the role, the owner or the schema does not exist. -/
def needTarget (declared : DeclaredDefaults) : Session σ Unit := do
  Session.needRole declared.role
  Session.needRole declared.owner
  match declared.schema with
  | some schema => Session.needSchema schema
  | none => return

/-- What the role has by the owner's default privileges. -/
def readHolding (declared : DeclaredDefaults) : Session σ Holding :=
  return (← Session.defaultPolicy declared.owner declared.kind declared.schema).holdingOf
    declared.role

/-- The state to report. -/
def state (declared : DeclaredDefaults) (h : Holding) : DefaultsReport where
  role := declared.role
  database := declared.database
  owner := declared.owner
  kind := declared.kind
  privileges := h.privileges
  schema := declared.schema
  grantOption := h.isGrantable

/-- Sends the statements with the rights of the owner. -/
def performAsOwner (declared : DeclaredDefaults) (statements : List Statement) :
    Session σ Unit := do
  let owners ← Session.namedOwners [declared.owner]
  Session.performAs owners statements

end DeclaredDefaults

/-- The identifier of the default privileges. -/
def DefaultsReport.id (state : DefaultsReport) : String :=
  Identifier.defaultPrivileges state.role state.database (state.schema.getD "") state.owner
    state.kind

namespace DefaultsRequest

variable {σ : Type} [Server σ]

/-- What the request declares, when it keeps the rules and the server can have what it asks for. -/
def accept (r : DefaultsRequest) : Call σ DeclaredDefaults := do
  let declared ← Call.ofOutcome (r.check.mapError .invalid)
  declared.needFeatures
  return declared

/-- Reads the default privileges; nothing when the role, the owner or the schema does not exist. -/
def read (r : DefaultsRequest) : Call σ (Option DefaultsReport) := do
  let declared ← r.accept
  if ← Call.hasDatabase declared.database then
    Call.inDatabase (some declared.database) do
      match ← Session.unlessMissing declared.needTarget with
      | none => return none
      | some _ => return some (declared.state (← declared.readHolding))
  else return none

/-- Brings the default privileges about and reads them back. Nothing is sent when they are as
declared. -/
def sync (r : DefaultsRequest) : Call σ (Option DefaultsReport) := do
  let declared ← r.accept
  Call.needDatabase declared.database
  Call.inDatabase (some declared.database) do
    declared.needTarget
    let h ← declared.readHolding
    let caps ← Session.capabilities
    unless h.isAsDeclared declared.kind declared.privileges declared.grantOption (some caps) do
      declared.performAsOwner declared.plan
  r.read

/-- Takes away everything that the role gets, if there is anything to take away. -/
def revoke (r : DefaultsRequest) : Call σ Unit := do
  let declared ← r.accept
  if ← Call.hasDatabase declared.database then
    Call.inDatabase (some declared.database) do
      match ← Session.unlessMissing declared.needTarget with
      | none => return
      | some _ => declared.performAsOwner declared.revokePlan

end DefaultsRequest

end PgGrants
