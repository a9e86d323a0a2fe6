/-
Schema policies: handing a schema to its declared owner and bringing its policy about, reading the
policy back, and taking it away. Owners hold every privilege anyway, so what an owner holds is never
a matter of the policy.
-/
import PgGrants.Converge.Requirement
import PgGrants.Declaration.SchemaPolicy

set_option autoImplicit false

namespace PgGrants

/-- The policy that a schema was found to have, without its owner. -/
structure PolicyReport where
  database : String
  schema : String
  /-- The owner, unless the server gives none. -/
  owner : Option String
  policy : Policy

namespace PolicyReport

/-- The identifier of the schema policy. -/
def id (state : PolicyReport) : String := Identifier.schemaPolicy state.database state.schema

/-- The policy as rules, in ascending order of the role keys. -/
def rules (state : PolicyReport) : List SchemaRule :=
  state.policy.holdings.map SchemaRule.ofHolding

end PolicyReport

namespace DeclaredPolicy

variable {σ : Type} [Server σ]

/-- The owner of the schema and its policy, when the schema exists. -/
def readRow? (declared : DeclaredPolicy) : Session σ (Option AclRow) :=
  return (← Session.aclRows .schema none [declared.schema]).head?

/-- The statements that hand the schema over. -/
def ownerPlan (declared : DeclaredPolicy) (row : AclRow) : List Statement :=
  OwnerChange.plan declared.schema declared.owner row.owner

/-- The owner, and the one to come when there is another. -/
def owners (declared : DeclaredPolicy) (row : AclRow) : List (Option String) :=
  if (declared.ownerPlan row).isEmpty then [row.owner] else [row.owner, declared.owner]

/-- What changes from the previous policy, by default the one that is there, to the declared one. -/
def diff (declared : DeclaredPolicy) (row : AclRow) (previous : Option Policy) : PolicyDelta :=
  let owners := (declared.owners row).map Role.orPublic
  .ofPolicies ((previous.getD row.policy).eraseAll owners) (declared.policy.eraseAll owners)

/-- What changes when nothing of the declared policy is left. -/
def revokeDiff (declared : DeclaredPolicy) (row : AclRow) : PolicyDelta :=
  .ofPolicies (declared.policy.eraseAll [Role.orPublic row.owner]) ∅

/-- Sends the statements with the rights of the owners, when there is any statement to send. -/
def performAsOwners (owners : List (Option String)) (statements : List Statement) :
    Session σ Unit := do
  unless statements.isEmpty do
    let resolved ← Session.namedOwners owners
    Session.performAs resolved statements

/-- The state to report. -/
def state (declared : DeclaredPolicy) (row : AclRow) : PolicyReport where
  database := declared.database
  schema := declared.schema
  owner := row.owner
  policy := row.policy.eraseAll [Role.orPublic row.owner]

end DeclaredPolicy

namespace PolicyRequest

variable {σ : Type} [Server σ]

/-- What the request declares, when it keeps the rules and the server knows privileges. -/
def accept (r : PolicyRequest) : Call σ DeclaredPolicy := do
  let declared ← Call.ofOutcome (r.check.mapError .invalid)
  Call.needFeature .privileges "Managing schema policies"
  return declared

/-- Reads the policy; nothing when the schema does not exist. -/
def read (r : PolicyRequest) : Call σ (Option PolicyReport) := do
  let declared ← r.accept
  if ← Call.hasDatabase declared.database then
    let row ← Call.inDatabase (some declared.database) declared.readRow?
    return row.map declared.state
  else return none

/-- Brings the owner and the policy about and reads them back. The previous policy is by default the
one that is there. -/
def sync (r : PolicyRequest) (previous : Option Policy) :
    Call σ (Option PolicyReport) := do
  let declared ← r.accept
  Call.needDatabase declared.database
  Call.inDatabase (some declared.database) do
    match ← declared.readRow? with
    | none => throw (.notFound "schema" declared.schema)
    | some row =>
      -- There is a statement about the owner only when an owner is declared.
      unless (declared.ownerPlan row).isEmpty do Session.needRole (declared.owner.getD "")
      let changes ← (declared.diff row previous).plan .schema declared.schema Session.hasRole
      DeclaredPolicy.performAsOwners (declared.owners row) (declared.ownerPlan row ++ changes)
  r.read

/-- Takes the declared policy away, if there is anything to take away. -/
def revoke (r : PolicyRequest) : Call σ Unit := do
  let declared ← r.accept
  if ← Call.hasDatabase declared.database then
    Call.inDatabase (some declared.database) do
      match ← declared.readRow? with
      | none => return
      | some row =>
        let changes ← (declared.revokeDiff row).plan .schema declared.schema Session.hasRole
        DeclaredPolicy.performAsOwners [row.owner] changes

end PolicyRequest

end PgGrants
