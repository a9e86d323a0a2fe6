/-
Declared grants: what one role shall hold on a database, on a schema, or on objects of a schema. A
request is a grant as it was asked for, with its tokens and objects in normal form; only a grant
that keeps all the rules is declared, and only declared grants are planned.
-/
import PgGrants.Declaration.Fields
import PgGrants.Identifier

set_option autoImplicit false

namespace PgGrants

/-- The objects that a payload value names: a text is the name of one, anything else is gone
through. Objects that cannot be brought into an order are refused. -/
def Declaration.objectsOf (given : Value) : Except Mistyped Members := do
  match given with
  | .text name => return .texts (.singleton name)
  | _ =>
    let objects ← Members.ofValue given
    objects.checkOrder
    return objects

/-- A grant as it was asked for. -/
structure GrantRequest where
  role : Value
  database : Value
  kind : ObjectKind
  privileges : TextSet
  schema : Value
  objects : Members
  grantOption : Flag

/-- A grant that keeps the rules. -/
structure DeclaredGrant where
  role : String
  database : String
  kind : ObjectKind
  /-- The privileges to hold, none to hold nothing. -/
  privileges : TextSet
  /-- The schema as it was given; where the kind has none it is some value that counts as false. -/
  schema : Value
  /-- The objects, none for every object of the kind in the schema. -/
  objects : TextSet
  grantOption : Flag

namespace GrantRequest

/-- The request that fields make. -/
def ofFields (given : Fields) : Except Error GrantRequest := do
  let (kind, privileges) ← Declaration.kindAndPrivileges given
  let objects ← (Declaration.objectsOf (given.get "objects" (.list []))).mapError .mistyped
  return {
    role := given.given "role"
    database := given.given "database"
    kind := kind
    privileges := privileges
    schema := given.get "schema" .null
    objects := objects
    grantOption := given.flag "with_grant_option" }

/-- The request made directly with fields. -/
def ofArguments (given : Value) : Except Error GrantRequest := do
  ofFields (← (Declaration.grant.arguments given).mapError .mistyped)

/-- Complains about a schema where the kind has none, and about a missing one where it has. -/
def checkSchema (r : GrantRequest) : Except Invalid Unit :=
  if r.kind.inSchema || r.kind == .schema then do
    let _ ← Declaration.nameIn r.schema
      ("schema (required for object type " ++ r.kind.name ++ ")")
  else Declaration.ensure (!r.schema.isTrue) (.schemaForbidden r.kind)

/-- Complains about objects where there can be none, and about missing ones where there must be
some. -/
def checkObjects (r : GrantRequest) : Except Invalid Unit :=
  if r.kind.isContainer then Declaration.ensure r.objects.isEmpty (.objectsForbidden r.kind)
  else Declaration.ensure (r.kind.isBulk || !r.objects.isEmpty) (.objectsRequired r.kind)

/-- The names of the objects, when every one is a name. -/
def checkNames (r : GrantRequest) : Except Invalid TextSet :=
  match r.objects with
  | .texts names => if names.contains "" then .error (.emptyName "object name") else .ok names
  | .mixed _ => .error (.emptyName "object name")

/-- The grant, when the request keeps the rules, or the first complaint. -/
def check (r : GrantRequest) : Except Invalid DeclaredGrant := do
  let role ← Declaration.nameIn r.role "role"
  let database ← Declaration.nameIn r.database "database"
  r.checkSchema
  r.checkObjects
  let objects ← r.checkNames
  Declaration.ensure (!(r.grantOption.isSet && Role.isPublic role))
    (.grantOptionForPublic "with_grant_option")
  Privilege.check r.kind r.privileges
  return {
    role := role
    database := database
    kind := r.kind
    privileges := r.privileges
    schema := r.schema
    objects := objects
    grantOption := r.grantOption }

end GrantRequest

namespace DeclaredGrant

/-- The grant that a payload declares. -/
def ofPayload (payload : Value) : Except Error DeclaredGrant := do
  let given ← (Declaration.grant.fields payload).mapError .invalid
  (← GrantRequest.ofFields given).check.mapError .invalid

/-- The name of the schema, if it has one. -/
def schemaName (declared : DeclaredGrant) : Option String := declared.schema.text?

/-- The schema that statements and questions name: that of the objects, for kinds inside schemas. -/
def targetSchema (declared : DeclaredGrant) : Option String :=
  if declared.kind.inSchema then declared.schemaName else none

/-- The objects whose access control lists the grant is about, none for all in the schema. -/
def targets (declared : DeclaredGrant) : List String :=
  match declared.kind with
  | .database => [declared.database]
  | .schema => declared.schemaName.toList
  | _ => declared.objects.toList

/-- The identifier of the grant. -/
def id (declared : DeclaredGrant) : String :=
  Identifier.grant declared.role declared.database (declared.schemaName.getD "") declared.kind
    declared.objects.toList

end DeclaredGrant

end PgGrants
