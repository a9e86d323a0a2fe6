/-
Declared default privileges: what one role shall hold on the objects that an owner will create, in
one schema or in any.
-/
import PgGrants.Declaration.Fields
import PgGrants.Identifier

set_option autoImplicit false

namespace PgGrants

/-- Default privileges as they were asked for. -/
structure DefaultsRequest where
  role : Value
  database : Value
  owner : Value
  kind : ObjectKind
  privileges : TextSet
  schema : Value
  grantOption : Flag

/-- Default privileges that keep the rules. -/
structure DeclaredDefaults where
  role : String
  database : String
  owner : String
  kind : ObjectKind
  /-- The privileges to hold, none to hold nothing. -/
  privileges : TextSet
  /-- The schema, any schema when there is none. -/
  schema : Option String
  grantOption : Flag

namespace DefaultsRequest

/-- The request that fields make. -/
def ofFields (given : Fields) : Except Error DefaultsRequest := do
  let (kind, privileges) ← Declaration.kindAndPrivileges given
  return {
    role := given.given "role"
    database := given.given "database"
    owner := given.given "owner"
    kind := kind
    privileges := privileges
    schema := given.get "schema" .null
    grantOption := given.flag "with_grant_option" }

/-- The request made directly with fields. -/
def ofArguments (given : Value) : Except Error DefaultsRequest := do
  ofFields (← (Declaration.defaultPrivileges.arguments given).mapError .mistyped)

/-- The schema of the request, if it names one. -/
def checkSchema (r : DefaultsRequest) : Except Invalid (Option String) := do
  Declaration.ensure (!(r.kind == .schema && r.schema.isTrue)) .schemaOnSchemas
  match r.schema with
  | .null => return none
  | given => return some (← Declaration.nameIn given "schema")

/-- The default privileges, when the request keeps the rules, or the first complaint. -/
def check (r : DefaultsRequest) : Except Invalid DeclaredDefaults := do
  let role ← Declaration.nameIn r.role "role"
  let database ← Declaration.nameIn r.database "database"
  let owner ← Declaration.nameIn r.owner "owner"
  Declaration.ensure r.kind.hasDefaultPrivileges (.noDefaultPrivileges r.kind)
  let schema ← r.checkSchema
  Declaration.ensure (!(r.grantOption.isSet && Role.isPublic role))
    (.grantOptionForPublic "with_grant_option")
  Privilege.check r.kind r.privileges
  return {
    role := role
    database := database
    owner := owner
    kind := r.kind
    privileges := r.privileges
    schema := schema
    grantOption := r.grantOption }

end DefaultsRequest

namespace DeclaredDefaults

/-- The default privileges that a payload declares. -/
def ofPayload (payload : Value) : Except Error DeclaredDefaults := do
  let given ← (Declaration.defaultPrivileges.fields payload).mapError .invalid
  (← DefaultsRequest.ofFields given).check.mapError .invalid

/-- The identifier of the default privileges. -/
def id (declared : DeclaredDefaults) : String :=
  Identifier.defaultPrivileges declared.role declared.database (declared.schema.getD "")
    declared.owner declared.kind

end DeclaredDefaults

end PgGrants
