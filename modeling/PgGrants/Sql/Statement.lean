/-
The SQL of a statement. Names are quoted, so a statement can be told from its text; privileges are
written as they are and therefore must be known, and a name that is absent cannot be written at all.
-/
import PgGrants.AclItem
import PgGrants.Sql.Quote
import PgGrants.Statement

set_option autoImplicit false

namespace PgGrants

namespace Sql

/-- A grantee: PUBLIC in any spelling is the bare word, any other role a quoted name. -/
def grantee (role : Option String) : String :=
  if Role.isPublic (Role.orPublic role) then "PUBLIC" else identifier (Role.orPublic role)

/-- The token of a privilege is one that the server has. -/
def isKnown (token : Option String) : Bool := token.any AclItem.isPrivilege

/-- The privileges of a statement, none standing for all. -/
def privilegeList (privileges : List (Option String)) : Except Unwritable String :=
  match privileges.find? fun token => !isKnown token with
  | some token => .error (.unknownPrivilege token)
  | none => Statement.describePrivileges privileges

/-- The kind's word for all its objects. -/
def plural (kind : ObjectKind) : Except Unwritable String :=
  match kind.catalog.plural with
  | some word => .ok word
  | none => .error .absentPlural

/-- The name of the schema a text cannot do without. -/
def schemaName (schema : Option String) : Except Unwritable String :=
  match schema with
  | some name => .ok name
  | none => .error .absentName

/-- The objects of a privilege statement. -/
def targets (change : PrivilegeChange) : Except Unwritable String := do
  if change.kind.inSchema then
    if change.objects.isEmpty then
      let word ← plural change.kind
      let schema ← schemaName change.schema
      return "ALL " ++ word ++ " IN SCHEMA " ++ identifier schema
    else
      let schema ← schemaName change.schema
      let names ← change.objects.mapM (qualified schema)
      return change.kind.catalog.keyword ++ " " ++ String.intercalate ", " names
  else
    let names ← change.objects.mapM nameOf
    return change.kind.catalog.keyword ++ " " ++ String.intercalate ", " names

/-- The clause for an option, which only a grant can have. -/
def optionClause (name : String) (direction : Direction) (flag : Flag) : String :=
  if direction.isGrant && flag.isSet then " WITH " ++ name ++ " OPTION" else ""

/-- The verb, the thing and the role, in the order of the direction. -/
def transfer (direction : Direction) (thing role : String) : String :=
  if direction.isGrant then "GRANT " ++ thing ++ " TO " ++ role
  else "REVOKE " ++ thing ++ " FROM " ++ role

end Sql

open Sql in
/-- The statement in SQL. -/
def Statement.sql : Statement → Except Unwritable String
  | .privilege change => do
    let privileges ← privilegeList change.privileges
    let objects ← targets change
    return transfer change.direction (privileges ++ " ON " ++ objects) (grantee change.role) ++
      optionClause "GRANT" change.direction change.grantOption
  | .defaultPrivilege change => do
    let owner ← nameOf change.owner
    let privileges ← privilegeList change.privileges
    let objects ← plural change.kind
    let place :=
      match change.schema with
      | some schema => " IN SCHEMA " ++ identifier schema
      | none => ""
    return "ALTER DEFAULT PRIVILEGES FOR ROLE " ++ owner ++ place ++ " " ++
      transfer change.direction (privileges ++ " ON " ++ objects) (grantee change.role) ++
      optionClause "GRANT" change.direction change.grantOption
  | .membership change => do
    let joined ← nameOf change.grantRole
    let member ← nameOf change.role
    return transfer change.direction joined member ++
      optionClause "ADMIN" change.direction change.adminOption
  | .schemaOwner change => do
    let schema ← nameOf change.schema
    let owner ← nameOf change.owner
    return "ALTER SCHEMA " ++ schema ++ " OWNER TO " ++ owner

end PgGrants
