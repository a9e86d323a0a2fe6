/-
The questions that are put to the system catalog, and their SQL. A question says which optional
parts its text has, so that what a server must understand can be read off the question. A name that
is absent is asked for as the null value.
-/
import PgGrants.ObjectKind
import PgGrants.Sql.Quote

set_option autoImplicit false

namespace PgGrants

/-- A question to the server. -/
inductive Query where
  /-- The version as a number. -/
  | reportedVersion
  /-- The connecting role. -/
  | connectingRole
  /-- Name, object identifier and superuser attribute of a role. -/
  | role (name : Option String)
  /-- Is `member` a direct member of `role`? With `settable`, only by a membership that allows
  taking the role on. -/
  | isMember (role member : Option String) (settable : Bool)
  /-- The owner of a database, the connected one when none is named. -/
  | ownerOfDatabase (database : Option String)
  /-- Name, owner and access control list of objects of a kind. Every object is asked for when no
  name is given; with `byKind`, a relation that lists several kinds is limited to this one. -/
  | objects (kind : ObjectKind) (schema : Option String) (names : List (Option String))
      (byKind : Bool)
  /-- The default privileges that an owner has set for a kind. -/
  | defaultAcl (owner : Option String) (kind : ObjectKind) (schema : Option String)
  /-- The admin option of `role` in `grantRole`, nothing when it is not a member. -/
  | membership (role grantRole : Option String)
deriving DecidableEq, Repr

namespace Sql

/-- A text of several lines, which starts and ends with a line break. -/
def block (lines : List String) : String := "\n" ++ String.intercalate "\n" lines ++ "\n"

/-- The limit to objects of one schema. -/
def schemaFilter (schema : Option String) : Except Unwritable String :=
  return "AND n.nspname = " ++ (← literal schema)

/-- The way to the schema of the objects, where the kind has schemas. -/
def schemaJoin (entry : CatalogEntry) : String :=
  match entry.namespaceColumn with
  | some column => "INNER JOIN pg_namespace n ON n.oid = o." ++ identifier column
  | none => ""

/-- The limit to one kind, in a relation that lists several. -/
def kindFilter (entry : CatalogEntry) : String :=
  match entry.kindColumn with
  | some column =>
    "AND o." ++ identifier column ++ " IN (" ++
      String.intercalate ", " (entry.kindValues.map quotedText) ++ ")"
  | none => ""

/-- The limit to the given names, when there are any. -/
def nameFilter (entry : CatalogEntry) (names : List (Option String)) :
    Except Unwritable String := do
  if names.isEmpty then return ""
  else return "AND o." ++ identifier entry.nameColumn ++ " IN (" ++ (← literals names) ++ ")"

/-- The question for objects and their access control lists. -/
def selectObjects (entry : CatalogEntry) (schema : Option String) (names : List (Option String))
    (byKind : Bool) : Except Unwritable String := do
  let inSchema ← if entry.namespaceColumn.isSome then schemaFilter schema else pure ""
  let byName ← nameFilter entry names
  return block [
    "SELECT o." ++ identifier entry.nameColumn ++ ", pg_get_userbyid(o." ++
      identifier entry.ownerColumn ++ "), COALESCE(o." ++ identifier entry.aclColumn ++
      "::text[], ARRAY[]::text[])",
    "FROM " ++ identifier entry.relation ++ " o",
    schemaJoin entry,
    "WHERE TRUE",
    inSchema,
    if byKind then kindFilter entry else "",
    byName,
    "ORDER BY 1"]

/-- The question for default privileges. -/
def selectDefaultAcl (owner code schema : Option String) : Except Unwritable String := do
  let place ←
    if schema.isSome then schemaFilter schema else pure "AND d.defaclnamespace = 0"
  let ofOwner ← literal owner
  let ofKind ← literal code
  return block [
    "SELECT COALESCE(d.defaclacl::text[], ARRAY[]::text[])",
    "FROM pg_default_acl d",
    "INNER JOIN pg_roles r ON r.oid = d.defaclrole",
    if schema.isSome then "INNER JOIN pg_namespace n ON n.oid = d.defaclnamespace" else "",
    "WHERE r.rolname = " ++ ofOwner,
    "AND d.defaclobjtype = " ++ ofKind,
    place]

end Sql

open Sql in
/-- The question in SQL. -/
def Query.sql : Query → Except Unwritable String
  | .reportedVersion => .ok "SHOW server_version_num"
  | .connectingRole => .ok "SELECT CURRENT_USER"
  | .role name => do
    return "SELECT rolname, oid, rolsuper FROM pg_roles WHERE rolname = " ++ (← literal name)
  | .isMember joined member settable => do
    let role ← literal joined
    let user ← literal member
    return block [
      "SELECT EXISTS (",
      "  SELECT 1",
      "  FROM pg_auth_members m",
      "  INNER JOIN pg_roles r ON r.oid = m.roleid",
      "  INNER JOIN pg_roles u ON u.oid = m.member",
      "  WHERE r.rolname = " ++ role ++ " AND u.rolname = " ++ user,
      "  " ++ if settable then "AND m.set_option" else "",
      ")"]
  | .ownerOfDatabase database => do
    let name ← if database.isSome then literal database else pure "current_database()"
    return "SELECT pg_get_userbyid(datdba) FROM pg_database WHERE datname = " ++ name
  | .objects kind schema names byKind => selectObjects kind.catalog schema names byKind
  | .defaultAcl owner kind schema => selectDefaultAcl owner kind.catalog.defaultAclCode schema
  | .membership member joined => do
    let role ← literal joined
    let user ← literal member
    return block [
      "SELECT bool_or(m.admin_option)",
      "FROM pg_auth_members m",
      "INNER JOIN pg_roles r ON r.oid = m.roleid",
      "INNER JOIN pg_roles u ON u.oid = m.member",
      "WHERE r.rolname = " ++ role ++ " AND u.rolname = " ++ user]

end PgGrants
