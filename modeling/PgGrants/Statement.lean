/-
Statements as values. A statement says which way privileges, default privileges, a membership or a
schema change hands, before any text is made of it; here it is described in words, for messages. How
it reads in SQL is said in `PgGrants.Sql.Statement`. The names in a statement may be absent: some
words can be made of it all the same, and where they cannot the complaint says so.
-/
import PgGrants.Flag
import PgGrants.ObjectKind
import PgGrants.Role
import PgGrants.Unwritable

set_option autoImplicit false

namespace PgGrants

/-- The verb of a statement, when there is one. What is handed over is given with `GRANT` and taken
away with any other verb. -/
structure Direction where
  word : Option String
deriving DecidableEq, Repr, Inhabited

namespace Direction

/-- Gives. -/
def grant : Direction := ⟨some "GRANT"⟩

/-- Takes away. -/
def revoke : Direction := ⟨some "REVOKE"⟩

/-- Changes a property of an object. -/
def alter : Direction := ⟨some "ALTER"⟩

/-- The statement gives. -/
def isGrant (d : Direction) : Bool := d == grant

/-- What stands between the thing and the role. -/
def preposition (d : Direction) : String := if d.isGrant then "to" else "from"

/-- The verb in a sentence. -/
def verb (d : Direction) : Except Unwritable String :=
  match d.word with
  | some word => .ok (Text.lower word)
  | none => .error .nothingToLower

end Direction

/-- Privileges on objects. -/
structure PrivilegeChange where
  direction : Direction
  kind : ObjectKind
  /-- The grantee, PUBLIC when it is absent. -/
  role : Option String
  /-- The privileges, none standing for all of them. -/
  privileges : List (Option String)
  schema : Option String
  /-- The objects, none standing for every object of the kind in the schema. -/
  objects : List (Option String)
  grantOption : Flag

/-- Privileges on the objects that an owner will create. -/
structure DefaultPrivilegeChange where
  direction : Direction
  owner : Option String
  kind : ObjectKind
  /-- The grantee, PUBLIC when it is absent. -/
  role : Option String
  /-- The privileges, none standing for all of them. -/
  privileges : List (Option String)
  /-- The schema in which objects are created, any schema when there is none. -/
  schema : Option String
  grantOption : Flag

/-- Membership of a role in another. -/
structure MembershipChange where
  direction : Direction
  /-- The member. -/
  role : Option String
  /-- The role that is joined. -/
  grantRole : Option String
  adminOption : Flag

/-- The owner of a schema. -/
structure OwnerChange where
  schema : Option String
  owner : Option String
  previousOwner : Option String

/-- A statement that changes who may do what. -/
inductive Statement where
  | privilege (change : PrivilegeChange)
  | defaultPrivilege (change : DefaultPrivilegeChange)
  | membership (change : MembershipChange)
  | schemaOwner (change : OwnerChange)

namespace Statement

/-! ## Parts -/

/-- The verb. -/
def direction : Statement → Direction
  | .privilege change => change.direction
  | .defaultPrivilege change => change.direction
  | .membership change => change.direction
  | .schemaOwner _ => .alter

/-- The role that the statement addresses. -/
def role : Statement → Option String
  | .privilege change => change.role
  | .defaultPrivilege change => change.role
  | .membership change => change.role
  | .schemaOwner change => change.owner

/-- The privileges that the statement carries. -/
def privileges : Statement → List (Option String)
  | .privilege change => change.privileges
  | .defaultPrivilege change => change.privileges
  | .membership _ => []
  | .schemaOwner _ => []

/-! ## Description -/

/-- A name in a sentence. -/
def shown (name : Option String) : String := (Value.ofName name).plain

/-- Names with commas between them; each must be there. -/
def commaSeparated (names : List (Option String)) : Except Unwritable String := do
  let texts ← names.zipIdx.mapM fun (name, place) =>
    match name with
    | some text => .ok text
    | none => .error (.absentItem place)
  return String.intercalate ", " texts

/-- The privileges in a sentence. -/
def describePrivileges (privileges : List (Option String)) : Except Unwritable String :=
  if privileges.isEmpty then .ok "ALL PRIVILEGES" else commaSeparated privileges

/-- The kind's word for all its objects, in a sentence. -/
def describePlural (kind : ObjectKind) : Except Unwritable String :=
  match kind.catalog.plural with
  | some plural => .ok (Text.lower plural)
  | none => .error .nothingToLower

/-- The schema, when one is named that is not the empty name. -/
def namedSchema (schema : Option String) : Option String := schema.filter (· ≠ "")

/-- The objects of a privilege statement in words. -/
def describeObjects (change : PrivilegeChange) : Except Unwritable String := do
  if change.kind.inSchema && change.objects.isEmpty then
    return "all " ++ (← describePlural change.kind) ++ " in schema " ++ shown change.schema
  else
    let names := change.objects.map fun name =>
      match namedSchema change.schema with
      | some schema => some (schema ++ "." ++ shown name)
      | none => name
    return change.kind.phrase ++ " " ++ (← commaSeparated names)

/-- The objects of a default privilege statement in words. -/
def describeFutureObjects (change : DefaultPrivilegeChange) : Except Unwritable String := do
  let place :=
    match namedSchema change.schema with
    | some schema => " in schema " ++ schema
    | none => ""
  return (← describePlural change.kind) ++ " created by " ++ shown change.owner ++ place

/-- What the statement is about, in words. -/
def subject : Statement → Except Unwritable String
  | .privilege change => describeObjects change
  | .defaultPrivilege change => describeFutureObjects change
  | .membership change => .ok ("role " ++ shown change.grantRole)
  | .schemaOwner change => .ok ("schema " ++ shown change.schema)

/-- The grantee in a sentence. -/
def describeGrantee (role : Option String) : String := Role.shownName (Role.orPublic role)

/-- The words for an option that is set. -/
def describeOption (name : String) (flag : Flag) : String :=
  if flag.isSet then " with " ++ name ++ " option" else ""

/-- The statement in words. -/
def describe : Statement → Except Unwritable String
  | .privilege change => do
    let verb ← change.direction.verb
    let privileges ← describePrivileges change.privileges
    let target ← describeObjects change
    return verb ++ " " ++ privileges ++ " on " ++ target ++ " " ++
      change.direction.preposition ++ " " ++ describeGrantee change.role ++
      describeOption "grant" change.grantOption
  | .defaultPrivilege change => do
    let verb ← change.direction.verb
    let privileges ← describePrivileges change.privileges
    let target ← describeFutureObjects change
    return verb ++ " default " ++ privileges ++ " on " ++ target ++ " " ++
      change.direction.preposition ++ " " ++ describeGrantee change.role ++
      describeOption "grant" change.grantOption
  | .membership change => do
    return (← change.direction.verb) ++ " membership in " ++ shown change.grantRole ++ " " ++
      change.direction.preposition ++ " " ++ shown change.role ++
      describeOption "admin" change.adminOption
  | .schemaOwner change =>
    .ok ("change owner of schema " ++ shown change.schema ++ " from " ++
      shown change.previousOwner ++ " to " ++ shown change.owner)

end Statement

end PgGrants
