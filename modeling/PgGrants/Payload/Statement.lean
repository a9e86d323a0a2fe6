/-
Statements from payload values. A record names the type of statement, and the rest of it are the
fields of a statement of that type, taken as they are.
-/
import PgGrants.Payload

set_option autoImplicit false

namespace PgGrants

namespace Statement

/-- The fields of the type of statement that a value names. -/
def signatureOf (type : Value) : Except Error Signature :=
  match type with
  | .text "privilege" =>
    .ok ⟨"PrivilegeStatement", ["direction", "kind", "role"],
      ["privileges", "schema", "objects", "grant_option"]⟩
  | .text "default_privilege" =>
    .ok ⟨"DefaultPrivilegeStatement", ["direction", "owner", "kind", "role"],
      ["privileges", "schema", "grant_option"]⟩
  | .text "membership" =>
    .ok ⟨"MembershipStatement", ["direction", "role", "grant_role"], ["admin_option"]⟩
  | .text "schema_owner" =>
    .ok ⟨"SchemaOwnerStatement", ["schema", "owner", "previous_owner"], []⟩
  | _ => .error (.absentKey type)

/-- A name among the fields. -/
def nameIn (given : Fields) (field : String) : Option String := (given.given field).name?

/-- The names that a field holds. -/
def namesIn (given : Fields) (field : String) : Except Error (List (Option String)) :=
  return (← (given.get field (.list [])).iterate.mapError .mistyped).map Value.name?

/-- The kind that a field names, when the field is given. -/
def kindIn (given : Fields) : Except Error (Option ObjectKind) :=
  match given.lookup "kind" with
  | some name => return some (← ObjectKind.named name)
  | none => return none

/-- The verb among the fields. -/
def directionIn (given : Fields) : Direction := ⟨(given.given "direction").name?⟩

/-- The statement that the fields of a type make. What they hold is read before they are counted. -/
def ofFields (type : Value) (given : Fields) : Except Error Statement := do
  let signature ← signatureOf type
  let kind ← kindIn given
  let privileges ← namesIn given "privileges"
  let objects ← namesIn given "objects"
  let given ← (signature.accept given).mapError .mistyped
  match type with
  | .text "privilege" =>
    return .privilege {
      direction := directionIn given
      kind := kind.getD .database
      role := nameIn given "role"
      privileges := privileges
      schema := nameIn given "schema"
      objects := objects
      grantOption := given.flag "grant_option" }
  | .text "default_privilege" =>
    return .defaultPrivilege {
      direction := directionIn given
      owner := nameIn given "owner"
      kind := kind.getD .database
      role := nameIn given "role"
      privileges := privileges
      schema := nameIn given "schema"
      grantOption := given.flag "grant_option" }
  | .text "membership" =>
    return .membership {
      direction := directionIn given
      role := nameIn given "role"
      grantRole := nameIn given "grant_role"
      adminOption := given.flag "admin_option" }
  | _ =>
    return .schemaOwner {
      schema := nameIn given "schema"
      owner := nameIn given "owner"
      previousOwner := nameIn given "previous_owner" }

/-- The statement that a payload value makes. -/
def ofValue (given : Value) : Except Error Statement :=
  match given with
  | .record fields =>
    match fields.lookup "type" with
    | some type => ofFields type (fields.filter fun field => field.1 != "type")
    | none => .error (.absentKey (.text "type"))
  | _ => .error (.mistyped (.notIterable given))

end Statement

end PgGrants
