/-
Identifiers of managed things. An identifier is made of the names by which the thing is addressed,
with an underscore between them; the objects of a grant are listed in ascending order.
-/
import PgGrants.Payload

set_option autoImplicit false

namespace PgGrants

namespace Identifier

/-- Texts with an underscore between them. -/
def joined (parts : List String) : String := String.intercalate "_" parts

/-- Texts in ascending order; a text that is there twice stays there twice. -/
def sorted (texts : List String) : List String := texts.mergeSort fun a b => decide (a ≤ b)

/-- The grant to a role on the objects of a kind. -/
def grant (role database schema : String) (kind : ObjectKind) (objects : List String) : String :=
  joined ([role, database, schema, kind.name] ++
    if objects.isEmpty then [] else [String.intercalate "," (sorted objects)])

/-- The default privileges of a role on what an owner creates. -/
def defaultPrivileges (role database schema owner : String) (kind : ObjectKind) : String :=
  joined [role, database, schema, owner, kind.name]

/-- The policy of a schema. -/
def schemaPolicy (database schema : String) : String := database ++ "." ++ schema

/-- The membership of a role. -/
def membership (role grantRole : String) (adminOption : Bool) : String :=
  joined [role, grantRole, if adminOption then "true" else "false"]

/-! ## From payload values

The same identifiers when the parts are given as payload values, one after the other. The kind is
read first, and the first part that is not a text is complained about. -/

/-- The text at a place of an identifier. -/
def textAt (place : Nat) (value : Value) : Except Error String :=
  match value with
  | .text s => .ok s
  | _ => .error (.mistyped (.notText place value))

/-- The texts of the values. -/
def texts (values : List Value) : Except Error (List String) :=
  values.zipIdx.mapM fun (value, place) => textAt place value

/-- The kind that a value names. -/
def kindOf (value : Value) : Except Error ObjectKind := (ObjectKind.ofValue value).mapError .invalid

/-- The value, or the empty text in place of one that counts as false. -/
def orEmpty (value : Value) : Value := if value.isTrue then value else .text ""

/-- The fields of an identifier, by the places of the values. -/
def fieldsOf (title : String) (required optional : List String) (given : List Value) :
    Except Error Fields :=
  (Signature.placed ⟨title, required, optional⟩ given).mapError .mistyped

/-- The identifier of a grant. -/
def grantOfValues (given : List Value) : Except Error String := do
  let fields ← fieldsOf "grant_id" ["role", "database", "schema", "object_type"] ["objects"] given
  let kind ← kindOf (fields.given "object_type")
  let names := fields.get "objects" (.list [])
  let objects ←
    if names.isTrue then do texts (← (do Value.sorted (← names.iterate)).mapError .mistyped)
    else pure []
  let role ← textAt 0 (fields.given "role")
  let database ← textAt 1 (fields.given "database")
  let schema ← textAt 2 (orEmpty (fields.given "schema"))
  return grant role database schema kind objects

/-- The identifier of default privileges. -/
def defaultPrivilegesOfValues (given : List Value) : Except Error String := do
  let fields ← fieldsOf "default_privileges_id"
    ["role", "database", "schema", "owner", "object_type"] [] given
  let kind ← kindOf (fields.given "object_type")
  let role ← textAt 0 (fields.given "role")
  let database ← textAt 1 (fields.given "database")
  let schema ← textAt 2 (orEmpty (fields.given "schema"))
  let owner ← textAt 3 (fields.given "owner")
  return defaultPrivileges role database schema owner kind

/-- The identifier of a schema policy; a part that is no text is written as messages show it. -/
def schemaPolicyOfValues (given : List Value) : Except Error String := do
  let fields ← fieldsOf "schema_policy_id" ["database", "schema"] [] given
  return schemaPolicy (fields.given "database").plain (fields.given "schema").plain

/-- The identifier of a membership. -/
def membershipOfValues (given : List Value) : Except Error String := do
  let fields ← fieldsOf "role_membership_id" ["role", "grant_role", "with_admin_option"] [] given
  let role ← textAt 0 (fields.given "role")
  let grantRole ← textAt 1 (fields.given "grant_role")
  return membership role grantRole (fields.given "with_admin_option").isTrue

end Identifier

end PgGrants
