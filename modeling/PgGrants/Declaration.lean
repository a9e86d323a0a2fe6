/-
The five declarations a payload can make, what fields they have, and everything that can be wrong
with one. A complaint names its cause; its text is made in one place.
-/
import PgGrants.ObjectKind
import PgGrants.Signature

set_option autoImplicit false

namespace PgGrants

/-- The kinds of declaration. -/
inductive Declaration where
  | grant
  | defaultPrivileges
  | schemaPolicy
  | schemaRule
  | membership
deriving DecidableEq, Repr

namespace Declaration

/-- The fields of each declaration. -/
def signature : Declaration → Signature
  | .grant =>
    ⟨"GrantSpec", ["role", "database", "object_type"],
      ["privileges", "schema", "objects", "with_grant_option"]⟩
  | .defaultPrivileges =>
    ⟨"DefaultPrivilegesSpec", ["role", "database", "owner", "object_type"],
      ["privileges", "schema", "with_grant_option"]⟩
  | .schemaPolicy => ⟨"SchemaPolicySpec", ["database", "schema"], ["owner", "policies"]⟩
  | .schemaRule =>
    ⟨"SchemaPolicyEntry", [],
      ["role", "create", "create_with_grant", "usage", "usage_with_grant"]⟩
  | .membership => ⟨"RoleMembershipSpec", ["role", "grant_role"], ["with_admin_option"]⟩

/-- The name of the declaration in messages. -/
def title (d : Declaration) : String := d.signature.title

end Declaration

/-- Why a declaration is not accepted. -/
inductive Invalid where
  /-- No kind of object has this name. -/
  | unknownKind (given : Value)
  /-- The kind has no such privilege. -/
  | unknownPrivilege (given : Value) (kind : ObjectKind)
  /-- Grant options for privileges that are not granted. -/
  | grantOptionsNotHeld (extra : TextSet) (role : String)
  /-- A declaration is a record. -/
  | notRecord (declaration : Declaration) (given : Value)
  | unknownFields (declaration : Declaration) (fields : TextSet)
  | missingFields (declaration : Declaration) (fields : TextSet)
  /-- A name is a text, and not the empty one. -/
  | emptyName (what : String)
  | schemaForbidden (kind : ObjectKind)
  | objectsForbidden (kind : ObjectKind)
  | objectsRequired (kind : ObjectKind)
  /-- PUBLIC cannot hold a grant option; the flag asks for one. -/
  | grantOptionForPublic (flag : String)
  /-- Default privileges do not exist for the kind. -/
  | noDefaultPrivileges (kind : ObjectKind)
  /-- Default privileges on schemas cannot be limited to a schema. -/
  | schemaOnSchemas
  /-- The role of a schema rule is a text. -/
  | ruleRoleNotText (given : Value)
  /-- PUBLIC is no member of a role and has none. -/
  | publicMembership
  /-- A role is no member of itself. -/
  | selfMembership (role : String)

namespace Invalid

/-- The members of a set with commas between them. -/
def commaList (s : TextSet) : String := String.intercalate ", " s.toList

/-- The name of the privilege that stands for the whole vocabulary. -/
def allToken : String := "ALL"

/-- The kinds that have default privileges, by name. -/
def defaultPrivilegeKinds : TextSet :=
  .ofList ((ObjectKind.all.filter ObjectKind.hasDefaultPrivileges).map ObjectKind.name)

/-- The text of the complaint. -/
def message : Invalid → String
  | .unknownKind given => "Unknown object type " ++ given.literal
  | .unknownPrivilege given kind =>
    "Invalid privilege " ++ given.literal ++ " for object type " ++ kind.name ++
      ", allowed values are: " ++ commaList (kind.vocabulary.insert allToken)
  | .grantOptionsNotHeld extra role =>
    "Grant options " ++ commaList extra ++ " for role " ++ Text.quoted role ++
      " are not granted privileges"
  | .notRecord declaration given =>
    declaration.title ++ " expects a mapping, got " ++ given.typeName
  | .unknownFields declaration fields =>
    "Unknown keys for " ++ declaration.title ++ ": " ++ commaList fields
  | .missingFields declaration fields =>
    "Missing keys for " ++ declaration.title ++ ": " ++ commaList fields
  | .emptyName what => what ++ " must be a non-empty string"
  | .schemaForbidden kind => "schema must not be set for object type " ++ kind.name
  | .objectsForbidden kind => "objects must not be set for object type " ++ kind.name
  | .objectsRequired kind => "objects must be set for object type " ++ kind.name
  | .grantOptionForPublic flag => flag ++ " cannot be used for PUBLIC"
  | .noDefaultPrivileges kind =>
    "Default privileges cannot be set for object type " ++ kind.name ++ ", allowed values are: " ++
      commaList defaultPrivilegeKinds
  | .schemaOnSchemas => "schema must not be set when object type is schema"
  | .ruleRoleNotText given => "Policy role must be a string, got " ++ given.literal
  | .publicMembership => "Role memberships cannot involve PUBLIC"
  | .selfMembership role => "Role " ++ Text.quoted role ++ " cannot be granted to itself"

end Invalid

end PgGrants
