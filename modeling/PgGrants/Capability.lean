/-
What a server of a given version can do. Each feature came with some version, and one of them went
away with a later one; an operation that needs a feature asks for it before it sends anything.
-/
import PgGrants.Version

set_option autoImplicit false

namespace PgGrants

/-- Server features whose statements depend on the version. -/
inductive Feature where
  | createRoleWith
  | dbAllowConnections
  | dbIsTemplate
  | fallbackApplicationName
  | rls
  | schemaCreateIfNotExists
  | replication
  | extension
  | privileges
  | forceDropDatabase
  | pid
  | legacyProcpid
  | function
  | procedure
  | prokind
  | publication
  | publishViaPartitionRoot
  | privilegesOnSchemas
  | databaseOwnerRole
  | membershipSetOption
  | createRoleSelfGrant
  | maintainPrivilege
  | securityLabel
deriving DecidableEq, Repr, Inhabited

namespace Feature

/-- Every feature, in the order of declaration. -/
def all : List Feature :=
  [.createRoleWith, .dbAllowConnections, .dbIsTemplate, .fallbackApplicationName, .rls,
    .schemaCreateIfNotExists, .replication, .extension, .privileges, .forceDropDatabase, .pid,
    .legacyProcpid, .function, .procedure, .prokind, .publication, .publishViaPartitionRoot,
    .privilegesOnSchemas, .databaseOwnerRole, .membershipSetOption, .createRoleSelfGrant,
    .maintainPrivilege, .securityLabel]

theorem mem_all (feature : Feature) : feature ∈ all := by
  cases feature <;> decide

/-- The name of the feature. -/
def name : Feature → String
  | .createRoleWith => "create_role_with"
  | .dbAllowConnections => "db_allow_connections"
  | .dbIsTemplate => "db_is_template"
  | .fallbackApplicationName => "fallback_application_name"
  | .rls => "rls"
  | .schemaCreateIfNotExists => "schema_create_if_not_exists"
  | .replication => "replication"
  | .extension => "extension"
  | .privileges => "privileges"
  | .forceDropDatabase => "force_drop_database"
  | .pid => "pid"
  | .legacyProcpid => "legacy_procpid"
  | .function => "function"
  | .procedure => "procedure"
  | .prokind => "prokind"
  | .publication => "publication"
  | .publishViaPartitionRoot => "publish_via_partition_root"
  | .privilegesOnSchemas => "privileges_on_schemas"
  | .databaseOwnerRole => "database_owner_role"
  | .membershipSetOption => "membership_set_option"
  | .createRoleSelfGrant => "create_role_self_grant"
  | .maintainPrivilege => "maintain_privilege"
  | .securityLabel => "security_label"

/-- The feature with exactly this name. -/
def ofName? (name : String) : Option Feature := all.find? fun feature => feature.name == name

/-- The first version with the feature. -/
def since : Feature → Version
  | .createRoleWith => ⟨[8, 1]⟩
  | .dbAllowConnections => ⟨[9, 5]⟩
  | .dbIsTemplate => ⟨[9, 5]⟩
  | .fallbackApplicationName => ⟨[9, 0]⟩
  | .rls => ⟨[9, 5]⟩
  | .schemaCreateIfNotExists => ⟨[9, 3]⟩
  | .replication => ⟨[9, 1]⟩
  | .extension => ⟨[9, 1]⟩
  | .privileges => ⟨[9, 0]⟩
  | .forceDropDatabase => ⟨[13]⟩
  | .pid => ⟨[9, 2]⟩
  | .legacyProcpid => ⟨[0]⟩
  | .function => ⟨[8, 4]⟩
  | .procedure => ⟨[11]⟩
  | .prokind => ⟨[11]⟩
  | .publication => ⟨[10]⟩
  | .publishViaPartitionRoot => ⟨[13]⟩
  | .privilegesOnSchemas => ⟨[10]⟩
  | .databaseOwnerRole => ⟨[14]⟩
  | .membershipSetOption => ⟨[16]⟩
  | .createRoleSelfGrant => ⟨[16]⟩
  | .maintainPrivilege => ⟨[17]⟩
  | .securityLabel => ⟨[11]⟩

/-- The first version without the feature again, for the one that went away. -/
def until? : Feature → Option Version
  | .legacyProcpid => some ⟨[9, 2]⟩
  | _ => none

end Feature

/-- What a server can do, decided by its version alone. -/
structure Capabilities where
  version : Version
deriving DecidableEq, Repr, Inhabited

namespace Capabilities

/-- The version lies in the range of the feature. -/
def supports (caps : Capabilities) (feature : Feature) : Bool :=
  !decide (caps.version < feature.since) &&
    match feature.until? with
    | none => true
    | some limit => decide (caps.version < limit)

/-- The supported features, in the order of declaration. -/
def features (caps : Capabilities) : List Feature := Feature.all.filter caps.supports

end Capabilities

end PgGrants
