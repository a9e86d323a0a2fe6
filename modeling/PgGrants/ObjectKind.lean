/-
The kinds of object that carry privileges. Each kind says where the system catalog records its
objects, which words GRANT and REVOKE use for it, and which privileges exist on it; the rules about
schemas, bulk grants and default privileges are read off from there.
-/
import PgGrants.TextSet

set_option autoImplicit false

namespace PgGrants

/-- The ten kinds of object with an access control list. -/
inductive ObjectKind where
  | database
  | schema
  | table
  | sequence
  | function
  | procedure
  | routine
  | type
  | foreignDataWrapper
  | foreignServer
deriving DecidableEq, Repr, Inhabited

/-- Where and how the system catalog records the objects of a kind. -/
structure CatalogEntry where
  /-- The relation that lists the objects. -/
  relation : String
  nameColumn : String
  /-- The column with the schema; objects outside schemas have none. -/
  namespaceColumn : Option String
  ownerColumn : String
  aclColumn : String
  /-- The word for one object in GRANT and REVOKE. -/
  keyword : String
  /-- The word for all objects of the kind, where a statement can name them so. -/
  plural : Option String
  /-- The column that tells kinds apart in a relation with several. -/
  kindColumn : Option String
  kindValues : List String
  /-- The code of the kind in the catalog of default privileges. -/
  defaultAclCode : Option String
deriving DecidableEq, Repr

namespace ObjectKind

/-- Every kind, in the order of declaration. -/
def all : List ObjectKind :=
  [.database, .schema, .table, .sequence, .function, .procedure, .routine, .type,
    .foreignDataWrapper, .foreignServer]

theorem mem_all (kind : ObjectKind) : kind ∈ all := by
  cases kind <;> decide

/-- The name of the kind in declarations and messages. -/
def name : ObjectKind → String
  | .database => "database"
  | .schema => "schema"
  | .table => "table"
  | .sequence => "sequence"
  | .function => "function"
  | .procedure => "procedure"
  | .routine => "routine"
  | .type => "type"
  | .foreignDataWrapper => "foreign_data_wrapper"
  | .foreignServer => "foreign_server"

/-- The name of the kind in sentences. -/
def phrase : ObjectKind → String
  | .foreignDataWrapper => "foreign data wrapper"
  | .foreignServer => "foreign server"
  | kind => kind.name

/-- The kind with exactly this name. -/
def ofName? (name : String) : Option ObjectKind := all.find? fun kind => kind.name == name

/-! ## The catalog -/

/-- The catalog entry of each kind. -/
def catalog : ObjectKind → CatalogEntry
  | .database =>
    ⟨"pg_database", "datname", none, "datdba", "datacl", "DATABASE", none, none, [], none⟩
  | .schema =>
    ⟨"pg_namespace", "nspname", none, "nspowner", "nspacl", "SCHEMA", some "SCHEMAS", none, [],
      some "n"⟩
  | .table =>
    ⟨"pg_class", "relname", some "relnamespace", "relowner", "relacl", "TABLE", some "TABLES",
      some "relkind", ["r", "p", "v", "m", "f"], some "r"⟩
  | .sequence =>
    ⟨"pg_class", "relname", some "relnamespace", "relowner", "relacl", "SEQUENCE",
      some "SEQUENCES", some "relkind", ["S"], some "S"⟩
  | .function =>
    ⟨"pg_proc", "proname", some "pronamespace", "proowner", "proacl", "FUNCTION",
      some "FUNCTIONS", some "prokind", ["f"], some "f"⟩
  | .procedure =>
    ⟨"pg_proc", "proname", some "pronamespace", "proowner", "proacl", "PROCEDURE",
      some "PROCEDURES", some "prokind", ["p"], none⟩
  | .routine =>
    ⟨"pg_proc", "proname", some "pronamespace", "proowner", "proacl", "ROUTINE",
      some "ROUTINES", some "prokind", ["f", "p"], none⟩
  | .type =>
    ⟨"pg_type", "typname", some "typnamespace", "typowner", "typacl", "TYPE", some "TYPES", none,
      [], some "T"⟩
  | .foreignDataWrapper =>
    ⟨"pg_foreign_data_wrapper", "fdwname", none, "fdwowner", "fdwacl", "FOREIGN DATA WRAPPER",
      none, none, [], none⟩
  | .foreignServer =>
    ⟨"pg_foreign_server", "srvname", none, "srvowner", "srvacl", "FOREIGN SERVER", none, none, [],
      none⟩

/-- Objects of the kind live inside a schema. -/
def inSchema (kind : ObjectKind) : Bool := kind.catalog.namespaceColumn.isSome

/-! ## Privileges -/

/-- The privileges that exist on objects of the kind. -/
def vocabulary : ObjectKind → TextSet
  | .database => .ofList ["CREATE", "CONNECT", "TEMPORARY"]
  | .schema => .ofList ["CREATE", "USAGE"]
  | .table =>
    .ofList ["SELECT", "INSERT", "UPDATE", "DELETE", "TRUNCATE", "REFERENCES", "TRIGGER",
      "MAINTAIN"]
  | .sequence => .ofList ["USAGE", "SELECT", "UPDATE"]
  | .function => .ofList ["EXECUTE"]
  | .procedure => .ofList ["EXECUTE"]
  | .routine => .ofList ["EXECUTE"]
  | .type => .ofList ["USAGE"]
  | .foreignDataWrapper => .ofList ["USAGE"]
  | .foreignServer => .ofList ["USAGE"]

/-- Default privileges can be set for new objects of the kind. -/
def hasDefaultPrivileges : ObjectKind → Bool
  | .table | .sequence | .function | .type | .schema => true
  | _ => false

/-- One statement can grant on every object of the kind in a schema. -/
def isBulk : ObjectKind → Bool
  | .table | .sequence | .function | .procedure | .routine => true
  | _ => false

/-- Kinds whose single target is named by the declaration itself. -/
def isContainer : ObjectKind → Bool
  | .database | .schema => true
  | _ => false

end ObjectKind

end PgGrants
