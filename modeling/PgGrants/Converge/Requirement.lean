/-
What has to be there before anything is changed: the features that an operation needs, and the
database that it is about. Features are asked for before the first connection to a database is
opened.
-/
import PgGrants.Client
import PgGrants.Impersonation
import PgGrants.Plan

set_option autoImplicit false

namespace PgGrants

namespace Call

variable {σ : Type} [Server σ]

/-- Complains unless the server has the feature. -/
def needFeature (feature : Feature) (operation : String) : Call σ Unit := do
  ofOutcome ((← capabilities).need feature operation)

/-- Complains unless the server has everything that privileges on objects of the kind need. -/
def needPrivileges (kind : ObjectKind) (privileges : TextSet) (operation : String) :
    Call σ Unit := do
  needFeature .privileges operation
  if kind == .procedure || kind == .routine then
    needFeature .procedure ("Granting privileges on " ++ kind.name ++ "s")
  if privileges.contains "MAINTAIN" then needFeature .maintainPrivilege "The MAINTAIN privilege"

/-- The database exists. -/
def hasDatabase (database : String) : Call σ Bool :=
  connect none (Session.transaction (Session.hasObject .database database none))

/-- Complains unless the database exists. -/
def needDatabase (database : String) : Call σ Unit := do
  unless ← hasDatabase database do throw (.notFound "database" database)

/-- Does the work in a transaction on a connection to the database. -/
def inDatabase {α : Type} (database : Option String) (work : Session σ α) : Call σ α :=
  connect database (Session.transaction work)

end Call

namespace Session

variable {σ : Type} [Server σ]

/-- Complains unless the role exists. -/
def needRole (role : String) : Session σ Unit := do
  unless ← hasRole role do throw (.notFound "role" role)

/-- Complains unless the schema exists. -/
def needSchema (schema : String) : Session σ Unit := do
  unless ← hasObject .schema schema none do throw (.notFound "schema" schema)

/-- Both roles exist; the second is asked about only when the first one does. -/
def bothExist (first second : String) : Session σ Bool := do
  if ← hasRole first then hasRole second else return false

/-- The result of the work, or nothing when something does not exist. -/
def unlessMissing {α : Type} (work : Session σ α) : Session σ (Option α) := do
  match ← attempt work with
  | .ok result => return some result
  | .error error => if error.isNotFound then return none else throw error

/-- Sends the statements as a member of the owners. -/
def performAs (owners : TextSet) (statements : List Statement) : Session σ Unit :=
  asMemberOf (owners.toList.map some) (performAll statements)

end Session

namespace Holding

/-- Everything that is held carries a grant option, and something is held. -/
def isGrantable (h : Holding) : Bool := !h.privileges.isEmpty && h.grantOptions == h.privileges

/-- The holding is what is declared: the same privileges, and grant options on all of them or none.
-/
def isAsDeclared (h : Holding) (kind : ObjectKind) (privileges : TextSet) (grantOption : Flag)
    (caps : Option Capabilities) : Bool :=
  Privilege.sameMeaning kind h.privileges privileges caps &&
    if grantOption.isSet then h.grantOptions == h.privileges else h.grantOptions.isEmpty

end Holding

end PgGrants
