/-
Everything that can go wrong between a caller and the server, by cause. Declarations and versions
are refused before anything is sent; a refusal by the server is told together with the statement
that met it; and a failure to take memberships on, or to hand them back, keeps the failures it came
from.
-/
import PgGrants.AclItem
import PgGrants.Statement

set_option autoImplicit false

namespace PgGrants

/-- Why an operation did not succeed. -/
inductive Error where
  /-- The declaration is not accepted. -/
  | invalid (cause : Invalid)
  /-- The server's version does not have a feature that the operation needs. -/
  | unsupported (feature : Feature) (operation : String) (version : Version)
  /-- Something that the operation is about does not exist. -/
  | notFound (what name : String)
  /-- The server refused a statement, described as it was meant. -/
  | rejected (statement : Statement) (description target reason : String)
  /-- The connecting role could not be made a member of the roles. -/
  | notJoined (roles : List String) (user : Option String) (cause : Error)
  /-- Memberships could not be handed back after work that succeeded. -/
  | notUndone (granted : List String) (user : Option String) (cause : Error)
  /-- Memberships could not be handed back after work that had failed itself. -/
  | notUndoneAfter (granted : List String) (user : Option String) (earlier cause : Error)
  /-- The server refused a command. -/
  | refused (text : String)
  /-- The connection broke. -/
  | broken (text : String)
  /-- The caller's own work failed. -/
  | raised (text : String)
  /-- The answer has no row. -/
  | absentRow
  /-- The first row of the answer has no cell. -/
  | absentCell
  /-- A row has another number of cells than it must have. -/
  | rowWidth (expected given : Nat)
  /-- A text is no access control item. -/
  | aclItem (fault : AclItem.Fault)
  /-- A value is of the wrong kind. -/
  | mistyped (cause : Mistyped)
  /-- A statement or a question cannot be written, or not be described. -/
  | unwritable (fault : Unwritable)
  /-- A text is not a whole number. -/
  | notInteger (text : String)
  /-- A number is written with too many digits. -/
  | tooManyDigits (count : Nat)
  /-- A text has no version in it. -/
  | noVersion (given : Value)
  /-- No server of this dialect is known. -/
  | unknownDialect (name : String)
  /-- No way of quoting is known for this driver. -/
  | unknownDriver (name : String)
  /-- No connection can be made with this driver. -/
  | absentDriver (name : String)
  /-- A policy has no role with this key. -/
  | absentRole (key : String)
  /-- Holdings of two roles were to be joined. -/
  | otherRole (mismatch : Holding.Mismatch)
  /-- A privilege has no letter in access control items. -/
  | unlettered (privilege : Value)
  /-- No feature has exactly this name. -/
  | unknownFeature (given : Value)
  /-- No kind of object has exactly this name. -/
  | unknownKindName (given : Value)
  /-- There is nothing under this key. -/
  | absentKey (key : Value)

namespace Error

/-- The texts with commas between them. -/
def enumerate (names : List String) : String := String.intercalate ", " names

/-- The text of the complaint. -/
def message : Error → String
  | .invalid cause => cause.message
  | .unsupported _ operation version =>
    operation ++ " is not supported on this server version (" ++ version.toText ++ ")"
  | .notFound what name => what ++ " " ++ Text.quoted name ++ " does not exist"
  | .rejected _ description _ reason => "could not " ++ description ++ ": " ++ reason
  | .notJoined roles user cause =>
    "could not grant roles " ++ enumerate roles ++ " to " ++ Statement.shown user ++ ": " ++
      cause.message
  | .notUndone granted user cause =>
    "could not revoke roles " ++ enumerate granted ++ " from " ++ Statement.shown user ++ ": " ++
      cause.message
  | .notUndoneAfter granted user earlier cause =>
    "could not revoke roles " ++ enumerate granted ++ " from " ++ Statement.shown user ++
      " after a failure (" ++ earlier.message ++ "): " ++ cause.message
  | .refused text => text
  | .broken text => text
  | .raised text => text
  | .absentRow => "list index out of range"
  | .absentCell => "tuple index out of range"
  | .rowWidth expected given =>
    if given < expected then
      s!"not enough values to unpack (expected {expected}, got {given})"
    else s!"too many values to unpack (expected {expected})"
  | .aclItem fault => fault.message
  | .mistyped cause => cause.message
  | .unwritable fault => fault.message
  | .notInteger text =>
    "invalid literal for int() with base 10: " ++ String.ofList ((Text.quoted text).toList.take 200)
  | .tooManyDigits count =>
    "Exceeds the limit (" ++ toString Text.maxDigits ++ " digits) for integer string conversion:" ++
      " value has " ++ toString count ++ " digits; use sys.set_int_max_str_digits() to increase" ++
      " the limit"
  | .noVersion given => "Unable to parse a server version from " ++ given.literal
  | .unknownDialect name => "Unsupported database dialect: " ++ name
  | .unknownDriver name => Text.quoted name
  | .absentDriver name => "Can't load plugin: sqlalchemy.dialects:postgresql." ++ name
  | .absentRole key => Text.quoted key
  | .otherRole mismatch => mismatch.message
  | .unlettered privilege => privilege.literal ++ " is not in list"
  | .unknownFeature given => given.literal ++ " is not a valid Feature"
  | .unknownKindName given => given.literal ++ " is not a valid ObjectKind"
  | .absentKey key => key.literal

/-- The operation failed because something does not exist. -/
def isNotFound : Error → Bool
  | .notFound _ _ => true
  | _ => false

end Error

namespace Capabilities

/-- Accepts an operation only when the version has the feature it needs. -/
def need (caps : Capabilities) (feature : Feature) (operation : String) : Except Error Unit :=
  if caps.supports feature then .ok () else .error (.unsupported feature operation caps.version)

end Capabilities

end PgGrants
