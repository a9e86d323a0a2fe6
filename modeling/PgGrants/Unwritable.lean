/-
What keeps a text from being made for the server or for a message: names that are absent, privileges
and words that do not exist, and a character that no text of the server can hold.
-/
import PgGrants.Mistyped

set_option autoImplicit false

namespace PgGrants

/-- Why a statement or a question cannot be written, or not be described. -/
inductive Unwritable where
  /-- The server has no privilege of this name. -/
  | unknownPrivilege (token : Option String)
  /-- A name that the text needs is absent. -/
  | absentName
  /-- The name at this place of a list is absent. -/
  | absentItem (place : Nat)
  /-- The kind has no word for all its objects, and the text needs one. -/
  | absentPlural
  /-- The statement has no verb, or the kind no word for all its objects, and the description needs
  it. -/
  | nothingToLower
  /-- A text has the character that ends texts on the server. -/
  | nulCharacter
deriving DecidableEq, Repr

/-- The text of the complaint. -/
def Unwritable.message : Unwritable → String
  | .unknownPrivilege token => "Unknown privilege " ++ (Value.ofName token).literal
  | .absentName => "SQL identifier parts must be strings, got None instead"
  | .absentItem place => (Mistyped.notText place .null).message
  | .absentPlural => "SQL values must be strings, got None instead"
  | .nothingToLower => "'NoneType' object has no attribute 'lower'"
  | .nulCharacter => "PostgreSQL text fields cannot contain NUL (0x00) bytes"

end PgGrants
