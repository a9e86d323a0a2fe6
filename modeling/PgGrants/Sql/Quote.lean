/-
Names and texts inside SQL. A name stands in double quotes and a text in single quotes, each quote
inside being written twice; a text with a backslash is written in the form that reads backslashes as
escapes, and then every backslash is doubled as well. No text holds the character with code zero.
-/
import PgGrants.Unwritable

set_option autoImplicit false

namespace PgGrants.Sql

/-- The characters with every occurrence of `mark` written twice. -/
def doubled (mark : Char) (cs : List Char) : List Char :=
  cs.flatMap fun c => if c = mark then [c, c] else [c]

/-! ## Names -/

/-- A name in double quotes. -/
def identifier (name : String) : String :=
  "\"" ++ String.ofList (doubled '"' name.toList) ++ "\""

/-- A name that must be there, in double quotes. -/
def nameOf (given : Option String) : Except Unwritable String :=
  match given with
  | some name => .ok (identifier name)
  | none => .error .absentName

/-- A name inside a schema, each part in double quotes. -/
def qualified (schema : String) (given : Option String) : Except Unwritable String := do
  return identifier schema ++ "." ++ (← nameOf given)

/-! ## Texts -/

/-- A text in single quotes. -/
def quotedText (text : String) : String :=
  let body := doubled '\'' text.toList
  if body.contains '\\' then " E'" ++ String.ofList (doubled '\\' body) ++ "'"
  else "'" ++ String.ofList body ++ "'"

/-- The text holds the character with code zero. -/
def hasNul (text : String) : Bool := text.toList.contains (Char.ofNat 0)

/-- A text in single quotes, or the null value. -/
def literal (given : Option String) : Except Unwritable String :=
  match given with
  | some text => if hasNul text then .error .nulCharacter else .ok (quotedText text)
  | none => .ok "NULL"

/-- Texts in single quotes with commas between them. -/
def literals (given : List (Option String)) : Except Unwritable String := do
  return String.intercalate ", " (← given.mapM literal)

end PgGrants.Sql
