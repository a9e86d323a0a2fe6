/-
Values of the wrong kind. These are the complaints about a value that cannot be used the way it is:
gone through, put in a set, ordered, read as a number, joined to a text, trimmed like a name, or
taken for the fields with which something is made.
-/
import PgGrants.Value

set_option autoImplicit false

namespace PgGrants

/-- What is wrong with the kind of a value. -/
inductive Mistyped where
  /-- The value holds nothing that could be gone through. -/
  | notIterable (given : Value)
  /-- A list or a record cannot be a member of a set. -/
  | notMember (given : Value)
  /-- Two values of kinds that have no common order. -/
  | notOrdered (left right : Value)
  /-- The value is neither a text nor a number. -/
  | notNumber (given : Value)
  /-- The value has no length. -/
  | noLength (given : Value)
  /-- The item at this place of a joined text is not a text. -/
  | notText (place : Nat) (given : Value)
  /-- Only a text can be trimmed to a role key. -/
  | noName (given : Value)
  /-- Only a text can be quoted as a role name. -/
  | notQuotable (given : Value)
  /-- Only of a text can it be asked whether it consists of letters and digits. -/
  | notSpelt (given : Value)
  /-- Only a text can be looked for in a text. -/
  | notSought (given : Value)
  /-- A record has no slices. -/
  | notSliced
  /-- Something is made with a field it does not have. -/
  | extraField (maker field : String)
  /-- Something is made without fields that it needs. -/
  | absentFields (maker : String) (fields : List String)
  /-- Something is made with more values than it has fields, of which the last may be left out. -/
  | extraPlaces (maker : String) (fewest most given : Nat)
  /-- Something is made of what is no record of fields. -/
  | notFields (title : String) (given : Value)
  /-- An operation on any number of items is given what cannot be gone through. -/
  | notItems (operation : String) (given : Value)

namespace Mistyped

/-- The names in quotes, with commas and a final "and". -/
def enumerate : List String → String
  | [] => ""
  | [a] => "'" ++ a ++ "'"
  | [a, b] => "'" ++ a ++ "' and '" ++ b ++ "'"
  | names =>
    String.intercalate ", " (names.dropLast.map fun name => "'" ++ name ++ "'") ++
      ", and '" ++ names.getLastD "" ++ "'"

/-- Where messages say that roles and policies are at home. -/
def home : String := "sync_privileges.models"

/-- The text of the complaint. -/
def message : Mistyped → String
  | .notIterable given => s!"'{given.typeName}' object is not iterable"
  | .notMember given => s!"unhashable type: '{given.typeName}'"
  | .notOrdered left right =>
    s!"'<' not supported between instances of '{left.typeName}' and '{right.typeName}'"
  | .notNumber given =>
    "int() argument must be a string, a bytes-like object or a real number, not " ++
      s!"'{given.typeName}'"
  | .noLength given => s!"object of type '{given.typeName}' has no len()"
  | .notText place given =>
    s!"sequence item {place}: expected str instance, {given.typeName} found"
  | .noName given => s!"'{given.typeName}' object has no attribute 'strip'"
  | .notQuotable given => s!"'{given.typeName}' object has no attribute 'replace'"
  | .notSpelt given => s!"'{given.typeName}' object has no attribute 'isalnum'"
  | .notSought given => s!"'in <string>' requires string as left operand, not {given.typeName}"
  | .notSliced => "unhashable type: 'slice'"
  | .extraField maker field => s!"{maker}() got an unexpected keyword argument '{field}'"
  | .absentFields maker fields =>
    let noun := if fields.length = 1 then "argument" else "arguments"
    s!"{maker}() missing {fields.length} required positional {noun}: " ++ enumerate fields
  | .extraPlaces maker fewest most given =>
    let range := if fewest = most then toString most else s!"from {fewest} to {most}"
    s!"{maker}() takes {range} positional arguments but {given} were given"
  | .notFields title given =>
    s!"{home}.{title}() argument after ** must be a mapping, not {given.typeName}"
  | .notItems operation given =>
    s!"{home}.{operation}() argument after * must be an iterable, not {given.typeName}"

end Mistyped

namespace Value

/-- What the value holds, or the complaint that it holds nothing. -/
def iterate (v : Value) : Except Mistyped (List Value) :=
  match v.items? with
  | some items => .ok items
  | none => .error (.notIterable v)

end Value

end PgGrants
