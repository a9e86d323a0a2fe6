/-
Fields by name. What is made of fields has a signature, which says the fields that must be given and
those that may be given; a record with other fields, or without needed ones, is refused. Where the
values are given one after the other, their places say which fields they are.
-/
import PgGrants.Flag
import PgGrants.Mistyped

set_option autoImplicit false

namespace PgGrants

/-- The fields that a payload gives, by name. -/
abbrev Fields := List (String × Value)

namespace Fields

/-- The field, or what it is when it is not given. -/
def get (fields : Fields) (name : String) (default : Value) : Value :=
  (fields.lookup name).getD default

/-- A field that must be given. -/
def given (fields : Fields) (name : String) : Value := fields.get name .null

/-- A flag, which is not raised when it is not given. -/
def flag (fields : Fields) (name : String) : Flag := ⟨fields.get name (.bool false)⟩

/-- The names of the fields. -/
def names (fields : Fields) : List String := fields.map (·.1)

end Fields

/-- The fields with which something is made. -/
structure Signature where
  /-- What is made, as messages call it. -/
  title : String
  /-- The fields that must be given, in order. -/
  required : List String
  /-- The fields that may be given. -/
  optional : List String
deriving DecidableEq, Repr

namespace Signature

/-- Every field, in the order in which the signature lists them. -/
def fieldNames (s : Signature) : List String := s.required ++ s.optional

/-- The needed fields that are not given. -/
def absent (s : Signature) (given : Fields) : List String :=
  s.required.filter fun name => !given.names.contains name

/-- What takes the fields of a record, as messages call it. -/
def maker (s : Signature) : String := s.title ++ ".__init__"

/-- Accepts fields that the signature allows; a field too many is complained about first. -/
def accept (s : Signature) (given : Fields) : Except Mistyped Fields :=
  match given.names.find? fun name => !s.fieldNames.contains name with
  | some name => .error (.extraField s.maker name)
  | none =>
    if (s.absent given).isEmpty then .ok given
    else .error (.absentFields s.maker (s.absent given))

/-- The fields of a payload value, which must be a record that the signature allows. -/
def fieldsOf (s : Signature) (given : Value) : Except Mistyped Fields :=
  match given with
  | .record fields => s.accept fields
  | _ => .error (.notFields s.title given)

/-- The fields that values are by their places; none may be left over, and no needed one missing. -/
def placed (s : Signature) (given : List Value) : Except Mistyped Fields :=
  let fields := s.fieldNames.zip given
  if s.fieldNames.length < given.length then
    .error (.extraPlaces s.title s.required.length s.fieldNames.length given.length)
  else if (s.absent fields).isEmpty then .ok fields
  else .error (.absentFields s.title (s.absent fields))

end Signature

end PgGrants
