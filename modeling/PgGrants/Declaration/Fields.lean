/-
The fields of a declaration. A payload is opened by the rules of its kind of declaration: it is a
record, it has no field that the declaration does not know, and it has every field that must be
given. Names are texts and not empty; what else a field may hold is said by each declaration.
-/
import PgGrants.Payload

set_option autoImplicit false

namespace PgGrants

namespace Declaration

/-- The fields of a payload. The first complaint is about fields that the declaration does not know,
the second about fields that are not given. -/
def fields (d : Declaration) (payload : Value) : Except Invalid Fields :=
  match payload with
  | .record given =>
    let unknown := TextSet.ofList (Fields.names given) \ .ofList d.signature.fieldNames
    let missing := TextSet.ofList (d.signature.absent given)
    if !unknown.isEmpty then .error (.unknownFields d unknown)
    else if !missing.isEmpty then .error (.missingFields d missing)
    else .ok given
  | _ => .error (.notRecord d payload)

/-- The fields with which a declaration is made directly. -/
def arguments (d : Declaration) (given : Value) : Except Mistyped Fields :=
  d.signature.fieldsOf given

/-- The name in a field: a text that is not empty. -/
def nameIn (given : Value) (what : String) : Except Invalid String :=
  match given with
  | .text name => if name = "" then .error (.emptyName what) else .ok name
  | _ => .error (.emptyName what)

/-- Complains unless the condition holds. -/
def ensure (condition : Bool) (complaint : Invalid) : Except Invalid Unit :=
  if condition then .ok () else .error complaint

/-- The kind of object that a field names, and the normal privilege tokens that another one gives.
-/
def kindAndPrivileges (given : Fields) : Except Error (ObjectKind × TextSet) := do
  let kind ← (ObjectKind.ofValue (given.given "object_type")).mapError .invalid
  let privileges ← (Privilege.normalizeValue (given.get "privileges" (.list []))).mapError .mistyped
  return (kind, privileges)

end Declaration

end PgGrants
