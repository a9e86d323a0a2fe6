/-
Role names. Roles are told apart by a key: the name without blanks around it and in lower case, the
word `public` and the empty name being the same key, that of the implicit role PUBLIC. Where a name
may be absent, the absent one is PUBLIC's as well.
-/
import PgGrants.Mistyped
import PgGrants.Text.Case

set_option autoImplicit false

namespace PgGrants

namespace Role

/-- The key of the implicit role PUBLIC. -/
def publicKey : String := ""

/-- The key by which declarations and access control items of one role are brought together. -/
def key (role : String) : String :=
  let folded := Text.lower (Text.strip role)
  if folded = "public" then publicKey else folded

/-- The name denotes the implicit role PUBLIC. -/
def isPublic (role : String) : Bool := key role == publicKey

/-- The name as messages show it. -/
def shownName (role : String) : String := if isPublic role then "PUBLIC" else role

/-- The name, that of PUBLIC when it is absent. -/
def orPublic (role : Option String) : String := role.getD publicKey

/-- The role name a payload value stands for: whatever counts as false is the empty name, and only
texts can be names. -/
def nameOfValue (v : Value) : Except Mistyped String :=
  if v.isTrue then
    match v with
    | .text s => .ok s
    | _ => .error (.noName v)
  else .ok publicKey

end Role

/-- A role as the server knows it. PUBLIC has the object identifier zero. -/
structure ServerRole where
  /-- The name, unless the server gives none. -/
  name : Option String
  oid : Int
  isSuperuser : Bool
deriving DecidableEq, Repr

namespace ServerRole

/-- The identity that every spelling of PUBLIC has. -/
def publicRole : ServerRole := ⟨some "public", 0, false⟩

/-- The key of the role's name. -/
def key (identity : ServerRole) : String := Role.key (Role.orPublic identity.name)

end ServerRole

end PgGrants
