/-
Declared memberships: a role shall be a member of another. PUBLIC takes no part in memberships, and
no role is a member of itself.
-/
import PgGrants.Declaration.Fields
import PgGrants.Identifier

set_option autoImplicit false

namespace PgGrants

/-- A membership as it was asked for. -/
structure MembershipRequest where
  role : Value
  grantRole : Value
  adminOption : Flag

/-- A membership that keeps the rules. -/
structure DeclaredMembership where
  /-- The member. -/
  role : String
  /-- The role that it joins. -/
  grantRole : String
  adminOption : Flag

namespace MembershipRequest

/-- The request that fields make. -/
def ofFields (given : Fields) : MembershipRequest where
  role := given.given "role"
  grantRole := given.given "grant_role"
  adminOption := given.flag "with_admin_option"

/-- The request made directly with fields. -/
def ofArguments (given : Value) : Except Error MembershipRequest :=
  return ofFields (← (Declaration.membership.arguments given).mapError .mistyped)

/-- The membership, when the request keeps the rules, or the first complaint. -/
def check (r : MembershipRequest) : Except Invalid DeclaredMembership := do
  let role ← Declaration.nameIn r.role "role"
  let grantRole ← Declaration.nameIn r.grantRole "grant_role"
  Declaration.ensure (!(Role.isPublic role || Role.isPublic grantRole)) .publicMembership
  Declaration.ensure (Role.key role != Role.key grantRole) (.selfMembership role)
  return { role := role, grantRole := grantRole, adminOption := r.adminOption }

end MembershipRequest

namespace DeclaredMembership

/-- The membership that a payload declares. -/
def ofPayload (payload : Value) : Except Error DeclaredMembership := do
  let given ← (Declaration.membership.fields payload).mapError .invalid
  (MembershipRequest.ofFields given).check.mapError .invalid

/-- The identifier of the membership. -/
def id (declared : DeclaredMembership) : String :=
  Identifier.membership declared.role declared.grantRole declared.adminOption.isSet

end DeclaredMembership

end PgGrants
