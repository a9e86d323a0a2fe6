/-
Plans: the statements that lead from what is held to what is declared. Everything that is taken away
is taken away before anything is given, so that a plan can also leave a role with less.
-/
import PgGrants.Catalog
import PgGrants.Declaration.DefaultPrivileges
import PgGrants.Declaration.Grant
import PgGrants.Declaration.Membership
import PgGrants.PolicyDelta

set_option autoImplicit false

namespace PgGrants

/-! ## Policies -/

namespace Holding

/-- A statement about privileges of the holding's role on one object. -/
def statement (h : Holding) (direction : Direction) (kind : ObjectKind) (name : Option String)
    (privileges : TextSet) (grantOption : Bool) : Statement :=
  .privilege {
    direction := direction
    kind := kind
    role := h.role
    privileges := privileges.toList.map some
    schema := .none
    objects := [name]
    grantOption := grantOption }

/-- Takes everything that is held away; nothing is said about a role that holds nothing. -/
def revokes (h : Holding) (kind : ObjectKind) (name : Option String) : List Statement :=
  if h.privileges.isEmpty then [] else [h.statement .revoke kind name h.privileges false]

/-- Gives what is held, first the privileges without grant option, then those with it. -/
def grants (h : Holding) (kind : ObjectKind) (name : Option String) : List Statement :=
  (if h.plain.isEmpty then [] else [h.statement .grant kind name h.plain false]) ++
    if h.grantOptions.isEmpty then [] else [h.statement .grant kind name h.grantOptions true]

end Holding

namespace PolicyDelta

/-- The statements that take away: for dropped roles, then for roles that change. -/
def revokes (delta : PolicyDelta) (kind : ObjectKind) (name : Option String) : List Statement :=
  delta.dropped.flatMap (·.revokes kind name) ++ delta.updated.flatMap (·.1.revokes kind name)

/-- The statements that give: to new roles, then to roles that change. -/
def grants (delta : PolicyDelta) (kind : ObjectKind) (name : Option String) : List Statement :=
  delta.added.flatMap (·.grants kind name) ++ delta.updated.flatMap (·.2.grants kind name)

/-- The statements that lead from the old policy of one object to the new one. -/
def statements (delta : PolicyDelta) (kind : ObjectKind) (name : Option String) : List Statement :=
  delta.revokes kind name ++ delta.grants kind name

/-- The dropped holdings whose roles are still there. PUBLIC always is; every other role is asked
about, in order. -/
def stillThere {m : Type → Type} [Monad m] (exists? : Option String → m Bool) :
    List Holding → m (List Holding)
  | [] => return []
  | h :: rest => do
    let kept ← if h.isPublic then pure true else exists? h.role
    let others ← stillThere exists? rest
    return if kept then h :: others else others

/-- The plan for the policy of one object. Nothing is revoked from a dropped role that no longer
exists. -/
def plan {m : Type → Type} [Monad m] (delta : PolicyDelta) (kind : ObjectKind)
    (name : Option String) (exists? : Option String → m Bool) : m (List Statement) := do
  let dropped ← stillThere exists? delta.dropped
  return { delta with dropped := dropped }.statements kind name

end PolicyDelta

/-! ## Grants and default privileges -/

/-- The privileges that a statement lists for declared ones: none when all are declared. -/
def Privilege.listed (privileges : TextSet) : List String :=
  if privileges.contains Privilege.all then [] else privileges.toList

/-- Takes everything away by statements of one form, then gives what is declared, unless that is
nothing. -/
def Privilege.replace (statement : Direction → List String → Flag → Statement)
    (privileges : TextSet) (grantOption : Flag) : List Statement :=
  [statement .revoke [] .off] ++
    if privileges.isEmpty then [] else [statement .grant (listed privileges) grantOption]

namespace DeclaredGrant

/-- A statement about the grant. -/
def statement (declared : DeclaredGrant) (direction : Direction) (privileges : List String)
    (grantOption : Flag) : Statement :=
  .privilege {
    direction := direction
    kind := declared.kind
    role := declared.role
    privileges := privileges.map some
    schema := declared.targetSchema
    objects := declared.targets.map some
    grantOption := grantOption }

/-- Takes away everything that the role holds on the targets. -/
def revokePlan (declared : DeclaredGrant) : List Statement := [declared.statement .revoke [] .off]

/-- Takes away everything that the role holds on the targets, then gives what is declared. -/
def plan (declared : DeclaredGrant) : List Statement :=
  Privilege.replace declared.statement declared.privileges declared.grantOption

end DeclaredGrant

namespace DeclaredDefaults

/-- A statement about the default privileges. -/
def statement (declared : DeclaredDefaults) (direction : Direction) (privileges : List String)
    (grantOption : Flag) : Statement :=
  .defaultPrivilege {
    direction := direction
    owner := declared.owner
    kind := declared.kind
    role := declared.role
    privileges := privileges.map some
    schema := declared.schema
    grantOption := grantOption }

/-- Takes away everything that the role gets on future objects. -/
def revokePlan (declared : DeclaredDefaults) : List Statement :=
  [declared.statement .revoke [] .off]

/-- Takes away everything that the role gets on future objects, then gives what is declared. -/
def plan (declared : DeclaredDefaults) : List Statement :=
  Privilege.replace declared.statement declared.privileges declared.grantOption

end DeclaredDefaults

/-! ## Memberships and owners -/

namespace DeclaredMembership

/-- Ends the membership. -/
def revokeStatement (declared : DeclaredMembership) : Statement :=
  .membership {
    direction := .revoke
    role := declared.role
    grantRole := declared.grantRole
    adminOption := .off }

/-- Makes the membership. -/
def grantStatement (declared : DeclaredMembership) : Statement :=
  .membership {
    direction := .grant
    role := declared.role
    grantRole := declared.grantRole
    adminOption := declared.adminOption }

/-- Makes the membership anew. One that is there is ended first, so that an admin option can be
lost. -/
def plan (declared : DeclaredMembership) (observed : Option Standing) : List Statement :=
  (if observed.any Standing.isMember then [declared.revokeStatement] else []) ++
    [declared.grantStatement]

end DeclaredMembership

/-- Hands a schema over to its declared owner, unless it already is the owner or none is declared.
-/
def OwnerChange.plan (schema owner observed : Option String) : List Statement :=
  if owner.isNone || owner == observed then []
  else [.schemaOwner { schema := schema, owner := owner, previousOwner := observed }]

end PgGrants
