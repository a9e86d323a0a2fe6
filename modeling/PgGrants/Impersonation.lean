/-
Temporary memberships. Changing the privileges on an object takes the rights of its owner; a
connecting role that is no superuser gets them by joining the owning roles while the work runs.

Only memberships that were not there before are granted, and exactly those are taken back, newest
first, whether the work succeeds or fails and also when a later role cannot be joined. Joining and
the work run in a savepoint each, so that memberships can be taken back after a failed statement.
-/
import PgGrants.Catalog

set_option autoImplicit false

namespace PgGrants

namespace Session

/-- The names of the roles, each once: neither absent nor empty ones, nor PUBLIC. -/
def candidates (roles : List (Option String)) : List String :=
  (roles.filterMap id).foldl
    (fun names name =>
      if Role.isPublic name || names.contains name then names else names ++ [name]) []

variable {σ α : Type} [Server σ]

/-! ## Joining roles -/

/-- The user has to join the role: another role, which exists, is no superuser, and does not have
the user as a member yet. -/
def mustJoin (user : Option String) (role : String) : Session σ Bool := do
  if some role = user then return false
  match ← lookUpRole role with
  | none => throw (.notFound "role" role)
  | some identity =>
    if identity.isSuperuser then return false
    return !(← isMember role user).isSet

/-- Makes the role leave the user, when it is a member. -/
def leave (user : Option String) (role : String) : Session σ Bool := do
  if (← isMember user role).isSet then
    revokeRole user role
    return true
  return false

/-- Joins the roles one after the other, up to the first failure. What was changed is known in
either case. -/
def join (user : Option String) : List String → Scope → Talk σ (Except Error Unit × Scope)
  | [], scope => return (.ok (), scope)
  | role :: rest, scope => do
    match ← (mustJoin user role).run with
    | .error error => return (.error error, scope)
    | .ok false => join user rest scope
    | .ok true =>
      -- No role can join one that is its own member, so the role leaves the user first.
      match ← (leave user role).run with
      | .error error => return (.error error, scope)
      | .ok left =>
        let scope := if left then { scope with reversed := scope.reversed ++ [role] } else scope
        match ← (grantRole role user).run with
        | .error error => return (.error error, scope)
        | .ok _ => join user rest { scope with granted := scope.granted ++ [role] }

/-- Joins the roles inside a savepoint. -/
def joinInSavepoint (user : Option String) (names : List String) :
    Talk σ (Except Error Unit × Scope) := do
  match ← enterSavepoint.run with
  | .error error => return (.error error, .ofUser user)
  | .ok _ =>
    let (joined, scope) ← join user names (.ofUser user)
    return (← (leaveSavepoint joined).run, scope)

/-! ## Handing back -/

/-- Takes the memberships of the user back. -/
def handBack (user : Option String) : List String → Session σ Unit
  | [] => return
  | role :: rest => do
    revokeRole role user
    handBack user rest

/-- Makes the roles that still exist members of the user again. -/
def restore (user : Option String) : List String → Session σ Unit
  | [] => return
  | role :: rest => do
    if ← hasRole role then grantRole user role
    restore user rest

/-- Undoes the changes: takes the memberships of the user back, newest first, then restores those
that were in the way. -/
def undo (user : Option String) (scope : Scope) : Session σ Unit := do
  handBack user scope.granted.reverse
  restore user scope.reversed

/-- Undoes the changes after a failure; when that fails too, neither failure is lost. -/
def undoAfter (user : Option String) (scope : Scope) (earlier : Error) : Session σ Unit := do
  match ← attempt (undo user scope) with
  | .ok _ => return
  | .error cause => throw (.notUndoneAfter scope.granted user earlier cause)

/-! ## Work with memberships -/

/-- Starts the work, with these memberships changed. -/
def start (scope : Scope) (work : Session σ α) : Session σ α := do
  record (.started scope)
  work

/-- Does the work while the user is a member of the roles. -/
def asMember (user : Option String) (names : List String) (work : Session σ α) : Session σ α := do
  let (joined, scope) ← ExceptT.lift (joinInSavepoint user names)
  match joined with
  | .error error =>
    undoAfter user scope error
    throw (if error.isNotFound then error else .notJoined names user error)
  | .ok _ =>
    match ← attempt (savepoint (start scope work)) with
    | .error error =>
      undoAfter user scope error
      throw error
    | .ok result =>
      match ← attempt (undo user scope) with
      | .ok _ => return result
      | .error cause => throw (.notUndone scope.granted user cause)

/-- Does the work while the connecting role is a member of the roles; a superuser needs no
membership, and neither does work that names no role. -/
def asMemberOf (roles : List (Option String)) (work : Session σ α) : Session σ α := do
  let names := candidates roles
  if names.isEmpty then start .untouched work
  else
    let user ← connectingRole
    match ← lookUpRole user with
    | some identity =>
      if identity.isSuperuser then start (.ofUser user) work else asMember user names work
    | none => asMember user names work

end Session

end PgGrants
