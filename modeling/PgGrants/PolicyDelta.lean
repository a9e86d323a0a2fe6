/-
The difference between two policies, role by role. Every role key of either policy falls into
exactly one of four classes, and within a class the roles stand in ascending order of their keys.
-/
import PgGrants.Policy

set_option autoImplicit false

namespace PgGrants

/-- How the holding of one role changes. -/
inductive RoleChange where
  | dropped (old : Holding)
  | added (new : Holding)
  | updated (old new : Holding)
  | unchanged (new : Holding)

namespace RoleChange

/-- The change from one holding to another, when there is either. -/
def ofHoldings? : Option Holding → Option Holding → Option RoleChange
  | none, none => none
  | some old, none => some (.dropped old)
  | none, some new => some (.added new)
  | some old, some new =>
    if old.sameRights new then some (.unchanged new) else some (.updated old new)

/-- What a role held that is no longer there. -/
def dropped? : RoleChange → Option Holding
  | .dropped old => some old
  | _ => none

/-- What a new role holds. -/
def added? : RoleChange → Option Holding
  | .added new => some new
  | _ => none

/-- What a role held and what it holds now, when these differ. -/
def updated? : RoleChange → Option (Holding × Holding)
  | .updated old new => some (old, new)
  | _ => none

/-- What a role holds as before. -/
def unchanged? : RoleChange → Option Holding
  | .unchanged new => some new
  | _ => none

end RoleChange

/-- The roles of two policies, by how their holdings change. -/
structure PolicyDelta where
  /-- The holdings of roles that only the old policy has. -/
  dropped : List Holding
  /-- The holdings of roles that only the new policy has. -/
  added : List Holding
  /-- The old and the new holdings of roles that change. -/
  updated : List (Holding × Holding)
  /-- The new holdings of roles that do not change. -/
  unchanged : List Holding

namespace PolicyDelta

/-- The change of every role, in ascending order of the keys. -/
def changes (old new : Policy) : List RoleChange :=
  (old.keys ∪ new.keys).toList.filterMap fun key =>
    RoleChange.ofHoldings? (old.find? key) (new.find? key)

/-- The difference between two policies. -/
def ofPolicies (old new : Policy) : PolicyDelta where
  dropped := (changes old new).filterMap RoleChange.dropped?
  added := (changes old new).filterMap RoleChange.added?
  updated := (changes old new).filterMap RoleChange.updated?
  unchanged := (changes old new).filterMap RoleChange.unchanged?

/-- No role changes. -/
def isEmpty (delta : PolicyDelta) : Bool :=
  delta.dropped.isEmpty && delta.added.isEmpty && delta.updated.isEmpty

end PolicyDelta

end PgGrants
