/-
The memberships that are changed for the time of one piece of work: which roles the connecting role
was made a member of, and which roles were first made to leave it, since no role can join a role
that is a member of itself.
-/

set_option autoImplicit false

namespace PgGrants

/-- Memberships changed for one piece of work, in the order of the changes. -/
structure Scope where
  /-- The connecting role, when it had to be asked for and has a name. -/
  user : Option String
  /-- The roles that the connecting role joined. -/
  granted : List String
  /-- The roles that left the connecting role. -/
  reversed : List String
deriving DecidableEq, Repr

namespace Scope

/-- Nothing was asked and nothing changed. -/
def untouched : Scope := ⟨none, [], []⟩

/-- Nothing changed yet for this connecting role. -/
def ofUser (user : Option String) : Scope := ⟨user, [], []⟩

end Scope

end PgGrants
