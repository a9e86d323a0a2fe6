/-
What one role holds on one object: privileges, and the grant options among them. A grant option
without its privilege cannot be built, and joining two holdings keeps that so; whether two holdings
are of one role is decided by the role key.
-/
import PgGrants.Privilege
import PgGrants.Role

set_option autoImplicit false

namespace PgGrants

/-- The privileges of a role, observed or declared. -/
structure Holding where
  /-- The role as spelt; a holding without a role is one of PUBLIC. -/
  role : Option String
  privileges : TextSet
  /-- The privileges that the role may grant on. -/
  grantOptions : TextSet
  options_subset : grantOptions ⊆ privileges
deriving DecidableEq

namespace Holding

/-- The role key. -/
def key (h : Holding) : String := Role.key (Role.orPublic h.role)

/-- The holding is that of PUBLIC. -/
def isPublic (h : Holding) : Bool := Role.isPublic (Role.orPublic h.role)

/-- The role as messages show it. -/
def shownRole (h : Holding) : String := Role.shownName (Role.orPublic h.role)

/-- The privileges held without grant option. -/
def plain (h : Holding) : TextSet := h.privileges \ h.grantOptions

/-- The role holds nothing. -/
def none (role : Option String) : Holding := ⟨role, ∅, ∅, fun _ hx => hx⟩

/-- A holding from normal tokens; the complaint lists the grant options without their privilege. -/
def ofSets (role : Option String) (privileges grantOptions : TextSet) : Except Invalid Holding :=
  if h : grantOptions ⊆ privileges then .ok ⟨role, privileges, grantOptions, h⟩
  else
    .error (.grantOptionsNotHeld (grantOptions \ privileges)
      (Role.shownName (Role.orPublic role)))

/-- Both holdings have the same privileges with the same grant options. -/
def sameRights (h k : Holding) : Bool :=
  h.privileges == k.privileges && h.grantOptions == k.grantOptions

/-! ## Joining -/

/-- The privileges and grant options of either holding, under the first one's spelling of the role.
-/
def join (h k : Holding) : Holding where
  role := h.role
  privileges := h.privileges ∪ k.privileges
  grantOptions := h.grantOptions ∪ k.grantOptions
  options_subset := fun x hx => by
    rw [TextSet.mem_union] at hx ⊢
    exact hx.imp (h.options_subset x) (k.options_subset x)

@[simp] theorem key_join (h k : Holding) : (h.join k).key = h.key := rfl

/-- Holdings of two roles that are to be joined as if they were of one. -/
structure Mismatch where
  /-- The role whose holding was to be joined. -/
  other : Option String
  into : Option String

/-- The text of the complaint. -/
def Mismatch.message (m : Mismatch) : String :=
  "Cannot merge privileges of role " ++ (Value.ofName m.other).literal ++ " into " ++
    (Value.ofName m.into).literal

/-- The join of two holdings of one role. -/
def merge (h k : Holding) : Except Mismatch Holding :=
  if k.key = h.key then .ok (h.join k) else .error ⟨k.role, h.role⟩

end Holding

end PgGrants
