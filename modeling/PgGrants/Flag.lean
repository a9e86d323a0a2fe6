/-
Flags of declarations. A declaration may give a flag as any value; it is tested for truth, and
reported the way it was given.
-/
import PgGrants.Value

set_option autoImplicit false

namespace PgGrants

/-- A truth value together with the form in which it was given. -/
structure Flag where
  given : Value
deriving Inhabited

namespace Flag

/-- The flag given as a plain truth value. -/
def ofBool (b : Bool) : Flag := ⟨.bool b⟩

/-- The flag that was not raised. -/
def off : Flag := ofBool false

/-- The flag as a truth value. -/
def isSet (flag : Flag) : Bool := flag.given.isTrue

instance : Coe Bool Flag := ⟨ofBool⟩

@[simp] theorem isSet_ofBool (b : Bool) : (ofBool b).isSet = b := rfl

end Flag

end PgGrants
