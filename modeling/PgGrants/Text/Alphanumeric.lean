/-
Letters and numbers of every script: the characters a role name may consist of without quotes.
-/
import PgGrants.Text.AlphanumericTable

set_option autoImplicit false

namespace PgGrants.Text

/-- The character is a letter or has a numeric value, in any script. -/
def isAlphanumeric (c : Char) : Bool := inRanges alphanumericRanges c

end PgGrants.Text
