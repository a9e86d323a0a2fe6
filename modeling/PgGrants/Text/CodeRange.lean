/-
Character classes given as ranges of code points. A class of a standard is data: a list of closed
ranges in ascending order, and a character belongs to it when its code point lies in one of them.
-/

set_option autoImplicit false

namespace PgGrants.Text

/-- A closed range of code points, given by its first and its last one. -/
abbrev CodeRange := Nat × Nat

/-- The code point of `c` lies in one of the ranges. -/
def inRanges (ranges : List CodeRange) (c : Char) : Bool :=
  ranges.any fun (lo, hi) => decide (lo ≤ c.toNat) && decide (c.toNat ≤ hi)

theorem inRanges_eq_true_iff {ranges : List CodeRange} {c : Char} :
    inRanges ranges c = true ↔ ∃ r ∈ ranges, r.1 ≤ c.toNat ∧ c.toNat ≤ r.2 := by
  simp [inRanges]

end PgGrants.Text
