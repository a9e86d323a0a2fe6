/-
Equality and order of payload values. Numbers are compared with numbers, however they are written,
texts with texts by code point, and lists with lists at the first place where they differ. Other
values have no common order, and asking for one is a complaint about the two.

Sorting asks whether a later item comes before an earlier one: first along the run with which the
items begin, then, for each further item, by halving what is sorted already.
-/
import PgGrants.Mistyped

set_option autoImplicit false

namespace PgGrants.Value

/-! ## Numbers -/

/-- The value as a number, `m * 10 ^ e` given as `m` and `e`. Truth values are one and zero. -/
def number? : Value → Option (Int × Int)
  | .bool b => some (if b then 1 else 0, 0)
  | .int n => some (n, 0)
  | .real d => some d.scaled
  | _ => none

/-- Two numbers as multiples of the smaller power of ten. -/
def aligned (a b : Int × Int) : Int × Int :=
  let least := min a.2 b.2
  (a.1 * Int.pow 10 (a.2 - least).toNat, b.1 * Int.pow 10 (b.2 - least).toNat)

/-- Both values are numbers, and they are equal. -/
def sameNumber (v w : Value) : Bool :=
  match v.number?, w.number? with
  | some a, some b => (aligned a b).1 == (aligned a b).2
  | _, _ => false

/-! ## Equality -/

mutual
/-- The values are equal. The fields of a record have no order. -/
def same : Value → Value → Bool
  | .null, .null => true
  | .text s, .text t => s == t
  | .list l, .list m => sameItems l m
  | .record l, .record m => l.length == m.length && sameFields l m
  | v, w => sameNumber v w

/-- The items are equal, place by place. -/
def sameItems : List Value → List Value → Bool
  | [], [] => true
  | v :: l, w :: m => same v w && sameItems l m
  | _, _ => false

/-- Every one of the fields is among the others, with an equal value. -/
def sameFields : List (String × Value) → List (String × Value) → Bool
  | [], _ => true
  | (name, v) :: rest, others =>
    (match others.lookup name with
      | some w => same v w
      | none => false) && sameFields rest others
end

/-! ## Order -/

mutual
/-- The first value comes before the second. -/
def isLess : Value → Value → Except Mistyped Bool
  | .text s, .text t => .ok (decide (s < t))
  | .list l, .list m => isLessList l m
  | v, w =>
    match v.number?, w.number? with
    | some a, some b => .ok (decide ((aligned a b).1 < (aligned a b).2))
    | _, _ => .error (.notOrdered v w)

/-- The first list comes before the second. -/
def isLessList : List Value → List Value → Except Mistyped Bool
  | _, [] => .ok false
  | [], _ :: _ => .ok true
  | v :: l, w :: m => if same v w then isLessList l m else isLess v w
end

/-! ## Sorting -/

/-- The items that continue a run after `last`, falling or not, and those after the run. -/
def runAfter (falling : Bool) (last : Value) :
    List Value → Except Mistyped (List Value × List Value)
  | [] => .ok ([], [])
  | v :: rest => do
    if (← isLess v last) = falling then
      let (run, others) ← runAfter falling v rest
      return (v :: run, others)
    else return ([], v :: rest)

/-- The halves of a list that is not empty are shorter than the list. -/
theorem length_halves {items above : List Value} {middle : Value}
    (h : items.drop (items.length / 2) = middle :: above) :
    (items.take (items.length / 2)).length < items.length ∧ above.length < items.length := by
  have := congrArg List.length h
  simp only [List.length_drop, List.length_cons, List.length_take] at *
  omega

/-- The sorted items with `v` at its place, behind those equal to it. -/
def place (items : List Value) (v : Value) : Except Mistyped (List Value) :=
  -- The middle item decides which half goes on.
  match h : items.drop (items.length / 2) with
  | [] => .ok [v]
  | middle :: above => do
    have := length_halves h
    if ← isLess v middle then
      return (← place (items.take (items.length / 2)) v) ++ middle :: above
    else return items.take (items.length / 2) ++ middle :: (← place above v)
termination_by items.length

/-- The items in ascending order, or the first two that have none. -/
def sorted : List Value → Except Mistyped (List Value)
  | [] => .ok []
  | [v] => .ok [v]
  | first :: second :: rest => do
    let falling ← isLess second first
    let (run, others) ← runAfter falling second rest
    let start := first :: second :: run
    others.foldlM place (if falling then start.reverse else start)

end PgGrants.Value
