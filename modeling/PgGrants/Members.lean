/-
Sets that payloads give. Mostly their members are texts; where there is something else among them,
the members are kept as they are given, each once.
-/
import PgGrants.TextSet
import PgGrants.Value.Order

set_option autoImplicit false

namespace PgGrants

/-- A set of payload values. -/
inductive Members where
  /-- Every member is a text. -/
  | texts (members : TextSet)
  /-- Some member is no text; each stands once. -/
  | mixed (members : List Value)

namespace Members

/-- The values, each once, where it stands first. -/
def distinct (values : List Value) : List Value :=
  values.foldl (fun kept v => if kept.any v.same then kept else kept ++ [v]) []

/-- The set of the values; lists and records are refused. -/
def ofList (values : List Value) : Except Mistyped Members :=
  match values.find? fun v => !v.canBeMember with
  | some v => .error (.notMember v)
  | none =>
    match values.mapM Value.text? with
    | some members => .ok (.texts (.ofList members))
    | none => .ok (.mixed (distinct values))

/-- The set of what a payload value holds. -/
def ofValue (given : Value) : Except Mistyped Members := do ofList (← given.iterate)

/-- The set has no member. -/
def isEmpty : Members → Bool
  | .texts members => members.isEmpty
  | .mixed _ => false

/-- The members, texts in ascending order. -/
def values : Members → List Value
  | .texts members => members.toList.map Value.text
  | .mixed members => members

/-- Both sets have the same members. -/
def same (s t : Members) : Bool :=
  match s, t with
  | .texts l, .texts m => l == m
  | .mixed l, .mixed m => l.length == m.length && l.all fun v => m.any v.same
  | _, _ => false

/-- Accepts members that can be brought into an order. -/
def checkOrder : Members → Except Mistyped Unit
  | .texts _ => .ok ()
  | .mixed members => do
    let _ ← Value.sorted members

end Members

end PgGrants
