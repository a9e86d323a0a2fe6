/-
Payload values. A declaration may arrive as any nesting of lists and records, and some of its fields
are kept as given; this is the type of what was given, with the few questions that are asked of it:
is it empty or false, what is it called, how does a message show it, and what does it hold.
-/
import PgGrants.Decimal
import PgGrants.Text.Integer
import PgGrants.Text.Quoted

set_option autoImplicit false

namespace PgGrants

/-- A payload value. A record keeps its fields in the order in which they are written. -/
inductive Value where
  | null
  | bool (b : Bool)
  | int (n : Int)
  | real (d : Decimal)
  | text (s : String)
  | list (items : List Value)
  | record (fields : List (String × Value))
deriving Inhabited

namespace Value

/-- Absence, false, zero and whatever is empty count as false. -/
def isTrue : Value → Bool
  | .null => false
  | .bool b => b
  | .int n => n != 0
  | .real d => !d.isZero
  | .text s => s != ""
  | .list items => !items.isEmpty
  | .record fields => !fields.isEmpty

/-- The name that messages give to the kind of value. -/
def typeName : Value → String
  | .null => "NoneType"
  | .bool _ => "bool"
  | .int _ => "int"
  | .real _ => "float"
  | .text _ => "str"
  | .list _ => "list"
  | .record _ => "dict"

mutual
/-- The value as messages show it. -/
def literal : Value → String
  | .null => "None"
  | .bool true => "True"
  | .bool false => "False"
  | .int n => toString n
  | .real d => d.literal
  | .text s => Text.quoted s
  | .list items => "[" ++ String.intercalate ", " (literals items) ++ "]"
  | .record fields => "\x7b" ++ String.intercalate ", " (fieldLiterals fields) ++ "\x7d"

/-- Each item as messages show it. -/
def literals : List Value → List String
  | [] => []
  | item :: rest => literal item :: literals rest

/-- Each field as messages show it: the name in quotes, a colon, the value. -/
def fieldLiterals : List (String × Value) → List String
  | [] => []
  | (name, value) :: rest => (Text.quoted name ++ ": " ++ literal value) :: fieldLiterals rest
end

/-- The value as plain text: a text is itself, anything else as messages show it. -/
def plain : Value → String
  | .text s => s
  | v => v.literal

/-- The text, when the value is one. -/
def text? : Value → Option String
  | .text s => some s
  | _ => none

/-- The value is this text. -/
def isText (text : String) : Value → Bool
  | .text s => s == text
  | _ => false

/-- The value of a name that may be absent. -/
def ofName : Option String → Value
  | some name => .text name
  | none => .null

/-- The name in a value; null is no name. -/
def name? : Value → Option String
  | .null => none
  | v => some v.plain

/-- The value is the truth value `b`, as a truth value or as the number one or zero. -/
def equalsBool (b : Bool) : Value → Bool
  | .bool c => b == c
  | .int n => n == if b then 1 else 0
  | .real d => if b then d.isOne else d.isZero
  | _ => false

/-- What the value holds one after the other: the items of a list, the characters of a text, the
field names of a record. Nothing else can be gone through. -/
def items? : Value → Option (List Value)
  | .list items => some items
  | .text s => some (s.toList.map fun c => .text (String.singleton c))
  | .record fields => some (fields.map fun field => .text field.1)
  | _ => none

/-- Lists and records cannot be members of a set. -/
def canBeMember : Value → Bool
  | .list _ => false
  | .record _ => false
  | _ => true

end Value

end PgGrants
