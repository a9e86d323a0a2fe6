/-
Server versions. A version is a short list of numbers, compared place by place, a shorter one coming
before the ones it begins. It is read from the number that a server reports, or found in a text.
-/
import PgGrants.Text.Integer

set_option autoImplicit false

namespace PgGrants

/-- A server version, most significant part first. -/
structure Version where
  parts : List Int
deriving DecidableEq, Repr, Inhabited

namespace Version

instance : LT Version := ⟨fun v w => v.parts < w.parts⟩

instance (v w : Version) : Decidable (v < w) := inferInstanceAs (Decidable (v.parts < w.parts))

/-- The parts with dots between them. -/
def toText (v : Version) : String := String.intercalate "." (v.parts.map toString)

/-- The version of a reported number: from ten on `major * 10000 + minor`, before that
`major * 10000 + minor * 100 + patch`. -/
def ofNumber (n : Int) : Version :=
  let major := n.fdiv 10000
  let rest := n.fmod 10000
  if 10 ≤ major then ⟨[major, rest]⟩ else ⟨[major, rest.fdiv 100, rest.fmod 100]⟩

/-! ## Versions in text -/

/-- Why no version is found in a text. -/
inductive Fault where
  /-- There is no digit in the text. -/
  | absent
  /-- A part has too many digits. -/
  | tooLong (digits : Nat)
deriving DecidableEq, Repr

/-- Up to `count` rows of digits with single dots between them, from a text that starts with a
digit. -/
def digitRows : Nat → List Char → List (List Char)
  | 0, _ => []
  | count + 1, cs =>
    cs.takeWhile Text.isDigit ::
      match cs.dropWhile Text.isDigit with
      | '.' :: c :: rest => if Text.isDigit c then digitRows count (c :: rest) else []
      | _ => []

/-- The first version in the characters: at most three numbers from the first digit on. -/
def findIn (cs : List Char) : Except Fault Version :=
  match cs.dropWhile fun c => !Text.isDigit c with
  | [] => .error .absent
  | c :: rest =>
    match (digitRows 3 (c :: rest)).mapM Text.readRow with
    | .ok parts => .ok ⟨parts.map Int.ofNat⟩
    | .error count => .error (.tooLong count)

/-- The first version in a text. -/
def find (s : String) : Except Fault Version := findIn s.toList

end Version

end PgGrants
