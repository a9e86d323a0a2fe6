/-
Whole numbers in text: blanks around them, an optional sign, and decimal digits of any script with
single underscores between them. Leading zeros are allowed, but the digits are limited in number;
nothing else is a number.
-/
import PgGrants.Text.Blank
import PgGrants.Text.Digit

set_option autoImplicit false

namespace PgGrants.Text

/-- The blanks allowed around a number: all but the four information separators. -/
def isNumberBlank (c : Char) : Bool :=
  isBlank c && !(decide (0x1C ≤ c.toNat) && decide (c.toNat ≤ 0x1F))

/-! ## Rows of digits -/

/-- The most digits that a number may be written with. -/
def maxDigits : Nat := 4300

/-- The number that a row of digits writes; fails with their number when there are too many. -/
def readRow (digits : List Char) : Except Nat Nat :=
  if digits.length ≤ maxDigits then .ok (digitsValue digits) else .error digits.length

/-! ## Numbers -/

/-- Why a text is not read as a whole number. -/
inductive IntegerFault where
  /-- The text writes no whole number. -/
  | malformed
  /-- The number has too many digits. -/
  | tooLong (digits : Nat)
deriving DecidableEq, Repr

/-- The digits at the front, each after at most one underscore, and what follows them; an underscore
stands before a digit. -/
def splitDigits : List Char → Option (List Char × List Char)
  | [] => some ([], [])
  | '_' :: c :: rest =>
    if isDigit c then (splitDigits rest).map fun (digits, others) => (c :: digits, others)
    else none
  | c :: rest =>
    if isDigit c then (splitDigits rest).map fun (digits, others) => (c :: digits, others)
    else if c = '_' then none
    else some ([], c :: rest)

/-- The digits of a number, at least one, without the single underscores between them, and what
follows the number. -/
def numeral : List Char → Option (List Char × List Char)
  | [] => none
  | c :: rest =>
    if isDigit c then (splitDigits rest).map fun (digits, others) => (c :: digits, others)
    else none

/-- The sign, which is negative or not, with the numeral after it. -/
def signedNumeral : List Char → Option (Bool × List Char × List Char)
  | '-' :: rest => (numeral rest).map fun parts => (true, parts)
  | '+' :: rest => (numeral rest).map fun parts => (false, parts)
  | cs => (numeral cs).map fun parts => (false, parts)

/-- The whole number a text writes. Its digits are counted before what follows them is looked at. -/
def readInteger (s : String) : Except IntegerFault Int :=
  match signedNumeral (s.toList.dropWhile isNumberBlank) with
  | none => .error .malformed
  | some (negative, digits, others) =>
    match readRow digits with
    | .error count => .error (.tooLong count)
    | .ok n =>
      if others.all isNumberBlank then .ok (if negative then -(n : Int) else n)
      else .error .malformed

end PgGrants.Text
