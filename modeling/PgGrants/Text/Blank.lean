/-
Blank characters, trimming and words. The class is the wide one: the blanks of every script, the
four information separators U+001C to U+001F and the line and paragraph separators, twenty-nine
characters in all. A zero-width space and a byte order mark are not blanks.
-/
import PgGrants.Text.CodeRange

set_option autoImplicit false

namespace PgGrants.Text

/-- Code point ranges of the blanks, in ascending order. -/
def blankRanges : List CodeRange := [
  (0x0009, 0x000D), (0x001C, 0x0020), (0x0085, 0x0085), (0x00A0, 0x00A0), (0x1680, 0x1680),
  (0x2000, 0x200A), (0x2028, 0x2029), (0x202F, 0x202F), (0x205F, 0x205F), (0x3000, 0x3000)]

/-- The character separates words. -/
def isBlank (c : Char) : Bool := inRanges blankRanges c

/-- The characters without those at either end that satisfy `p`. -/
def trimWhile (p : Char → Bool) (cs : List Char) : List Char :=
  ((cs.dropWhile p).reverse.dropWhile p).reverse

/-- The text without the blanks at either end. -/
def strip (s : String) : String := String.ofList (trimWhile isBlank s.toList)

/-- The word at the very front, possibly empty, and the words after it. -/
def splitFront : List Char → List Char × List (List Char)
  | [] => ([], [])
  | c :: rest =>
    let (word, others) := splitFront rest
    if isBlank c then ([], if word.isEmpty then others else word :: others)
    else (c :: word, others)

/-- The words of a text: its longest runs without blanks, in order. -/
def words (cs : List Char) : List (List Char) :=
  let (word, others) := splitFront cs
  if word.isEmpty then others else word :: others

/-- The text with its words joined by one space, and no blank at either end. -/
def squeeze (s : String) : String :=
  String.ofList ((words s.toList).intersperse [' ']).flatten

end PgGrants.Text
