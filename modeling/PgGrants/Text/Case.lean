/-
Full Unicode case mapping of texts. A character may become several: the upper case of the German
sharp s is `SS`, the lower case of a dotted capital I is an i with a combining dot. One map looks
at its neighbours: a capital sigma that ends a word becomes a final sigma.
-/
import PgGrants.Text.CaseTable

set_option autoImplicit false

namespace PgGrants.Text

/-- Where the run takes the code point, `none` when it is not one of the run's. -/
def CaseRun.map? (run : CaseRun) (code : Nat) : Option Nat :=
  if run.first ≤ code ∧ code ≤ run.last ∧ (code - run.first) % run.step = 0 then
    some (Int.toNat (code + run.shift))
  else none

/-- The character moved by the first run that holds it, itself when there is none. -/
def mapByRuns (runs : List CaseRun) (c : Char) : Char :=
  match runs.findSome? (·.map? c.toNat) with
  | some code => Char.ofNat code
  | none => c

/-! ## Upper case -/

/-- The upper case of one character. -/
def upperChar (c : Char) : List Char :=
  match upperExpansions.lookup c.toNat with
  | some codes => codes.map Char.ofNat
  | none => [mapByRuns upperRuns c]

/-- The upper case of a text, character by character. -/
def upperChars (cs : List Char) : List Char := cs.flatMap upperChar

/-- The upper case of a text. -/
def upper (s : String) : String := String.ofList (upperChars s.toList)

/-! ## Lower case -/

/-- The lower case of one character that is not a capital sigma. -/
def lowerChar (c : Char) : List Char :=
  if c = '\u0130' then ['i', '\u0307'] else [mapByRuns lowerRuns c]

/-- The nearest character that is not passed over has a case. -/
def startsCased (cs : List Char) : Bool :=
  match cs.dropWhile (inRanges caseIgnorableRanges) with
  | [] => false
  | c :: _ => inRanges casedRanges c

/-- The lower case of a capital sigma: final when a cased character comes before it and none after.
-/
def lowerSigma (before after : List Char) : Char :=
  if startsCased before && !startsCased after then '\u03C2' else '\u03C3'

/-- The lower case of `cs` after the characters `before`, which are given from right to left. -/
def lowerCharsAfter (before : List Char) : List Char → List Char
  | [] => []
  | c :: rest =>
    (if c = '\u03A3' then [lowerSigma before rest] else lowerChar c) ++
      lowerCharsAfter (c :: before) rest

/-- The lower case of a text, each capital sigma by its place. -/
def lowerChars (cs : List Char) : List Char := lowerCharsAfter [] cs

/-- The lower case of a text. -/
def lower (s : String) : String := String.ofList (lowerChars s.toList)

end PgGrants.Text
