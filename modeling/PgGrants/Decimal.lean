/-
Real numbers as payloads write them: a sign, digits and a power of ten. Two readings are needed, the
text that a message shows and the whole part.
-/

set_option autoImplicit false

namespace PgGrants

/-- The number `± digits · 10 ^ exponent`. -/
structure Decimal where
  negative : Bool
  digits : Nat
  exponent : Int
deriving DecidableEq, Repr

namespace Decimal

/-- The number is zero. -/
def isZero (d : Decimal) : Bool := d.digits == 0

/-- The number is one. -/
def isOne (d : Decimal) : Bool :=
  !d.negative &&
    (if 0 ≤ d.exponent then d.digits * Nat.pow 10 d.exponent.toNat == 1
     else d.digits == Nat.pow 10 (-d.exponent).toNat)

/-- The digits without the zeros they end in, and how many zeros that were; `fuel` bounds the count.
-/
def trimZeros : Nat → Nat → Nat × Nat
  | 0, n => (n, 0)
  | fuel + 1, n =>
    if n ≠ 0 ∧ n % 10 = 0 then
      let (m, k) := trimZeros fuel (n / 10)
      (m, k + 1)
    else (n, 0)

/-- The same number with the fewest digits. -/
def normal (d : Decimal) : Decimal :=
  if d.isZero then { d with exponent := 0 }
  else
    let (digits, zeros) := trimZeros (Nat.toDigits 10 d.digits).length d.digits
    { d with digits := digits, exponent := d.exponent + zeros }

/-- Positional notation ends below `10 ^ 16` and begins at `10 ^ (-4)`. -/
def isPositional (point : Int) : Bool := decide (-4 < point) && decide (point ≤ 16)

/-- The digits with a point after the first `point` of them, filled up with zeros on either side. -/
def positional (digits : List Char) (point : Int) : List Char :=
  if point ≤ 0 then
    '0' :: '.' :: (List.replicate (-point).toNat '0' ++ digits)
  else
    let whole := point.toNat
    if digits.length ≤ whole then
      digits ++ List.replicate (whole - digits.length) '0' ++ ['.', '0']
    else digits.take whole ++ '.' :: digits.drop whole

/-- An exponent with its sign and at least two digits. -/
def exponentText (e : Int) : List Char :=
  let digits := Nat.toDigits 10 e.natAbs
  (if e < 0 then '-' else '+') :: (List.replicate (2 - digits.length) '0' ++ digits)

/-- One digit, a point when more follow, and the power of ten. -/
def scientific (digits : List Char) (point : Int) : List Char :=
  let fraction := digits.drop 1
  digits.take 1 ++ (if fraction.isEmpty then [] else '.' :: fraction) ++
    'e' :: exponentText (point - 1)

/-- The number as a message shows it: positional with a point in it where that is short, else with a
power of ten. -/
def literal (d : Decimal) : String :=
  let n := d.normal
  let digits := Nat.toDigits 10 n.digits
  let point : Int := digits.length + n.exponent
  let body :=
    if n.isZero then ['0', '.', '0']
    else if isPositional point then positional digits point
    else scientific digits point
  String.ofList (if d.negative then '-' :: body else body)

/-- The whole number nearest to `n` among those with at most `53` significant bits, ties to even. -/
def roundBits (n : Nat) : Nat :=
  -- The bits beyond the first 53 are dropped, half a unit going to the even neighbour.
  let drop := n.log2 + 1 - 53
  let unit := Nat.pow 2 drop
  let low := n / unit
  let rest := n % unit
  if unit < 2 * rest ∨ (2 * rest = unit ∧ low % 2 = 1) then (low + 1) * unit else low * unit

/-- The size of the whole part, the digits after the point being cut off. -/
def whole (d : Decimal) : Nat :=
  if 0 ≤ d.exponent then d.digits * Nat.pow 10 d.exponent.toNat
  else d.digits / Nat.pow 10 (-d.exponent).toNat

/-- The whole part, toward zero. From `2 ^ 53` on it is rounded to a binary double, since between
two doubles there is no number to be told apart. -/
def truncate (d : Decimal) : Int :=
  let magnitude := if d.whole < Nat.pow 2 53 then d.whole else roundBits d.whole
  if d.negative then -(magnitude : Int) else magnitude

/-- The number as a whole number and a power of ten to multiply it with. From `2 ^ 53` on the number
is whole. -/
def scaled (d : Decimal) : Int × Int :=
  if d.whole < Nat.pow 2 53 then (if d.negative then -(d.digits : Int) else d.digits, d.exponent)
  else (d.truncate, 0)

end Decimal

end PgGrants
