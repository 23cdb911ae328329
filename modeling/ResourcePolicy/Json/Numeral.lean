import ResourcePolicy.Json.Basic

/-!
# Numerals

A numeral is an optional minus, decimal digits without a superfluous leading zero, an optional
fraction and an optional exponent. Its digits are gathered into a significand of sixty-four
bits. A numeral without fraction and exponent whose value fits a sixty-four bit integer,
unsigned or negative, is a whole number. Any other becomes a float: the significand is rounded
and then scaled by a power of ten, each operation rounding to nearest.
-/

namespace ResourcePolicy

/-- A numeral as written, digits by their values. -/
structure Numeral where
  negative : Bool
  whole : List Nat
  fraction : Option (List Nat)
  exponent : Option Int
deriving DecidableEq

namespace Numeral

/-- Cuts off the leading digits and gives their values. -/
def cutDigits (chars : List Char) : List Nat × List Char :=
  ((chars.takeWhile Char.isDigit).map fun c => c.toNat - '0'.toNat, chars.dropWhile Char.isDigit)

/-- Cuts off a given first character, if it is there. -/
def cutMark (isMark : Char → Bool) : List Char → Bool × List Char
  | [] => (false, [])
  | c :: rest => if isMark c then (true, rest) else (false, c :: rest)

/-- The number written by some digits. -/
def ofDigits (digits : List Nat) : Nat := digits.foldl (fun value digit => value * 10 + digit) 0

/-- Reads the digits before the point, of which there is at least one; a leading zero stands
alone. -/
def cutWhole? (chars : List Char) : Option (List Nat × List Char) :=
  match cutDigits chars with
  | ([], _) => none
  | (0 :: _ :: _, _) => none
  | (digits, rest) => some (digits, rest)

/-- Reads a fraction, a point and at least one digit, if a point comes next. -/
def cutFraction? (chars : List Char) : Option (Option (List Nat) × List Char) :=
  match cutMark (· == '.') chars with
  | (false, rest) => some (none, rest)
  | (true, rest) =>
    match cutDigits rest with
    | ([], _) => none
    | (digits, rest) => some (some digits, rest)

/-- Reads an exponent, a mark with an optional sign and at least one digit, if a mark comes
next. -/
def cutExponent? (chars : List Char) : Option (Option Int × List Char) :=
  match cutMark (fun c => c == 'e' || c == 'E') chars with
  | (false, rest) => some (none, rest)
  | (true, rest) =>
    let (negative, unsigned) := cutMark (· == '-') rest
    let (_, digits) := if negative then (true, unsigned) else cutMark (· == '+') rest
    match cutDigits digits with
    | ([], _) => none
    | (digits, rest) => some (some (if negative then -ofDigits digits else ofDigits digits), rest)

/-- Reads a numeral that takes up the whole text. -/
def ofChars? (chars : List Char) : Option Numeral := do
  let (negative, chars) := cutMark (· == '-') chars
  let (whole, chars) ← cutWhole? chars
  let (fraction, chars) ← cutFraction? chars
  let (exponent, chars) ← cutExponent? chars
  if chars.isEmpty then some { negative, whole, fraction, exponent } else none

/-- One more than the largest significand. -/
def significandLimit : Nat := Nat.pow 2 64

/-- Appends digits to a significand until one would make it reach the limit; the digits from
there on are handed back. -/
def absorb : Nat → List Nat → Nat × List Nat
  | significand, [] => (significand, [])
  | significand, digit :: rest =>
    if significand * 10 + digit < significandLimit then absorb (significand * 10 + digit) rest
    else (significand, digit :: rest)

/-- The significand of a numeral and its power of ten. Each digit before the point that is left
out raises the power by one, each digit after the point that is taken in lowers it by one. -/
def scaled (n : Numeral) : Nat × Int :=
  let (front, leftOut) := absorb 0 n.whole
  let fraction := n.fraction.getD []
  let (significand, ignored) := absorb front fraction
  (significand, leftOut.length - (fraction.length - ignored.length) + n.exponent.getD 0)

/-- The largest power of ten that is a float. -/
def largestPower : Nat := 308

/-- Ten to a natural power, rounded to a float. -/
def tenTo (power : Nat) : Float := Float.ofScientific 1 false power

/-- A non-negative float times a power of ten, or nothing if the product is out of range. A
power beyond the floats is applied in several divisions, until nothing is left to divide. -/
def scale (x : Float) (power : Int) : Option Float :=
  if power.natAbs ≤ largestPower then
    if 0 ≤ power then
      let product := x * tenTo power.natAbs
      if product.isInf then none else some product
    else some (x / tenTo power.natAbs)
  else if x == 0 then some x
  else if 0 ≤ power then none
  else scale (x / tenTo largestPower) (power + largestPower)
termination_by power.natAbs
decreasing_by simp only [largestPower] at *; omega

/-- The float of a numeral, if it is in range. -/
def float? (n : Numeral) : Option Float := do
  let (significand, power) := n.scaled
  let magnitude ← scale significand.toUInt64.toFloat power
  return if n.negative then -magnitude else magnitude

/-- The whole number of a numeral, if it is one. A negative zero is none. -/
def int? (n : Numeral) : Option Int :=
  match n.fraction, n.exponent, absorb 0 n.whole with
  | none, none, (value, []) =>
    if !n.negative then some value
    else if 0 < value ∧ value ≤ Nat.pow 2 63 then some (-value)
    else none
  | _, _, _ => none

/-- The number that a numeral denotes, if it is in range. -/
def number? (n : Numeral) : Option Number :=
  match n.int? with
  | some value => some (.int value)
  | none => n.float?.map .float

end Numeral

end ResourcePolicy
