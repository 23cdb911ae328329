/-!
# The decimal text of a float

A finite double-precision float is plus or minus a natural significand times a power of two, and
the two parts are read off the sixty-four bits. It is written with its shortest decimal: the one
with the fewest digits among those that read back as that float. A decimal reads back when it lies
in the interval that rounds to the float: half-way to each neighbour, the ends included iff the
significand is even. Among shortest decimals the nearest is taken, and of two that are equally
near the one whose last digit is even. With the value written as `0.d₁d₂… · 10 ^ point`, plain
notation is used while the point lies in a fixed window, always with a decimal point and a digit
on both sides of it; outside the window the exponent is written out with its sign.
-/

namespace ResourcePolicy

/-! ## Floats as integers -/

/-- The magnitude `significand · 2 ^ exponent` of a finite float. -/
structure Binary where
  significand : Nat
  exponent : Int
deriving DecidableEq, Repr

namespace Binary

/-- The least exponent, shared by the subnormal floats and the smallest normal ones. -/
def leastExponent : Int := -1074

/-- The leading bit of a normal significand, which is not among the fifty-two stored ones. -/
def hiddenBit : Nat := Nat.pow 2 52

/-- The magnitude of a finite float: eleven bits of biased exponent over fifty-two bits of
fraction, with a hidden leading bit unless the biased exponent is zero. -/
def ofFloat (x : Float) : Binary :=
  let fraction := x.toBits.toNat % hiddenBit
  let biased := x.toBits.toNat / hiddenBit % Nat.pow 2 11
  if biased = 0 then ⟨fraction, leastExponent⟩
  else ⟨hiddenBit + fraction, leastExponent + biased - 1⟩

/-- Whether the next smaller magnitude is only half as far away as the next larger one, as it
is at a power of two. -/
def lowerGapIsHalved (b : Binary) : Bool :=
  b.significand = hiddenBit && leastExponent < b.exponent

end Binary

/-- Whether the sign bit of a float is set, as it is for `-0.0`. -/
def signBit (x : Float) : Bool := Nat.pow 2 63 ≤ x.toBits.toNat

/-! ## Shortest decimals -/

/-- The number `digits · 10 ^ exponent`. -/
structure Decimal where
  digits : Nat
  exponent : Int
deriving DecidableEq, Repr

namespace Decimal

/-- The interval of reals that round to a magnitude, measured on the decimal grid of step
`10 ^ exponent`: the grid point `d` stands at `d * step`. -/
structure GridInterval where
  low : Nat
  center : Nat
  high : Nat
  step : Nat
  closed : Bool

/-- The rounding interval of a magnitude, in quarters of its unit so that both half-way ends
are whole, over a common denominator with the grid. -/
def gridInterval (b : Binary) (exponent : Int) : GridInterval :=
  let quarterExponent := b.exponent - 2
  let unit := Nat.pow 2 quarterExponent.toNat * Nat.pow 10 (-exponent).toNat
  { low := (4 * b.significand - if b.lowerGapIsHalved then 1 else 2) * unit
    center := 4 * b.significand * unit
    high := (4 * b.significand + 2) * unit
    step := Nat.pow 2 (-quarterExponent).toNat * Nat.pow 10 exponent.toNat
    closed := b.significand % 2 = 0 }

/-- Whether a grid point lies in the interval. -/
def GridInterval.contains (interval : GridInterval) (point : Nat) : Bool :=
  let position := point * interval.step
  if interval.closed then interval.low ≤ position && position ≤ interval.high
  else interval.low < position && position < interval.high

/-- The grid point of the interval that is nearest to its center, a tie going to the even
point. Only the two points around the center have to be tried: if any grid point lies in the
interval, one of them does. -/
def GridInterval.nearest? (interval : GridInterval) : Option Nat :=
  let below := interval.center / interval.step
  let remainder := interval.center % interval.step
  match interval.contains below, interval.contains (below + 1) with
  | false, false => none
  | true, false => some below
  | false, true => some (below + 1)
  | true, true =>
    if 2 * remainder < interval.step then some below
    else if interval.step < 2 * remainder then some (below + 1)
    else if below % 2 = 0 then some below else some (below + 1)

/-- A power of ten above the magnitude, from `log₁₀ 2 ≈ 0.30103`. -/
def exponentAbove (b : Binary) : Int :=
  (b.exponent + b.significand.log2 + 1) * 30103 / 100000 + 2

/-- The shortest decimal of a positive magnitude. The grids are tried from coarse to fine;
seventeen significant digits always suffice. -/
def shortest (b : Binary) : Decimal :=
  let tries := (List.range 22).map fun (fineness : Nat) => exponentAbove b - fineness
  let hit := tries.findSome? fun exponent =>
    (gridInterval b exponent).nearest?.map (Decimal.mk · exponent)
  hit.getD ⟨b.significand, b.exponent⟩

end Decimal

/-! ## Texts -/

/-- The window of points for plain notation. -/
structure FloatWindow where
  above : Int
  upTo : Int

/-- Plain notation reaches from `0.00001` up to sixteen digits before the point. -/
def FloatWindow.standard : FloatWindow := ⟨-5, 16⟩

namespace Decimal

/-- A run of zeros. -/
def zeros (count : Int) : String := String.ofList (List.replicate count.toNat '0')

/-- Digits with the decimal point after the first `point` of them, filled up with zeros. -/
def plainText (digits : List Char) (point : Int) : String :=
  if point ≤ 0 then "0." ++ zeros (-point) ++ String.ofList digits
  else if digits.length ≤ point then String.ofList digits ++ zeros (point - digits.length) ++ ".0"
  else
    String.ofList (digits.take point.toNat) ++ "." ++ String.ofList (digits.drop point.toNat)

/-- Digits with the decimal point after the first of them, followed by the exponent. -/
def exponentText (digits : List Char) (point : Int) : String :=
  let lead := String.ofList (digits.take 1)
  let tail := digits.drop 1
  let mantissa := if tail.isEmpty then lead else lead ++ "." ++ String.ofList tail
  let sign := if 0 < point then "+" else "-"
  mantissa ++ "e" ++ sign ++ toString (point - 1).natAbs

/-- The text of a positive decimal. -/
def text (window : FloatWindow) (d : Decimal) : String :=
  let digits := (toString d.digits).toList
  let point := digits.length + d.exponent
  if window.above < point ∧ point ≤ window.upTo then plainText digits point
  else exponentText digits point

end Decimal

/-- The text of a finite float; zero is `0.0`, and the sign bit is shown as a minus. -/
def floatText (x : Float) : String :=
  let magnitude := Binary.ofFloat x
  let unsigned :=
    if magnitude.significand = 0 then "0.0"
    else (Decimal.shortest magnitude).text FloatWindow.standard
  if signBit x then "-" ++ unsigned else unsigned

end ResourcePolicy
