/-!
# Shortest decimal digits of a double

A finite double other than zero is `mantissa * 2 ^ exponent`.  The reals that round to it form an
interval around it, whose ends belong to it when the mantissa is even.  Its shortest digits are the
fewest significant decimal digits that lie in that interval; of two candidates with equally many
digits the nearer one is taken.  Which one is taken when both are equally near is left to the
caller.

All comparisons are made on natural numbers, over a common denominator.
-/

namespace SeriesSql.Decimal

/-- A positive number as `0.d₁d₂…dₙ * 10 ^ point`, where `d₁` is not zero. -/
structure Digits where
  digits : List Nat
  point : Int
deriving Repr, DecidableEq

/-- Which of two equally near candidates is taken. -/
inductive Tie where
  | up
  | even
deriving Repr, DecidableEq

/-- A double, taken apart. -/
inductive Double where
  | nan
  | infinite (negative : Bool)
  | zero (negative : Bool)
  | finite (negative : Bool) (mantissa : Nat) (exponent : Int)
deriving Repr, DecidableEq

/-- The leading bit of a mantissa, which is not stored. -/
def hiddenBit : Nat := 4503599627370496

/-- The parts of the double with the given bits. -/
def Double.ofBits (bits : UInt64) : Double :=
  let n := bits.toNat
  let negative := decide (9223372036854775808 ≤ n)
  let biased := n / hiddenBit % 2048
  let fraction := n % hiddenBit
  if biased = 2047 then
    if fraction = 0 then .infinite negative else .nan
  else if biased = 0 then
    if fraction = 0 then .zero negative else .finite negative fraction (-1074)
  else
    .finite negative (hiddenBit + fraction) (Int.ofNat biased - 1075)

/-- The interval of the numbers that round to a double, over one denominator: the number itself is
`value / unit`, the ends are `low / unit` and `high / unit`. -/
structure Rounding where
  low : Nat
  value : Nat
  high : Nat
  unit : Nat
  closed : Bool

namespace Rounding

/-- The neighbour below a power of two is half as far away as the one above, unless it is
subnormal. -/
def ofParts (mantissa : Nat) (exponent : Int) : Rounding :=
  let below := if mantissa = hiddenBit ∧ exponent ≠ -1074 then 1 else 2
  let up := Nat.pow 2 (exponent - 2).toNat
  { low := (4 * mantissa - below) * up
    value := 4 * mantissa * up
    high := (4 * mantissa + 2) * up
    unit := Nat.pow 2 (2 - exponent).toNat
    closed := mantissa % 2 = 0 }

/-- Whether `n / d` rounds to the double. -/
def contains (r : Rounding) (n d : Nat) : Bool :=
  let x := n * r.unit
  if r.closed then r.low * d ≤ x && x ≤ r.high * d else r.low * d < x && x < r.high * d

/-- The power of ten with `10 ^ (point - 1) ≤ value / unit < 10 ^ point`. -/
def point (r : Rounding) : Int :=
  if r.unit ≤ r.value then
    (Nat.toDigits 10 (r.value / r.unit)).length
  else
    let places := (Nat.toDigits 10 (r.unit / r.value)).length
    if r.value * Nat.pow 10 (places - 1) = r.unit then 2 - places else 1 - places

/-- The number of `count` significant digits nearest to the value that rounds to the double, as a
numerator over `10 ^ (count - point)`. -/
def candidate? (r : Rounding) (tie : Tie) (point : Int) (count : Nat) : Option Nat :=
  let up := Nat.pow 10 (count - point).toNat
  let down := Nat.pow 10 (point - count).toNat
  let lower := r.value * up / (r.unit * down)
  let upper := lower + 1
  let fits (n : Nat) : Bool := r.contains (n * down) up
  -- Twice the distance of the value from `lower`, against the distance of the two candidates.
  let doubled := 2 * (r.value * up - lower * (r.unit * down))
  let takeUpper :=
    match tie with
    | .up => decide (r.unit * down ≤ doubled)
    | .even => r.unit * down < doubled || r.unit * down == doubled && upper % 2 == 0
  if fits lower then
    if fits upper && takeUpper then some upper else some lower
  else if fits upper then
    some upper
  else
    none

/-- Tries `count`, `count + 1`, ... digits; 17 digits always suffice. -/
def search (r : Rounding) (tie : Tie) (point : Int) : (fuel count : Nat) → Nat × Nat
  | 0, count => (r.value, count)
  | fuel + 1, count =>
    match r.candidate? tie point count with
    | some n => (n, count)
    | none => search r tie point fuel (count + 1)

end Rounding

/-- The decimal digits of `n`, without zeros at the end. -/
def significant (n : Nat) : List Nat :=
  (((Nat.toDigits 10 n).map fun c => c.toNat - '0'.toNat).reverse.dropWhile (· == 0)).reverse

/-- The shortest digits of `mantissa * 2 ^ exponent`. -/
def shortest (tie : Tie) (mantissa : Nat) (exponent : Int) : Digits :=
  let r := Rounding.ofParts mantissa exponent
  let (n, count) := r.search tie r.point 17 1
  -- Rounding up can carry into a further place.
  let carried := (Nat.toDigits 10 n).length - count
  { digits := significant n, point := r.point + carried }

end SeriesSql.Decimal
