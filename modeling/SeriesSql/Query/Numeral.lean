import SeriesSql.Decimal.Numeral
import SeriesSql.Decimal.Shortest

/-!
# Numbers and durations of the query language

A numeral that starts with `0x` is hexadecimal and one that starts with another zero is octal,
unless it holds a point or one of the digits 8 and 9.  A duration has years, weeks, days, hours,
minutes, seconds and milliseconds, each at most once and in this order.
-/

namespace SeriesSql.Query

/-! ## Numbers -/

def hexDigit? (c : Char) : Option Nat :=
  if c.isDigit then some (c.toNat - '0'.toNat)
  else if 'a' ≤ c ∧ c ≤ 'f' then some (c.toNat - 'a'.toNat + 10)
  else if 'A' ≤ c ∧ c ≤ 'F' then some (c.toNat - 'A'.toNat + 10)
  else none

def octalDigit? (c : Char) : Option Nat :=
  if '0' ≤ c ∧ c ≤ '7' then some (c.toNat - '0'.toNat) else none

/-- The value of digits in a base, if it is a signed 64-bit integer. -/
def readInteger? (base : Nat) (digit? : Char → Option Nat) (cs : List Char) : Option Float := do
  let digits ← cs.mapM digit?
  let value := digits.foldl (fun value d => base * value + d) 0
  if cs.isEmpty || decide (9223372036854775808 ≤ value) then none else some (Float.ofNat value)

/-- The value of a numeral. -/
def readNumber? : List Char → Option Float
  | '0' :: 'x' :: digits => readInteger? 16 hexDigit? digits
  | '0' :: 'X' :: digits => readInteger? 16 hexDigit? digits
  | '0' :: c :: rest =>
    if (c :: rest).any fun d => d == '.' || d == '8' || d == '9' then
      Decimal.read? ('0' :: c :: rest)
    else
      readInteger? 8 octalDigit? (c :: rest)
  | cs => Decimal.read? cs

/-! ## Durations -/

/-- The place of a unit in the order of units and its milliseconds. -/
def unit? : List Char → Option (Nat × Nat)
  | ['y'] => some (0, 31536000000)
  | ['w'] => some (1, 604800000)
  | ['d'] => some (2, 86400000)
  | ['h'] => some (3, 3600000)
  | ['m'] => some (4, 60000)
  | ['s'] => some (5, 1000)
  | ['m', 's'] => some (6, 1)
  | _ => none

/-- The milliseconds of the items in `cs`, whose units must come at the place `least` or after it.
A count that needs more than 32 bits counts as zero. -/
def durationItems? : (fuel : Nat) → (least : Nat) → List Char → Option Nat
  | _, _, [] => some 0
  | 0, _, _ => none
  | fuel + 1, least, cs => do
    let count := cs.takeWhile Char.isDigit
    let rest := cs.dropWhile Char.isDigit
    let (place, millis) ← unit? (rest.takeWhile Char.isAlpha)
    if count.isEmpty || decide (place < least) then
      none
    else
      let value := Decimal.digitsValue count
      let others ← durationItems? fuel (place + 1) (rest.dropWhile Char.isAlpha)
      some ((if value < 4294967296 then value * millis else 0) + others)

/-- The nanoseconds of a duration, which must not be zero. -/
def readDuration? (cs : List Char) : Option Nat := do
  let millis ← durationItems? cs.length 0 cs
  if millis = 0 then none else some (1000000 * millis)

/-- The seconds of a duration as a number. -/
def durationSeconds (nanos : Nat) : Float :=
  Float.ofNat (nanos / 1000000000) + Float.ofNat (nanos % 1000000000) / 1000000000.0

/-- `numerator / denominator` rounded to the nearest integer, a half to the even one. -/
def roundQuotient (numerator denominator : Nat) : Nat :=
  let quotient := numerator / denominator
  let twice := 2 * (numerator % denominator)
  if twice < denominator ∨ (twice = denominator ∧ quotient % 2 = 0) then quotient else quotient + 1

/-- A number of seconds in nanoseconds, if its whole seconds fit in 64 bits. -/
def secondsDuration? (seconds : Float) : Option Nat :=
  match Decimal.Double.ofBits seconds.toBits with
  | .zero _ => some 0
  | .finite false mantissa exponent =>
    let nanos :=
      roundQuotient (mantissa * Nat.pow 2 exponent.toNat * 1000000000) (Nat.pow 2 (-exponent).toNat)
    if nanos / 1000000000 < 18446744073709551616 then some nanos else none
  | _ => none

end SeriesSql.Query
