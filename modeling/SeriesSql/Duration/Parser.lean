import SeriesSql.Duration.Basic
import SeriesSql.Text.Blank

/-!
# Reading a duration

A duration is a list of items that add up, each a count with an optional decimal fraction and a
unit.  Blanks may stand anywhere but inside a unit.  Counts, their products with the unit and the
seconds of the sum have to fit in 64 bits, and a fraction has to come out as a whole number: of
nanoseconds for the units below the hour, of seconds for the others.
-/

namespace SeriesSql.Duration

def Unit.ofName? : String → Option Unit
  | "nanos" | "nsec" | "ns" => some nanosecond
  | "usec" | "us" | "µs" => some microsecond
  | "millis" | "msec" | "ms" => some millisecond
  | "seconds" | "second" | "secs" | "sec" | "s" => some second
  | "minutes" | "minute" | "min" | "mins" | "m" => some minute
  | "hours" | "hour" | "hr" | "hrs" | "h" => some hour
  | "days" | "day" | "d" => some day
  | "weeks" | "week" | "wk" | "wks" | "w" => some week
  | "months" | "month" | "M" => some month
  | "years" | "year" | "yr" | "yrs" | "y" => some year
  | _ => none

/-- `n`, if it fits in 64 bits. -/
def word? (n : Nat) : Option Nat :=
  if n < 18446744073709551616 then some n else none

def digitValue (c : Char) : Nat :=
  c.toNat - '0'.toNat

/-! ## Sums -/

/-- `total` and `nanos` more nanoseconds. -/
def addNanos? (total nanos : Nat) : Option Nat := do
  let _ ← word? (total % nanosPerSecond + nanos)
  let _ ← word? ((total + nanos) / nanosPerSecond)
  return total + nanos

def addSeconds? (total seconds : Nat) : Option Nat := do
  let _ ← word? (total / nanosPerSecond + seconds)
  return total + seconds * nanosPerSecond

/-- `numerator / denominator` of `scale`, if it is a whole number. -/
def share? (scale numerator denominator : Nat) : Option Nat := do
  let scaled ← word? (numerator * scale)
  if scaled % denominator = 0 then some (scaled / denominator) else none

/-- `total` and `count` more units. -/
def addCount? (total count : Nat) (unit : Unit) : Option Nat :=
  match unit.seconds?, unit.nanos? with
  | some seconds, _ => do addSeconds? total (← word? (count * seconds))
  | none, some nanos => do addNanos? total (← word? (count * nanos))
  | none, none => none

/-- `total` and a fraction of a unit more; there is no fraction of a nanosecond. -/
def addFraction? (total numerator denominator : Nat) (unit : Unit) : Option Nat :=
  match unit, unit.nanos?, unit.seconds? with
  | .nanosecond, _, _ => none
  | _, some nanos, _ => do addNanos? total (← share? nanos numerator denominator)
  | _, none, some seconds => do addSeconds? total (← share? seconds numerator denominator)
  | _, none, none => none

/-! ## Items -/

/-- The digits and blanks at the start of `cs` as a number that starts with `value`. -/
def readCount? (value : Nat) : List Char → Option (Nat × List Char)
  | [] => some (value, [])
  | c :: cs =>
    if c.isDigit then do readCount? (← word? (value * 10 + digitValue c)) cs
    else if Text.isBlank c then readCount? value cs
    else some (value, c :: cs)

/-- The digits and blanks at the start of `cs` as a fraction. -/
def readFraction? (numerator denominator : Nat) : List Char → Option ((Nat × Nat) × List Char)
  | [] => some ((numerator, denominator), [])
  | c :: cs =>
    if c.isDigit then do
      readFraction? (← word? (numerator * 10 + digitValue c)) (← word? (denominator * 10)) cs
    else if Text.isBlank c then readFraction? numerator denominator cs
    else some ((numerator, denominator), c :: cs)

def isUnitChar (c : Char) : Bool :=
  c.isAlpha || c == 'µ'

/-- Adds the item that starts with the digit `first` to `total`. -/
def readItem? (total : Nat) (first : Char) (cs : List Char) : Option (Nat × List Char) := do
  let (count, cs) ← readCount? (digitValue first) cs
  let (fraction, cs) ←
    match cs with
    | '.' :: cs => do
      let (fraction, cs) ← readFraction? 0 1 cs
      if fraction.2 = 1 then none else some (some fraction, cs)
    | cs => some (none, cs)
  let unit ← Unit.ofName? (String.ofList (cs.takeWhile isUnitChar))
  let total ← addCount? total count unit
  let total ←
    match fraction with
    | none => some total
    | some (numerator, denominator) => addFraction? total numerator denominator unit
  return (total, cs.dropWhile isUnitChar)

/-- Adds all items of `cs` to `total`; every item takes at least two characters. -/
def readItems? : (fuel total : Nat) → List Char → Option Nat
  | fuel, total, cs =>
    match cs.dropWhile Text.isBlank with
    | [] => some total
    | c :: cs =>
      match fuel with
      | 0 => none
      | fuel + 1 =>
        if c.isDigit then do
          let (total, rest) ← readItem? total c cs
          readItems? fuel total rest
        else
          none

/-- The nanoseconds of a duration; zero needs no unit. -/
def parse? (text : List Char) : Option Nat :=
  if text = ['0'] then some 0
  else if text.all Text.isBlank then none
  else readItems? text.length 0 text

end SeriesSql.Duration
