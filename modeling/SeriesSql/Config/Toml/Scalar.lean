import SeriesSql.Config.Toml.Text
import SeriesSql.Config.Value
import SeriesSql.Decimal.Numeral

/-!
# Numbers, dates and truth values of TOML
-/

namespace SeriesSql.Config.Toml

/-! ## Numbers -/

/-- Digits, single underscores between them dropped. -/
def digits? (isDigit : Char → Bool) : List Char → Option (List Char)
  | [] => none
  | [c] => if isDigit c then some [c] else none
  | c :: '_' :: cs => if isDigit c then (digits? isDigit cs).map (c :: ·) else none
  | c :: cs => if isDigit c then (digits? isDigit cs).map (c :: ·) else none

/-- Digits without a needless zero in front. -/
def wholeDigits? (cs : List Char) : Option (List Char) :=
  match cs with
  | '0' :: _ :: _ => none
  | _ => digits? Char.isDigit cs

/-- Whether a minus stands in front, and what comes after the sign. -/
def splitSign : List Char → Bool × List Char
  | '-' :: cs => (true, cs)
  | '+' :: cs => (false, cs)
  | cs => (false, cs)

/-- An integer of 64 bits with its sign. -/
def bounded? (n : Int) : Option Value :=
  if -9223372036854775808 ≤ n ∧ n < 9223372036854775808 then some (.integer n) else none

def basedInteger? (base : Nat) (cs : List Char) : Option Value := do
  let isDigit (c : Char) : Bool := (hexValue? c).any (· < base)
  let values ← (← digits? isDigit cs).mapM hexValue?
  bounded? (values.foldl (fun n d => base * n + d) 0 : Nat)

def integer? : List Char → Option Value
  | '0' :: 'x' :: cs => basedInteger? 16 cs
  | '0' :: 'o' :: cs => basedInteger? 8 cs
  | '0' :: 'b' :: cs => basedInteger? 2 cs
  | cs => do
    let (negative, cs) := splitSign cs
    let n : Int := Decimal.digitsValue (← wholeDigits? cs)
    bounded? (if negative then -n else n)

/-- An exponent after its mark. -/
def exponent? (cs : List Char) : Option Int := do
  let (negative, cs) := splitSign cs
  let n : Int := Decimal.digitsValue (← digits? Char.isDigit cs)
  some (if negative then -n else n)

/-- The parts of a number with a point or an exponent, or none if it has neither. -/
def floatParts? (cs : List Char) : Option (List Char × List Char × Int) := do
  let isMark (c : Char) : Bool := c == 'e' || c == 'E'
  let mantissa := cs.takeWhile fun c => !isMark c
  let marked := cs.dropWhile fun c => !isMark c
  let whole ← wholeDigits? (mantissa.takeWhile (· != '.'))
  let fraction ←
    match mantissa.dropWhile (· != '.') with
    | [] => some []
    | _ :: digits => digits? Char.isDigit digits
  match marked with
  | [] => if fraction.isEmpty then none else some (whole, fraction, 0)
  | _ :: exponent => some (whole, fraction, ← exponent? exponent)

/-- A number that is too great for a double is an error. -/
def real? (cs : List Char) : Option Value :=
  let (negative, cs) := splitSign cs
  let signed (x : Float) : Float := if negative then -x else x
  match cs with
  | ['i', 'n', 'f'] => some (.real (signed (1.0 / 0.0)))
  | ['n', 'a', 'n'] => some (.real (signed (0.0 / 0.0)))
  | _ => do
    let (whole, fraction, exponent) ← floatParts? cs
    let x := signed (Decimal.nearest whole fraction exponent)
    if x == 1.0 / 0.0 then none else some (.real x)

/-! ## Dates and times -/

/-- The value of exactly `count` digits, and the text after them. -/
def fixedDigits? (count : Nat) (cs : List Char) : Option (Nat × List Char) :=
  let digits := cs.take count
  if digits.length = count ∧ digits.all Char.isDigit then
    some (Decimal.digitsValue digits, cs.drop count)
  else
    none

def expect? (c : Char) : List Char → Option (List Char)
  | d :: cs => if c = d then some cs else none
  | [] => none

def isLeapYear (year : Nat) : Bool :=
  year % 4 == 0 && (year % 100 != 0 || year % 400 == 0)

def daysInMonth (year month : Nat) : Nat :=
  if month = 2 then (if isLeapYear year then 29 else 28)
  else if month = 4 ∨ month = 6 ∨ month = 9 ∨ month = 11 then 30
  else 31

/-- The text after a date. -/
def afterDate? (cs : List Char) : Option (List Char) := do
  let (year, cs) ← fixedDigits? 4 cs
  let (month, cs) ← fixedDigits? 2 (← expect? '-' cs)
  let (day, cs) ← fixedDigits? 2 (← expect? '-' cs)
  if 1 ≤ month ∧ month ≤ 12 ∧ 1 ≤ day ∧ day ≤ daysInMonth year month then some cs else none

/-- The text after the hours and minutes of a time. -/
def afterMinutes? (cs : List Char) : Option (List Char) := do
  let (hour, cs) ← fixedDigits? 2 cs
  let (minute, cs) ← fixedDigits? 2 (← expect? ':' cs)
  if hour ≤ 23 ∧ minute ≤ 59 then some cs else none

/-- The text after a time of day, which may have leap seconds and parts of a second. -/
def afterTime? (cs : List Char) : Option (List Char) := do
  let (second, cs) ← fixedDigits? 2 (← expect? ':' (← afterMinutes? cs))
  if 60 < second then
    none
  else
    match cs with
    | '.' :: rest =>
      if (rest.takeWhile Char.isDigit).isEmpty then none else some (rest.dropWhile Char.isDigit)
    | _ => some cs

/-- Whether the text is a time of day, possibly with its distance from universal time. -/
def isZonedTime (cs : List Char) : Bool :=
  match afterTime? cs with
  | none => false
  | some [] => true
  | some ['Z'] => true
  | some ['z'] => true
  | some (sign :: offset) => (sign == '+' || sign == '-') && afterMinutes? offset == some []

/-- A date, a date with a time, or a time. -/
def isDate (cs : List Char) : Bool :=
  match afterDate? cs with
  | some [] => true
  | some (separator :: time) => (separator == 'T' || separator == 't') && isZonedTime time
  | none => afterTime? cs == some []

/-! ## Scalars -/

/-- Characters of numbers, dates and truth values. -/
def isScalarChar (c : Char) : Bool :=
  c.isAlphanum || c == '+' || c == '-' || c == '_' || c == '.' || c == ':'

def scalar? (cs : List Char) : Option Value :=
  if cs = "true".toList then some (.bool true)
  else if cs = "false".toList then some (.bool false)
  else if isDate cs then some (.date (String.ofList cs))
  else (integer? cs).or (real? cs)

/-- A number, date or truth value.  One space may stand between a date and its time. -/
def readScalar (cs : List Char) : Option (Value × List Char) := do
  let word := cs.takeWhile isScalarChar
  let rest := cs.dropWhile isScalarChar
  let value ← scalar? word
  match rest with
  | ' ' :: after =>
    let time := after.takeWhile isScalarChar
    if afterDate? word = some [] ∧ isZonedTime time then
      some (.date (String.ofList (word ++ ' ' :: time)), after.dropWhile isScalarChar)
    else
      some (value, rest)
  | _ => some (value, rest)

end SeriesSql.Config.Toml
