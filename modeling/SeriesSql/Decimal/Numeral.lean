/-!
# Reading decimal numerals

A numeral has digits, possibly a point among them, and possibly an exponent.  Its value is the
double nearest to it, and infinite beyond the greatest double.
-/

namespace SeriesSql.Decimal

def digitsValue (digits : List Char) : Nat :=
  digits.foldl (fun value c => 10 * value + (c.toNat - '0'.toNat)) 0

/-- The double nearest to `whole.fraction · 10 ^ exponent`. -/
def nearest (whole fraction : List Char) (exponent : Int) : Float :=
  let digits := (whole ++ fraction).dropWhile (· == '0')
  let scale := exponent - fraction.length
  -- The value is below `10 ^ top` and not below `10 ^ (top - 1)`.
  let top := scale + digits.length
  if digits.isEmpty || decide (top < -330) then 0.0
  else if 310 < top then 1.0 / 0.0
  else Float.ofScientific (digitsValue digits) (decide (scale < 0)) scale.natAbs

/-- The exponent after its mark: a sign if there is one, and at least one digit. -/
def readExponent? (cs : List Char) : Option Int :=
  let (negative, digits) :=
    match cs with
    | '-' :: rest => (true, rest)
    | '+' :: rest => (false, rest)
    | _ => (false, cs)
  if digits.isEmpty || !digits.all Char.isDigit then none
  else some (if negative then -(digitsValue digits : Int) else digitsValue digits)

/-- The value of a numeral without a sign.  A digit must stand before or after the point. -/
def read? (cs : List Char) : Option Float :=
  let whole := cs.takeWhile Char.isDigit
  let rest := cs.dropWhile Char.isDigit
  let (fraction, rest) :=
    match rest with
    | '.' :: rest => (rest.takeWhile Char.isDigit, rest.dropWhile Char.isDigit)
    | _ => ([], rest)
  if whole.isEmpty && fraction.isEmpty then
    none
  else
    match rest with
    | [] => some (nearest whole fraction 0)
    | c :: rest =>
      if c == 'e' || c == 'E' then (readExponent? rest).map (nearest whole fraction) else none

end SeriesSql.Decimal
