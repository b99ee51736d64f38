import SeriesSql.Decimal.Shortest

/-!
# Text of a double

Every text of a double starts from its shortest digits.  A layout says which magnitudes are written
positionally, whether an integer keeps a `.0`, how the exponent is marked, which of two equally near
digit strings is taken, and what stands for the values that are no numbers.
-/

namespace SeriesSql.Decimal

/-- How the digits of a double are laid out.  A number is written positionally when its decimal
point lies between `least` and `most`; `none` sets no bound. -/
structure Layout where
  tie : Tie
  least : Option Int
  most : Option Int
  keepPoint : Bool
  exponentPlus : String
  nan : String
  infinity : String
  negativeInfinity : String

namespace Layout

/-- Never an exponent and no `.0`. -/
def plain : Layout :=
  { tie := .up, least := none, most := none, keepPoint := false, exponentPlus := ""
    nan := "NaN", infinity := "inf", negativeInfinity := "-inf" }

/-- Positional from `0.0001` up to `10 ^ 16`, integers with `.0`, exponents without a plus sign. -/
def literal : Layout :=
  { tie := .up, least := some (-3), most := some 16, keepPoint := true, exponentPlus := ""
    nan := "NaN", infinity := "inf", negativeInfinity := "-inf" }

/-- Positional from `0.00001` up to `10 ^ 16`, integers with `.0`, exponents with their sign, and
`null` for what is no number. -/
def json : Layout :=
  { tie := .even, least := some (-4), most := some 16, keepPoint := true, exponentPlus := "+"
    nan := "null", infinity := "null", negativeInfinity := "null" }

end Layout

def digitText (digits : List Nat) : String :=
  String.ofList (digits.map Nat.digitChar)

/-- `0.d₁d₂… * 10 ^ point` without an exponent. -/
def positional (keepPoint : Bool) (d : Digits) : String :=
  if d.point ≤ 0 then
    "0." ++ digitText (List.replicate (-d.point).toNat 0) ++ digitText d.digits
  else
    let whole := d.point.toNat
    let missing := whole - d.digits.length
    if d.digits.length ≤ whole then
      digitText d.digits ++ digitText (List.replicate missing 0) ++ (if keepPoint then ".0" else "")
    else
      digitText (d.digits.take whole) ++ "." ++ digitText (d.digits.drop whole)

/-- One digit, the others after a point, and the exponent. -/
def scientific (plus : String) (d : Digits) : String :=
  let exponent := d.point - 1
  let lead := digitText (d.digits.take 1)
  let tail := if d.digits.length ≤ 1 then "" else "." ++ digitText (d.digits.drop 1)
  lead ++ tail ++ "e" ++ (if 0 ≤ exponent then plus else "") ++ toString exponent

def Layout.digits (layout : Layout) (d : Digits) : String :=
  if layout.least.all (· ≤ d.point) && layout.most.all (d.point ≤ ·) then
    positional layout.keepPoint d
  else
    scientific layout.exponentPlus d

def Layout.render (layout : Layout) (x : Float) : String :=
  let sign (negative : Bool) := if negative then "-" else ""
  match Double.ofBits x.toBits with
  | .nan => layout.nan
  | .infinite negative => if negative then layout.negativeInfinity else layout.infinity
  | .zero negative => sign negative ++ (if layout.keepPoint then "0.0" else "0")
  | .finite negative mantissa exponent =>
    sign negative ++ layout.digits (shortest layout.tie mantissa exponent)

end SeriesSql.Decimal
