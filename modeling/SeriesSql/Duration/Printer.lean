import SeriesSql.Duration.Basic

/-!
# Text of a duration

Years, months, days, hours, minutes, seconds and milliseconds, the largest first; units that do not
occur are left out.
-/

namespace SeriesSql.Duration

/-- A count with its unit, or nothing for a count of zero. -/
def countText (count : Nat) (unit : String) : List String :=
  if count = 0 then [] else [toString count ++ unit]

/-- A unit that is written in full takes a plural. -/
def pluralText (count : Nat) (unit : String) : List String :=
  countText count (if count = 1 then unit else unit ++ "s")

/-- The parts of a duration of whole milliseconds. -/
def parts (millis : Nat) : List String :=
  let seconds := millis / 1000
  let inYear := seconds % 31557600
  let inMonth := inYear % 2630016
  let inDay := inMonth % 86400
  pluralText (seconds / 31557600) "year" ++
    pluralText (inYear / 2630016) "month" ++
    pluralText (inMonth / 86400) "day" ++
    countText (inDay / 3600) "h" ++
    countText (inDay % 3600 / 60) "m" ++
    countText (inDay % 60) "s" ++
    countText (millis % 1000) "ms"

def format (millis : Nat) : String :=
  if millis = 0 then "0s" else String.intercalate " " (parts millis)

/-- The nine digits of a part of a second, without zeros at the end. -/
def fractionText (nanos : Nat) : String :=
  let digits := Nat.toDigits 10 nanos
  let padded := List.replicate (9 - digits.length) '0' ++ digits
  String.ofList (padded.reverse.dropWhile (· == '0')).reverse

/-- Seconds with their decimal fraction, for durations of a second or more. -/
def secondsText (nanos : Nat) : String :=
  let fraction := nanos % nanosPerSecond
  toString (nanos / nanosPerSecond) ++
    (if fraction = 0 then "" else "." ++ fractionText fraction) ++ "s"

end SeriesSql.Duration
