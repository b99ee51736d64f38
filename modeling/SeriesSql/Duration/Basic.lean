/-!
# Durations

A duration is a number of nanoseconds.  The units from the second up are written in whole seconds: a
month is a twelfth and a year the whole of 365.25 days.
-/

namespace SeriesSql.Duration

def nanosPerMilli : Nat := 1000000
def nanosPerSecond : Nat := 1000000000

inductive Unit where
  | nanosecond
  | microsecond
  | millisecond
  | second
  | minute
  | hour
  | day
  | week
  | month
  | year
deriving Repr, DecidableEq

namespace Unit

/-- Length in seconds of the units from the second up. -/
def seconds? : Unit → Option Nat
  | nanosecond | microsecond | millisecond => none
  | second => some 1
  | minute => some 60
  | hour => some 3600
  | day => some 86400
  | week => some 604800
  | month => some 2630016
  | year => some 31557600

/-- Length in nanoseconds of the units below the hour. -/
def nanos? : Unit → Option Nat
  | nanosecond => some 1
  | microsecond => some 1000
  | millisecond => some 1000000
  | second => some 1000000000
  | minute => some 60000000000
  | hour | day | week | month | year => none

end Unit

end SeriesSql.Duration
