import SeriesSql.Duration.Parser
import SeriesSql.Duration.Printer
import SeriesSql.Error

/-!
# Time windows

A window covers a positive number of milliseconds, up to the latest sample or up to a given
timestamp.  Its length fits in a signed 64-bit integer, so it can be subtracted from a timestamp.
-/

namespace SeriesSql

structure Window where
  millis : Nat
  /-- The last timestamp of the window; without one it is that of the latest sample. -/
  stop : Option Int64
  positive : 0 < millis
  bounded : millis < 9223372036854775808
deriving DecidableEq

namespace Window

/-- A window up to the latest sample. -/
def ofMillis (millis : Nat) : Except Invalid Window :=
  if positive : 0 < millis then
    if bounded : millis < 9223372036854775808 then
      .ok { millis, stop := none, positive, bounded }
    else
      .error (.duration (toString millis ++ "ms"))
  else
    .error (.duration "0ms")

def stoppingAt (millis : Nat) (stop : Int64) : Except Invalid Window := do
  let window ← ofMillis millis
  return { window with stop := some stop }

/-- Parts of a millisecond are dropped. -/
def ofNanos (nanos : Nat) : Except Invalid Window :=
  let millis := nanos / Duration.nanosPerMilli
  if millis < 18446744073709551616 then
    ofMillis millis
  else
    .error (.duration (Duration.secondsText nanos))

/-- A window from a duration such as `5m`, `1h 30m` or `500ms`. -/
def parse (text : String) : Except Invalid Window :=
  match Duration.parse? (Text.trimChars text.toList) with
  | none => .error (.duration text)
  | some nanos =>
    match ofNanos nanos with
    | .ok window => .ok window
    | .error _ => .error (.duration text)

/-- The length as a signed integer. -/
def signedMillis (window : Window) : Int64 :=
  Int64.ofNat window.millis

/-- The difference of two integers, or the least or greatest integer if it is out of range. -/
def saturatingSub (a b : Int64) : Int64 :=
  Int64.ofIntClamp (a.toInt - b.toInt)

/-- The first timestamp of a window with a given last one. -/
def start? (window : Window) : Option Int64 :=
  window.stop.map fun stop => saturatingSub stop window.signedMillis

def text (window : Window) : String :=
  "[" ++ Duration.format window.millis ++ "]" ++
    match window.stop with
    | none => ""
    | some stop => " @ " ++ toString stop.toInt

end Window

end SeriesSql
