import SqlDialect.Log
import SqlDialect.Number.Shortest

/-!
# Timed calls

A timed call is logged with the milliseconds it took: as a warning from a threshold on, and as a
debug record below it.
-/

namespace SqlDialect

/-- The two readings of a clock around a call, in seconds. -/
structure ClockReadings where
  start : Binary64
  stop : Binary64
  deriving DecidableEq, Repr

/-- The milliseconds between the readings. -/
def ClockReadings.elapsed (c : ClockReadings) : Binary64 :=
  (c.stop.sub c.start).mul (.ofInt 1000)

/-- Whether a time reaches a threshold; one that is no number is never reached. -/
def reaches (elapsed : Binary64) : Value → Bool
  | .bool b => elapsed.geInt (if b then 1 else 0)
  | .int n => elapsed.geInt n
  | .float x => elapsed.ge x
  | _ => false

/-- The record of a timed call. -/
def timedRecord (name logger : String) (threshold sql params : Value) (clock : ClockReadings) :
    LogRecord where
  level := if reaches clock.elapsed threshold then .warning else .debug
  logger
  message := name ++ " took " ++ clock.elapsed.twoPlaces ++ "ms"
  timing := some ⟨sql, params, clock.elapsed⟩

end SqlDialect
