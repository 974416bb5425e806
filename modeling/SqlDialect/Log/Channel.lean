import SqlDialect.Log

/-!
# Where records are written

A channel is set up once, with the least level it writes; setting it up again changes nothing, and
whoever asks for a logger sets it up with the default level.
-/

namespace SqlDialect

/-- The writer of log records, once it is set up. -/
structure LogChannel where
  level? : Option LogLevel := none
  deriving DecidableEq, Repr

namespace LogChannel

/-- Sets the channel up, unless it is. -/
def configure (c : LogChannel) (level : LogLevel) : LogChannel :=
  match c.level? with
  | some _ => c
  | none => ⟨some level⟩

/-- Sets the channel up with the least level that is written by default. -/
def configureDefault (c : LogChannel) : LogChannel :=
  c.configure .info

/-- How many writers are set up. -/
def handlers (c : LogChannel) : Nat :=
  if c.level?.isSome then 1 else 0

/-- Whether a level is written. -/
def accepts (c : LogChannel) (level : LogLevel) : Bool :=
  match c.level? with
  | some least => least.rank ≤ level.rank
  | none => false

/-- A record as it is written, after its time. -/
def line (correlation : String) (r : LogRecord) : String :=
  String.intercalate " | " [r.level.name, correlation, r.logger, r.message]

/-- The lines that records leave. -/
def lines (c : LogChannel) (correlation : String) (records : List LogRecord) : List String :=
  (records.filter fun r => c.accepts r.level).map (line correlation)

end LogChannel

end SqlDialect
