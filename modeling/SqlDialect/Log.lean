import SqlDialect.Value.Basic

/-!
# Log records

What the library reports while it works: a level, the name of the logger, a message, and for a timed
call the statement, its parameters and the time it took.
-/

namespace SqlDialect

/-- The weight of a log record. -/
inductive LogLevel
  | debug | info | warning | error | critical
  deriving DecidableEq, Repr

namespace LogLevel

/-- Every level, the least first. -/
def all : List LogLevel :=
  [.debug, .info, .warning, .error, .critical]

/-- The name of a level. -/
def name : LogLevel → String
  | .debug => "DEBUG"
  | .info => "INFO"
  | .warning => "WARNING"
  | .error => "ERROR"
  | .critical => "CRITICAL"

/-- The weight of a level as a number. -/
def rank : LogLevel → Nat
  | .debug => 10
  | .info => 20
  | .warning => 30
  | .error => 40
  | .critical => 50

/-- The level of a name. -/
def ofName? (s : String) : Option LogLevel :=
  all.find? fun l => l.name = s

end LogLevel

/-- What the record of a timed call holds besides its message. -/
structure Timing where
  sql : Value
  params : Value
  elapsed : Binary64
  deriving Repr

/-- A log record. -/
structure LogRecord where
  level : LogLevel
  logger : String
  message : String
  timing : Option Timing := none
  deriving Repr

/-- The full name of a logger. -/
def loggerName (name : String) : String :=
  "makeru." ++ name

end SqlDialect
