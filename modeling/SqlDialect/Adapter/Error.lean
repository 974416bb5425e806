import SqlDialect.Connection
import SqlDialect.Parameter

/-!
# Errors of adapters

Why a database cannot be reached or a statement cannot run, with the text that says so.
-/

namespace SqlDialect

/-- The name of a backend's adapter, as messages show it. -/
def Backend.adapterName : Backend → String
  | .sqlite => "SQLiteAdapter"
  | .postgres => "PostgresAdapter"

/-- Why an operation of an adapter or of a statement fails. -/
inductive AdapterError
  /-- The settings make no configuration. -/
  | settings (cause : SettingsError)
  /-- The driver is not installed. -/
  | driverMissing
  /-- There is no connection. -/
  | notConnected (backend : Backend)
  /-- The driver could not open a connection. -/
  | connectFailed
  /-- The statement has another number of placeholders than there are parameters. -/
  | parameterCount (expected received : Nat)
  /-- The driver refused a statement. -/
  | statementFailed (cause : String)
  /-- A parameter before the first. -/
  | negativeIndex (index : Int)
  /-- Nothing was bound without a type. -/
  | untypedNull (index : Int)
  /-- Parameters below the last one that were not bound. -/
  | unbound (indexes : List Nat) (sql : String)
  /-- A batch has no rows to show. -/
  | batchAsQuery (entries : Nat)
  /-- A value that the driver cannot take. -/
  | conversion (cause : ConversionError)
  /-- The driver failed. -/
  | driver (message : String)
  deriving DecidableEq, Repr

/-- The text of an error. -/
def AdapterError.message : AdapterError → String
  | .settings cause => cause.message
  | .driverMissing => "psycopg is required to use PostgresAdapter."
  | .notConnected backend => backend.adapterName ++ " is not connected."
  | .connectFailed => "Failed to connect to PostgreSQL."
  | .parameterCount expected received =>
    "Parameter count mismatch: expected " ++ Nat.repr expected ++ ", received " ++
      Nat.repr received ++ "."
  | .statementFailed cause => "SQLite execution failed: " ++ cause
  | .negativeIndex index => "Parameter index must be >= 0, got " ++ Text.decimalInt index
  | .untypedNull index =>
    "Cannot bind None at index " ++ Text.decimalInt index ++
      "; use bind_null() with a declared type."
  | .unbound indexes sql =>
    "Parameters at indexes [" ++ String.intercalate ", " (indexes.map Nat.repr) ++
      "] were not bound for: " ++ sql
  | .batchAsQuery entries =>
    Nat.repr entries ++ " staged batch entries cannot run as a query; use execute()."
  | .conversion cause => cause.message
  | .driver message => message

end SqlDialect
