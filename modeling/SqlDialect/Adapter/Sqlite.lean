import SqlDialect.Adapter.Action

/-!
# The SQLite adapter

A connection is opened on the path that follows `sqlite:///` in the address, with foreign keys
switched on.  An error of the driver in a statement is reported as the failure of the statement;
elsewhere it is passed on.
-/

namespace SqlDialect.Sqlite

/-- What an address of a file begins with. -/
def addressStart : List Char := "sqlite:///".toList

/-- The path of the database at an address; an address of another form is a path itself. -/
def databasePath (url : String) : String :=
  if addressStart.isPrefixOf url.toList then String.ofList (url.toList.drop addressStart.length)
  else url

/-- The name of the adapter's logger. -/
def logger : String := loggerName "adapters.sqlite"

/-- The statement that switches foreign keys on. -/
def foreignKeysOn : String := "PRAGMA foreign_keys = ON"

/-- The options of the driver: statements commit by themselves if no isolation level is set, and a
locked database is waited for during the timeout, by default five seconds. -/
def options (config : ConnectionConfig) : Settings :=
  [("isolation_level", if config.autocommit.isTrue then .null else .text ""),
    ("timeout", if config.timeout.isNull then .float (.ofInt 5) else config.timeout),
    ("check_same_thread", .bool false)]

/-- Opens a connection and keeps it. -/
def connect (config : ConnectionConfig) : Action Unit := do
  let id ← Action.openConnection (databasePath config.url) (options config)
  Action.call .pragma (.pragma id foreignKeysOn)
  Action.setLink (some ⟨id, config⟩)

/-- Closes the connection; it is kept if that fails. -/
def close : Action Unit := do
  match (← Action.session).adapter.link? with
  | none => pure ()
  | some link =>
    Action.call .close (.close link.connection)
    Action.setLink none

/-- The connection in use. -/
def connection : Action Nat := do
  match (← Action.session).adapter.link? with
  | none => Action.fail (.notConnected .sqlite)
  | some link => pure link.connection

/-- An error of the driver as the failure of a statement. -/
def statementError : AdapterError → AdapterError
  | .driver message => .statementFailed message
  | e => e

/-- Has the driver run a statement on a connection. -/
def runOn (id : Nat) (name sql : String) (params : Value) (kind : CallKind) (c : DriverCall) :
    Action Cursor := do
  Action.makeCursor id
  Action.timed name logger sql params ((Action.call kind c).mapError statementError)
  return (← Action.script).cursor

/-- Runs a statement. -/
def execute (sql : String) (params : List Value) : Action Cursor := do
  let id ← connection
  runOn id "sqlite.execute" sql (.list (Redaction.redactAll params)) .execute
    (.execute id sql params)

/-- Runs a statement once for each row. -/
def executeMany (sql : String) (rows : List (List Value)) : Action Cursor := do
  let id ← connection
  runOn id "sqlite.executemany" sql (.text "bulk") .executeMany (.executeMany id sql rows)

/-- Commits the transaction. -/
def commit : Action Unit := do
  let id ← connection
  Action.call .commit (.commit id)

/-- Rolls the transaction back. -/
def rollback : Action Unit := do
  let id ← connection
  Action.call .rollback (.rollback id)

end SqlDialect.Sqlite
