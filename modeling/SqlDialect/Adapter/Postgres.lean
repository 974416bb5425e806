import SqlDialect.Adapter.Action

/-!
# The PostgreSQL adapter

A connection that was lost is opened again, with the configuration it was opened with, by the next
operation that needs it.  A statement reaches the driver only with as many parameters as it has
placeholders: `countPlaceholders` counts the `%s` of a statement, where `%%` stands for a percent
sign.
-/

namespace SqlDialect.Postgres

/-- How many placeholders a statement has. -/
def countPlaceholders : List Char → Nat
  | '%' :: 's' :: rest => countPlaceholders rest + 1
  | '%' :: '%' :: rest => countPlaceholders rest
  | _ :: rest => countPlaceholders rest
  | [] => 0

/-- Refuses parameters that are more or fewer than the placeholders. -/
def checkParams (sql : String) (params : List Value) : Except AdapterError Unit :=
  let expected := countPlaceholders sql.toList
  if expected = params.length then .ok () else .error (.parameterCount expected params.length)

/-- The name of the adapter's logger. -/
def logger : String := loggerName "adapters.postgres"

/-- A record of the adapter. -/
def record (level : LogLevel) (message : String) : LogRecord :=
  { level, logger, message }

/-- The record of opening a connection; there is none if the flag cannot be written. -/
def connectingRecord (config : ConnectionConfig) : Except AdapterError (Option LogRecord) :=
  (config.label.mapError .settings).map fun label =>
    config.autocommit.toText?.map fun flag =>
      record .info ("Connecting to PostgreSQL " ++ label ++ " (autocommit=" ++ flag ++ ")")

/-- The record of a lost connection. -/
def reconnectingRecord : LogRecord :=
  record .warning "PostgreSQL connection closed; reconnecting."

/-- The options of the driver; a timeout is the longest wait for a connection, in whole seconds,
unless the options say how long. -/
def options (config : ConnectionConfig) : Except AdapterError Settings := do
  let given ← (ConnectionConfig.recordEntries config.options).mapError .settings
  if config.timeout.isTrue && !given.any (fun e => e.1 = "connect_timeout") then
    let seconds ← config.timeout.toInteger.mapError .conversion
    return given ++ [("connect_timeout", .int seconds)]
  else return given

/-- Opens a connection and keeps it. -/
def connect (config : ConnectionConfig) : Action Nat := do
  if (← Action.script).available then
    let given ← Action.ofExcept (options config)
    Action.reportAll (← Action.ofExcept (connectingRecord config)).toList
    let id ← (Action.openConnection config.url given).mapError fun _ => .connectFailed
    Action.autocommit id config.autocommit.isTrue
    Action.setLink (some ⟨id, config⟩)
    return id
  else Action.fail .driverMissing

/-- Closes the connection; it is given up even if that fails. -/
def close : Action Unit := do
  match (← Action.session).adapter.link? with
  | none => pure ()
  | some link =>
    (Action.call .close (.close link.connection)).always (Action.setLink none)

/-- The connection in use, opened again if it was lost. -/
def connection : Action Nat := do
  let s ← Action.session
  match s.adapter.link? with
  | none => Action.fail (.notConnected .postgres)
  | some link =>
    if s.hasLost link.connection then
      Action.report reconnectingRecord
      connect link.config
    else pure link.connection

/-- Has the driver run a statement on a connection, unless its parameters are refused. -/
def runOn (id : Nat) (checked : Except AdapterError Unit) (name sql : String) (params : Value)
    (kind : CallKind) (c : DriverCall) : Action Cursor := do
  Action.makeCursor id
  Action.ofExcept checked
  Action.timed name logger sql params (Action.call kind c)
  return (← Action.script).cursor

/-- Runs a statement. -/
def execute (sql : String) (params : List Value) : Action Cursor := do
  let id ← connection
  runOn id (checkParams sql params) "postgres.execute" sql (.list (Redaction.redactAll params))
    .execute (.execute id sql params)

/-- Runs a statement once for each row; every row is checked before the first one runs. -/
def executeMany (sql : String) (rows : List (List Value)) : Action Cursor := do
  let id ← connection
  runOn id (rows.forM (checkParams sql)) "postgres.executemany" sql (.text "bulk")
    .executeMany (.executeMany id sql rows)

/-- Commits the transaction. -/
def commit : Action Unit := do
  let id ← connection
  Action.call .commit (.commit id)

/-- Rolls the transaction back. -/
def rollback : Action Unit := do
  let id ← connection
  Action.call .rollback (.rollback id)

end SqlDialect.Postgres
