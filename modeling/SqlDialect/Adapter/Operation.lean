import SqlDialect.Adapter.Postgres
import SqlDialect.Adapter.Sqlite
import SqlDialect.Platform

/-!
# The operations of an adapter

Each operation is the one of the adapter's backend.
-/

namespace SqlDialect

/-- The engine that a backend runs. -/
def Backend.engine : Backend → String
  | .sqlite => Platform.sqlite
  | .postgres => Platform.postgresql

/-- The marker of a parameter in a statement. -/
def Backend.placeholder : Backend → String
  | .sqlite => "?"
  | .postgres => "%s"

namespace Adapter

/-- The action of the backend in use. -/
def choose {α : Type} (sqlite postgres : Action α) : Action α := do
  match (← Action.session).adapter.backend with
  | .sqlite => sqlite
  | .postgres => postgres

/-- Opens a connection and keeps it. -/
def connect (config : ConnectionConfig) : Action Unit :=
  choose (Sqlite.connect config) (do let _ ← Postgres.connect config)

/-- Closes the connection, if there is one. -/
def close : Action Unit :=
  choose Sqlite.close Postgres.close

/-- Runs a statement. -/
def execute (sql : String) (params : List Value) : Action Cursor :=
  choose (Sqlite.execute sql params) (Postgres.execute sql params)

/-- Runs a statement once for each row. -/
def executeMany (sql : String) (rows : List (List Value)) : Action Cursor :=
  choose (Sqlite.executeMany sql rows) (Postgres.executeMany sql rows)

/-- Commits the transaction. -/
def commit : Action Unit :=
  choose Sqlite.commit Postgres.commit

/-- Rolls the transaction back. -/
def rollback : Action Unit :=
  choose Sqlite.rollback Postgres.rollback

end Adapter

end SqlDialect
