import SqlDialect.Example.Compatibility
import SqlDialect.Statement

/-!
# Books in SQLite

`install` creates the schema in a SQLite database, as far as SQLite can express it, puts an author
and two books in and reads the titles back.  The connection is closed in any case.
-/

namespace SqlDialect.Books

/-- The lenient renderings of the schema for SQLite. -/
def sqliteRenderings : List Rendering :=
  renderSchema ⟨⟨.sqlite, ⟨[3]⟩⟩, { skipUnsupported := true }⟩

/-- Binds a row of values; nothing is bound as a text. -/
def bindRow (row : List Value) : Statement.Edit Unit :=
  row.zipIdx.forM fun (v, i) =>
    if v.isNull then Statement.bindNull i (.hostType .str) else Statement.bind .sqlite i v

/-- Runs a new statement as it was prepared. -/
def run (sql : String) (prepare : Statement.Edit Submission) : Action Cursor := do
  (← Action.ofExcept (prepare.run { sql }).1).run sql

/-- Runs a statement with one row. -/
def runRow (sql : String) (row : List Value) : Action Cursor :=
  run sql (do bindRow row; Statement.submit)

/-- Runs a statement with each of some rows. -/
def runRows (sql : String) (rows : List (List Value)) : Action Cursor :=
  run sql (do rows.forM (fun row => do bindRow row; Statement.add); Statement.submit)

/-- Creates the schema. -/
def createSchema : Action Unit := do
  (sqliteRenderings.flatMap Rendering.log).forM Action.report
  (sqliteRenderings.filterMap fun r => r.outcome.sql?).forM fun sql => do
    let _ ← runRow sql []

/-- Puts an author and two books in and reads the titles back. -/
def fill : Action (List (List Value)) := do
  let _ ← runRow "INSERT INTO authors (id, name, email) VALUES (?, ?, ?)"
    [.int 1, .text "Ursula", .text "ursula@example.com"]
  let _ ← runRows "INSERT INTO books (id, author_id, title, pages, isbn) VALUES (?, ?, ?, ?, ?)"
    [[.int 1, .int 1, .text "The Dispossessed", .int 387, .null],
      [.int 2, .int 1, .text "Lathe of Heaven", .int 184, .null]]
  Adapter.commit
  let found ← runRow "SELECT title FROM books ORDER BY id" []
  return found.result.rows

/-- Creates the schema in the database at an address and reads the titles back. -/
def install (address : String) : Action (List (List Value)) := do
  let config ← Action.ofExcept ((ConnectionConfig.ofDsn address []).mapError .settings)
  Adapter.connect config
  (do createSchema; fill : Action (List (List Value))).always Adapter.close

end SqlDialect.Books
