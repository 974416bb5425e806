import SqlDialect.Adapter.Operation
import SqlDialect.Indexed

/-!
# Statements

A statement is a SQL text with parameters bound by index, from zero on, and rows of parameters
staged for a batch.  It keeps the value of each bound parameter, in the form that the driver takes,
and the SQL type it was bound with.  What is bound forms a row when there are no gaps below the
last index.

What an operation does to a statement is an `Edit`: steps one after the other, up to the first
error.  The steps before an error are not undone.  `Command.prepare` is all that an operation does
before anything is run; what it hands over no longer belongs to the statement, whatever comes of
running it.
-/

namespace SqlDialect

/-- A SQL text with its parameters.  Bound values and their types are kept in increasing order of
their indexes. -/
structure Statement where
  sql : String
  bindings : List (Indexed Value) := []
  types : List (Indexed (Option SqlType)) := []
  batch : List (List Value) := []
  deriving Repr

/-- What a statement hands over to be run. -/
inductive Submission
  | single (row : List Value)
  | batch (rows : List (List Value))
  deriving Repr

/-- The rows of a submission. -/
def Submission.rows : Submission → List (List Value)
  | .single row => [row]
  | .batch rows => rows

/-- The rows of a query and the names of their columns. -/
structure QueryResult where
  columns : List String
  rows : List (List Value)
  deriving Repr

/-- Each row as a record; of two columns with one name the last counts. -/
def QueryResult.records (r : QueryResult) : List Settings :=
  r.rows.map fun row => (r.columns.zip row).foldl ConnectionConfig.setEntry []

namespace Statement

/-- A change of a statement in steps, which may end in an error. -/
abbrev Edit : Type → Type :=
  ExceptT AdapterError (StateM Statement)

/-! ### Binding -/

/-- An index that may be bound. -/
def checkIndex (index : Int) : Except AdapterError Nat :=
  if index < 0 then .error (.negativeIndex index) else .ok index.toNat

/-- Keeps a value. -/
def keepValue (i : Nat) (v : Value) : Edit Unit :=
  modify fun s => { s with bindings := Indexed.insert ⟨i, v⟩ s.bindings }

/-- Keeps the type of a value. -/
def keepType (i : Nat) (type? : Option SqlType) : Edit Unit :=
  modify fun s => { s with types := Indexed.insert ⟨i, type?⟩ s.types }

/-- Binds a value. -/
def bind (backend : Backend) (index : Int) (v : Value) : Edit Unit := do
  let i ← MonadExcept.ofExcept (checkIndex index)
  if v.isNull then throw (.untypedNull index)
  let type? := Parameter.classify v
  keepValue i (← MonadExcept.ofExcept ((Parameter.convert backend v type?).mapError .conversion))
  keepType i type?

/-- Binds nothing, with the SQL type that is declared. -/
def bindNull (index : Int) (declared : Value) : Edit Unit := do
  let i ← MonadExcept.ofExcept (checkIndex index)
  keepValue i .null
  keepType i (Parameter.declaredType? declared)

/-- The types of the bound parameters, in the order of their indexes. -/
def declaredTypes (s : Statement) : List (Option SqlType) :=
  s.types.map Indexed.value

/-! ### Rows -/

/-- The row that the bound values form. -/
def row (s : Statement) : Except AdapterError (List Value) :=
  if (Indexed.gaps s.bindings).isEmpty then
    .ok ((List.range (Indexed.width s.bindings)).filterMap fun i => Indexed.find? i s.bindings)
  else .error (.unbound (Indexed.gaps s.bindings) s.sql)

/-- Drops what is bound. -/
def clear : Edit Unit :=
  modify fun s => { s with bindings := [], types := [] }

/-- Stages the row for a batch. -/
def add : Edit Unit := do
  let row ← MonadExcept.ofExcept (← get).row
  modify fun s => { s with batch := s.batch ++ [row] }
  clear

/-- Takes the row out. -/
def takeRow : Edit (List Value) := do
  let row ← MonadExcept.ofExcept (← get).row
  clear
  return row

/-- Takes the batch out, with the row at its end if anything is bound. -/
def takeBatch : Edit (List (List Value)) := do
  if !(← get).bindings.isEmpty then add
  modifyGet fun s => (s.batch, { s with batch := [] })

/-- Takes out what there is to run: the row if nothing is staged, else the batch. -/
def submit : Edit Submission := do
  if (← get).batch.isEmpty then Submission.single <$> takeRow
  else Submission.batch <$> takeBatch

/-- Takes the row out for a query; a batch is none. -/
def submitQuery : Edit Submission := do
  let s ← get
  if s.batch.isEmpty then Submission.single <$> takeRow
  else throw (.batchAsQuery s.batch.length)

/-- How messages show a statement. -/
def shown (s : Statement) : String :=
  "Statement(" ++ Text.quoted s.sql ++ ")"

end Statement

/-! ### Running -/

/-- The record of a batch. -/
def batchRecord (rows : Nat) : LogRecord where
  level := .debug
  logger := loggerName "execution.statement"
  message := "Executing batch of " ++ Nat.repr rows ++ " parameter sets"

/-- Runs what a statement handed over. -/
def Submission.run (sql : String) : Submission → Action Cursor
  | .single row => Adapter.execute sql row
  | .batch rows => do
    Action.report (batchRecord rows.length)
    Adapter.executeMany sql rows

/-- The rows that a cursor holds. -/
def Cursor.result (c : Cursor) : QueryResult :=
  ⟨c.columns.getD [], c.rows⟩

/-- The number of changed rows; an unknown number counts as none. -/
def Cursor.changed (c : Cursor) : Int :=
  max c.rowCount 0

namespace Statement

/-- An operation of a statement. -/
inductive Command
  | bind (index : Int) (v : Value)
  | bindNull (index : Int) (declared : Value)
  | add
  | execute
  | query
  | update

/-- What an operation answers. -/
inductive Reply
  | chained
  | done
  | rows (r : QueryResult)
  | changed (count : Int)
  deriving Repr

/-- What an operation does to the statement, and what it hands over to be run, if anything. -/
def Command.prepare (backend : Backend) : Command → Edit (Option Submission)
  | .bind index v => (fun _ => none) <$> Statement.bind backend index v
  | .bindNull index declared => (fun _ => none) <$> Statement.bindNull index declared
  | .add => (fun _ => none) <$> Statement.add
  | .query => some <$> submitQuery
  | .execute | .update => some <$> submit

/-- What an operation answers when its submission was run. -/
def Command.reply : Command → Cursor → Reply
  | .query, c => .rows c.result
  | .update, c => .changed c.changed
  | _, _ => .done

/-- Carries an operation out. -/
def perform (s : Statement) (script : DriverScript) (session : Session) (c : Command) :
    Statement × Run Reply :=
  match (c.prepare session.adapter.backend).run s with
  | (.error e, t) => (t, { result := .error e, session })
  | (.ok none, t) => (t, { result := .ok .chained, session })
  | (.ok (some submission), t) =>
    (t, (do return c.reply (← submission.run s.sql) : Action Reply) script session)

end Statement

end SqlDialect
