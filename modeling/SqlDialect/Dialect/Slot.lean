import SqlDialect.Node.Basic

/-!
# Positions and slots

A node is rendered at a position: as a statement, as a constraint of a table or of a column, or as
a clause inside another construct.  A `Slot` is a kind of node at a position where it may stand;
`Slot.of?` says which pairs those are.  Layers fill slots with the forms they render.
-/

namespace SqlDialect

/-- Where a node is rendered. -/
inductive Position
  | statement | table | column | clause
  deriving DecidableEq, Repr

namespace Position

/-- Every position. -/
def all : List Position :=
  [.statement, .table, .column, .clause]

/-- The name of a position. -/
def name : Position → String
  | .statement => "statement"
  | .table => "table"
  | .column => "column"
  | .clause => "clause"

/-- The position of a name. -/
def ofName? (s : String) : Option Position :=
  all.find? fun p => p.name = s

end Position

/-- The text that refuses a type of node at a position. -/
def misplacedMessage (typeName : String) (position : Position) : String :=
  typeName ++ " cannot be rendered at " ++ position.name ++ " position"

/-- A kind of node at a position where it may stand. -/
inductive Slot
  | statement | createTable | dropTable
  | tableCheck | tableForeignKey | tablePrimaryKey | tableUnique
  | columnCheck | columnForeignKey | columnPrimaryKey | columnUnique
  | column | action
  deriving DecidableEq, Repr

namespace Slot

/-- Every slot. -/
def all : List Slot :=
  [.statement, .createTable, .dropTable, .tableCheck, .tableForeignKey, .tablePrimaryKey,
    .tableUnique, .columnCheck, .columnForeignKey, .columnPrimaryKey, .columnUnique, .column,
    .action]

/-- The name of a slot. -/
def name : Slot → String
  | .statement => "statement"
  | .createTable => "create_table"
  | .dropTable => "drop_table"
  | .tableCheck => "check_table_constraint"
  | .tableForeignKey => "foreign_key_table_constraint"
  | .tablePrimaryKey => "primary_key_table_constraint"
  | .tableUnique => "unique_table_constraint"
  | .columnCheck => "check_column_constraint"
  | .columnForeignKey => "foreign_key_column_constraint"
  | .columnPrimaryKey => "primary_key_column_constraint"
  | .columnUnique => "unique_column_constraint"
  | .column => "column_definition"
  | .action => "referential_action"

/-- The slot of a name. -/
def ofName? (s : String) : Option Slot :=
  all.find? fun slot => slot.name = s

/-- The kind of node of a slot. -/
def kind : Slot → NodeKind
  | .statement => .bareStatement
  | .createTable => .createTable
  | .dropTable => .dropTable
  | .tableCheck | .columnCheck => .check
  | .tableForeignKey | .columnForeignKey => .foreignKey
  | .tablePrimaryKey | .columnPrimaryKey => .primaryKey
  | .tableUnique | .columnUnique => .unique
  | .column => .column
  | .action => .referentialAction

/-- The position of a slot. -/
def position : Slot → Position
  | .statement | .createTable | .dropTable => .statement
  | .tableCheck | .tableForeignKey | .tablePrimaryKey | .tableUnique => .table
  | .columnCheck | .columnForeignKey | .columnPrimaryKey | .columnUnique => .column
  | .column | .action => .clause

/-- The slot of a kind of node at a position, if it may stand there. -/
def of? : NodeKind → Position → Option Slot
  | .bareStatement, .statement => some .statement
  | .createTable, .statement => some .createTable
  | .dropTable, .statement => some .dropTable
  | .check, .table => some .tableCheck
  | .foreignKey, .table => some .tableForeignKey
  | .primaryKey, .table => some .tablePrimaryKey
  | .unique, .table => some .tableUnique
  | .check, .column => some .columnCheck
  | .foreignKey, .column => some .columnForeignKey
  | .primaryKey, .column => some .columnPrimaryKey
  | .unique, .column => some .columnUnique
  | .column, .clause => some .column
  | .referentialAction, .clause => some .action
  | _, _ => none

theorem of?_eq_some_iff (k : NodeKind) (p : Position) (s : Slot) :
    of? k p = some s ↔ s.kind = k ∧ s.position = p := by
  cases k <;> cases p <;> cases s <;> decide

/-- Whether a node of this slot is a statement, which a form for any statement renders too. -/
def isStatement (s : Slot) : Bool :=
  s.position = .statement

/-- What messages call the construct of a slot. -/
def description (s : Slot) : String :=
  s.position.name ++ "-level " ++ s.kind.name

end Slot

end SqlDialect
