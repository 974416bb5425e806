import SqlDialect.Node.Kind
import SqlDialect.Value.Basic

/-!
# Expression nodes

The nodes of a schema statement.  What a constructor checks has a type of its own here: required
names are texts, actions are among the known ones, and columns and constraints are nodes of their
kind.  What it keeps as given stays a `Value`: the names in a list of names, the flags, and the
default of a column, which is raw SQL or nothing.
-/

namespace SqlDialect

/-- What happens to the rows that refer to a changed row. -/
inductive ActionType
  | cascade | setNull | setDefault | restrict | noAction
  deriving DecidableEq, Repr

namespace ActionType

/-- Every kind of action, in order. -/
def all : List ActionType :=
  [.cascade, .setNull, .setDefault, .restrict, .noAction]

/-- The SQL text of an action. -/
def sqlText : ActionType → String
  | .cascade => "cascade"
  | .setNull => "set null"
  | .setDefault => "set default"
  | .restrict => "restrict"
  | .noAction => "no action"

/-- Whether an action may be limited to some columns. -/
def acceptsColumns : ActionType → Bool
  | .setNull => true
  | .setDefault => true
  | _ => false

/-- The action of a SQL text. -/
def ofText? (s : String) : Option ActionType :=
  all.find? fun a => a.sqlText = s

theorem ofText?_sqlText (a : ActionType) : ofText? a.sqlText = some a := by
  cases a <;> rfl

end ActionType

/-- What happens to the objects that depend on a dropped table. -/
inductive DropAction
  | restrict | cascade
  deriving DecidableEq, Repr

namespace DropAction

/-- Every drop action, in order. -/
def all : List DropAction :=
  [.restrict, .cascade]

/-- The SQL text of a drop action. -/
def sqlText : DropAction → String
  | .restrict => "restrict"
  | .cascade => "cascade"

/-- The drop action of a SQL text. -/
def ofText? (s : String) : Option DropAction :=
  all.find? fun a => a.sqlText = s

theorem ofText?_sqlText (a : DropAction) : ofText? a.sqlText = some a := by
  cases a <;> rfl

end DropAction

/-- What a foreign key does on update or on delete. -/
structure ReferentialAction where
  type : ActionType
  columns : List Value := []
  deriving Repr

/-- A condition in raw SQL that every row satisfies. -/
structure Check where
  expression : String
  deriving Repr

/-- A reference to the rows of another table.  The column names are those of the table-level
form. -/
structure ForeignKey where
  columnNames : List Value := []
  refTable : String
  refColumns : List Value := []
  onUpdate : Option ReferentialAction := none
  onDelete : Option ReferentialAction := none
  deriving Repr

/-- The primary key.  The column names are those of the table-level form. -/
structure PrimaryKey where
  columnNames : List Value := []
  deriving Repr

/-- Columns whose values differ between rows; two nulls differ too unless the flag is false. -/
structure Unique where
  columnNames : List Value := []
  nullsDistinct : Value := .bool true
  deriving Repr

/-- A constraint, usable on a table and on a column. -/
inductive Constraint
  | check (c : Check)
  | foreignKey (f : ForeignKey)
  | primaryKey (p : PrimaryKey)
  | unique (u : Unique)
  deriving Repr

/-- A column of a new table. -/
structure Column where
  name : String
  dataType : String
  nullable : Value := .bool true
  default : Value := .null
  constraints : List Constraint := []
  deriving Repr

/-- The statement that creates a table. -/
structure CreateTable where
  tableName : String
  ifNotExists : Value := .bool false
  columns : List Column := []
  constraints : List Constraint := []
  deriving Repr

/-- The statement that drops tables. -/
structure DropTable where
  tableNames : List Value := []
  ifExists : Value := .bool false
  action : Option DropAction := none
  deriving Repr

/-- An expression node.  The two bare bases carry nothing but which object they are. -/
inductive Node
  | constraint (c : Constraint)
  | action (a : ReferentialAction)
  | column (c : Column)
  | createTable (t : CreateTable)
  | dropTable (d : DropTable)
  | bareStatement (serial : Nat)
  | bareExpression (serial : Nat)
  deriving Repr

/-- The kind of a constraint. -/
def Constraint.kind : Constraint → NodeKind
  | .check _ => .check
  | .foreignKey _ => .foreignKey
  | .primaryKey _ => .primaryKey
  | .unique _ => .unique

namespace Node

/-- The kind of a node. -/
def kind : Node → NodeKind
  | .constraint c => c.kind
  | .action _ => .referentialAction
  | .column _ => .column
  | .createTable _ => .createTable
  | .dropTable _ => .dropTable
  | .bareStatement _ => .bareStatement
  | .bareExpression _ => .bareExpression

end Node

end SqlDialect
