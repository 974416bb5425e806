/-!
# Kinds of expression nodes

A schema statement is a tree of nodes: two statements, the column definition, four constraints and
the referential action of a foreign key.  Besides them stand the two bare bases, which carry no
field and differ only by which object they are.
-/

namespace SqlDialect

/-- The kind of an expression node. -/
inductive NodeKind
  | check | foreignKey | primaryKey | unique | referentialAction | column | createTable | dropTable
  | bareStatement | bareExpression
  deriving DecidableEq, Repr

namespace NodeKind

/-- Every kind of node. -/
def all : List NodeKind :=
  [.check, .foreignKey, .primaryKey, .unique, .referentialAction, .column, .createTable,
    .dropTable, .bareStatement, .bareExpression]

/-- The name of a kind of node, as messages show it. -/
def name : NodeKind → String
  | .check => "CheckConstraint"
  | .foreignKey => "ForeignKeyConstraint"
  | .primaryKey => "PrimaryKeyConstraint"
  | .unique => "UniqueConstraint"
  | .referentialAction => "ReferentialAction"
  | .column => "ColumnDefinition"
  | .createTable => "CreateTableExpression"
  | .dropTable => "DropTableExpression"
  | .bareStatement => "StatementExpression"
  | .bareExpression => "Expression"

/-- The kind of a name. -/
def ofName? (s : String) : Option NodeKind :=
  all.find? fun k => k.name = s

/-- The fields of a kind of node, in order. -/
def fieldNames : NodeKind → List String
  | .check => ["expression"]
  | .foreignKey => ["column_names", "ref_table", "ref_columns", "on_update", "on_delete"]
  | .primaryKey => ["column_names"]
  | .unique => ["column_names", "nulls_distinct"]
  | .referentialAction => ["type", "columns"]
  | .column => ["name", "data_type", "nullable", "default", "constraints"]
  | .createTable => ["table_name", "if_not_exists", "columns", "constraints"]
  | .dropTable => ["table_names", "if_exists", "action"]
  | .bareStatement => []
  | .bareExpression => []

/-- The fields that have no default. -/
def requiredFields : NodeKind → List String
  | .check => ["expression"]
  | .referentialAction => ["type"]
  | .column => ["name", "data_type"]
  | .createTable => ["table_name"]
  | _ => []

end NodeKind

end SqlDialect
