import SqlDialect.Node.Basic

/-!
# Nodes as data

`Node.toValue` shows a node as a value: its kind and its fields in order, with nested nodes shown
the same way.  `Node.ofValue?` reads such a value back, and `Node.ofValue?_toValue` says that no
node is lost on the way.
-/

namespace SqlDialect

/-- An optional part of a node, shown as nothing when it is missing. -/
def optionalValue (v : Option Value) : Value :=
  v.getD .null

namespace ReferentialAction

/-- An action as data. -/
def toValue (a : ReferentialAction) : Value :=
  .node .referentialAction [("type", .text a.type.sqlText), ("columns", .tuple a.columns)]

/-- Reads an action. -/
def ofValue? : Value → Option ReferentialAction
  | .node .referentialAction [("type", .text type), ("columns", .tuple columns)] =>
    (ActionType.ofText? type).map fun t => ⟨t, columns⟩
  | _ => none

theorem ofValue?_toValue (a : ReferentialAction) : ofValue? a.toValue = some a := by
  simp [ofValue?, toValue, ActionType.ofText?_sqlText]

/-- Reads an action that may be missing. -/
def ofOptional? : Value → Option (Option ReferentialAction)
  | .null => some none
  | v => (ofValue? v).map some

theorem ofOptional?_toValue (a : Option ReferentialAction) :
    ofOptional? (optionalValue (a.map toValue)) = some a := by
  cases a with
  | none => rfl
  | some a =>
    have h := ofValue?_toValue a
    simp only [optionalValue, Option.map_some, Option.getD_some, ofOptional?]
    unfold toValue at h ⊢
    simp [h]

end ReferentialAction

namespace Constraint

/-- A constraint as data. -/
def toValue : Constraint → Value
  | .check c => .node .check [("expression", .text c.expression)]
  | .foreignKey f =>
    .node .foreignKey
      [("column_names", .tuple f.columnNames), ("ref_table", .text f.refTable),
        ("ref_columns", .tuple f.refColumns),
        ("on_update", optionalValue (f.onUpdate.map ReferentialAction.toValue)),
        ("on_delete", optionalValue (f.onDelete.map ReferentialAction.toValue))]
  | .primaryKey p => .node .primaryKey [("column_names", .tuple p.columnNames)]
  | .unique u =>
    .node .unique [("column_names", .tuple u.columnNames), ("nulls_distinct", u.nullsDistinct)]

/-- Reads a constraint. -/
def ofValue? : Value → Option Constraint
  | .node .check [("expression", .text expression)] => some (.check ⟨expression⟩)
  | .node .foreignKey
      [("column_names", .tuple names), ("ref_table", .text table), ("ref_columns", .tuple columns),
        ("on_update", onUpdate), ("on_delete", onDelete)] =>
    match ReferentialAction.ofOptional? onUpdate, ReferentialAction.ofOptional? onDelete with
    | some u, some d => some (.foreignKey ⟨names, table, columns, u, d⟩)
    | _, _ => none
  | .node .primaryKey [("column_names", .tuple names)] => some (.primaryKey ⟨names⟩)
  | .node .unique [("column_names", .tuple names), ("nulls_distinct", flag)] =>
    some (.unique ⟨names, flag⟩)
  | _ => none

theorem ofValue?_toValue (c : Constraint) : ofValue? c.toValue = some c := by
  cases c with
  | foreignKey f => simp [ofValue?, toValue, ReferentialAction.ofOptional?_toValue]
  | _ => rfl

end Constraint

/-- Reading every item of a list back gives the list. -/
theorem mapM_ofValue?_map {α : Type} (toValue : α → Value) (ofValue? : Value → Option α)
    (h : ∀ a, ofValue? (toValue a) = some a) (xs : List α) :
    (xs.map toValue).mapM ofValue? = some xs := by
  induction xs with
  | nil => rfl
  | cons x xs ih => simp [h, ih]

namespace Column

/-- A column as data. -/
def toValue (c : Column) : Value :=
  .node .column
    [("name", .text c.name), ("data_type", .text c.dataType), ("nullable", c.nullable),
      ("default", c.default), ("constraints", .tuple (c.constraints.map Constraint.toValue))]

/-- Reads a column. -/
def ofValue? : Value → Option Column
  | .node .column
      [("name", .text name), ("data_type", .text dataType), ("nullable", nullable),
        ("default", default), ("constraints", .tuple constraints)] =>
    (constraints.mapM Constraint.ofValue?).map fun cs => ⟨name, dataType, nullable, default, cs⟩
  | _ => none

theorem ofValue?_toValue (c : Column) : ofValue? c.toValue = some c := by
  simp [ofValue?, toValue, mapM_ofValue?_map _ _ Constraint.ofValue?_toValue]

end Column

namespace CreateTable

/-- A table creation as data. -/
def toValue (t : CreateTable) : Value :=
  .node .createTable
    [("table_name", .text t.tableName), ("if_not_exists", t.ifNotExists),
      ("columns", .tuple (t.columns.map Column.toValue)),
      ("constraints", .tuple (t.constraints.map Constraint.toValue))]

/-- Reads a table creation. -/
def ofValue? : Value → Option CreateTable
  | .node .createTable
      [("table_name", .text name), ("if_not_exists", flag), ("columns", .tuple columns),
        ("constraints", .tuple constraints)] =>
    match columns.mapM Column.ofValue?, constraints.mapM Constraint.ofValue? with
    | some cs, some ks => some ⟨name, flag, cs, ks⟩
    | _, _ => none
  | _ => none

theorem ofValue?_toValue (t : CreateTable) : ofValue? t.toValue = some t := by
  simp [ofValue?, toValue, mapM_ofValue?_map _ _ Constraint.ofValue?_toValue,
    mapM_ofValue?_map _ _ Column.ofValue?_toValue]

end CreateTable

namespace DropTable

/-- A table drop as data. -/
def toValue (d : DropTable) : Value :=
  .node .dropTable
    [("table_names", .tuple d.tableNames), ("if_exists", d.ifExists),
      ("action", optionalValue (d.action.map fun a => .text a.sqlText))]

/-- Reads a drop action that may be missing. -/
def actionOfValue? : Value → Option (Option DropAction)
  | .null => some none
  | .text s => (DropAction.ofText? s).map some
  | _ => none

/-- Reads a table drop. -/
def ofValue? : Value → Option DropTable
  | .node .dropTable
      [("table_names", .tuple names), ("if_exists", flag), ("action", action)] =>
    (actionOfValue? action).map fun a => ⟨names, flag, a⟩
  | _ => none

theorem ofValue?_toValue (d : DropTable) : ofValue? d.toValue = some d := by
  obtain ⟨names, flag, action⟩ := d
  cases action <;>
    simp [ofValue?, toValue, actionOfValue?, optionalValue, DropAction.ofText?_sqlText]

end DropTable

namespace Node

/-- A node as data. -/
def toValue : Node → Value
  | .constraint c => c.toValue
  | .action a => a.toValue
  | .column c => c.toValue
  | .createTable t => t.toValue
  | .dropTable d => d.toValue
  | .bareStatement serial => .bare .bareStatement serial
  | .bareExpression serial => .bare .bareExpression serial

/-- Reads a node. -/
def ofValue? : Value → Option Node
  | .bare .bareStatement serial => some (.bareStatement serial)
  | .bare .bareExpression serial => some (.bareExpression serial)
  | .node .referentialAction fields =>
    (ReferentialAction.ofValue? (.node .referentialAction fields)).map .action
  | .node .column fields => (Column.ofValue? (.node .column fields)).map .column
  | .node .createTable fields =>
    (CreateTable.ofValue? (.node .createTable fields)).map .createTable
  | .node .dropTable fields => (DropTable.ofValue? (.node .dropTable fields)).map .dropTable
  | v => (Constraint.ofValue? v).map .constraint

theorem ofValue?_toValue (n : Node) : ofValue? n.toValue = some n := by
  cases n with
  | constraint c =>
    have h := Constraint.ofValue?_toValue c
    cases c <;> simp_all [ofValue?, toValue, Constraint.toValue]
  | action a =>
    have h := ReferentialAction.ofValue?_toValue a
    simp_all [ofValue?, toValue, ReferentialAction.toValue]
  | column c =>
    have h := Column.ofValue?_toValue c
    simp_all [ofValue?, toValue, Column.toValue]
  | createTable t =>
    have h := CreateTable.ofValue?_toValue t
    simp_all [ofValue?, toValue, CreateTable.toValue]
  | dropTable d =>
    have h := DropTable.ofValue?_toValue d
    simp_all [ofValue?, toValue, DropTable.toValue]
  | bareStatement _ => rfl
  | bareExpression _ => rfl

/-- The fields of a node, in order. -/
def fields (n : Node) : List (String × Value) :=
  match n.toValue with
  | .node _ fields => fields
  | _ => []

end Node

end SqlDialect
