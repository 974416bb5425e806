import SqlDialect.Node.Fields
import SqlDialect.Text.Blank
import SqlDialect.Value.Shown

/-!
# Construction of nodes

`Node.build` makes a node of a kind from named values.  It checks required texts, brings lists of
names into one form, and refuses nested parts of the wrong kind; `BuildError` says what was wrong.
A node never changes: `Node.withChanges` builds another one from its fields and some new ones.
-/

namespace SqlDialect

/-- Why a value cannot be a field of a node. -/
inductive DefinitionError
  /-- A required text is missing or blank. -/
  | blankField (kind : NodeKind) (field : String)
  /-- A nested part is of another type. -/
  | foreignItem (kind : NodeKind) (field : String) (typeName : String)
  /-- A value, here as messages show it, is none of the known words. -/
  | notAChoice (kind : NodeKind) (field : String) (choices : List String) (shown : String)
  deriving Repr

/-- The text of a refused definition. -/
def DefinitionError.message : DefinitionError → String
  | .blankField kind field => kind.name ++ "." ++ field ++ " must be a non-empty string"
  | .foreignItem kind field typeName =>
    kind.name ++ "." ++ field ++ " cannot contain " ++ typeName
  | .notAChoice kind field choices shown =>
    kind.name ++ "." ++ field ++ " must be one of " ++ String.intercalate ", " choices ++
      "; got " ++ shown

/-- Why a node cannot be built. -/
inductive BuildError
  /-- A field without a default is missing, or there is no such field. -/
  | arguments
  /-- A list was expected. -/
  | notIterable
  /-- The node has no such operation. -/
  | noSuchOperation
  /-- A field has an unusable value. -/
  | definition (cause : DefinitionError)
  /-- An unusable value holds an integer of too many digits to be written. -/
  | unwritable
  deriving Repr

/-- Named values, each name at most once. -/
abbrev Arguments := List (String × Value)

namespace Arguments

/-- The value of a name, or the default. -/
def get (args : Arguments) (name : String) (default : Value) : Value :=
  (args.lookup name).getD default

/-- Whether the names fit the fields of a kind of node. -/
def fit (args : Arguments) (kind : NodeKind) : Bool :=
  args.all (fun a => kind.fieldNames.contains a.1) &&
    kind.requiredFields.all fun f => args.any (·.1 = f)

/-- Named values with some of them replaced, and the new ones added. -/
def override (args changes : Arguments) : Arguments :=
  args.map (fun (name, v) => (name, (changes.lookup name).getD v)) ++
    changes.filter fun c => !args.any (·.1 = c.1)

end Arguments

namespace Node

/-- A required text. -/
def requireName (kind : NodeKind) (field : String) (v : Value) : Except BuildError String :=
  match v.text? with
  | some s =>
    if Text.isBlank s then .error (.definition (.blankField kind field)) else .ok s
  | none => .error (.definition (.blankField kind field))

/-- A list of names: nothing is no name, and a text is a single one. -/
def namesOf (v : Value) : Except BuildError (List Value) :=
  match v with
  | .null => .ok []
  | .text s => .ok [.text s]
  | .sqlType t => .ok [.sqlType t]
  | v =>
    match v.items? with
    | some items => .ok items
    | none => .error .notIterable

/-- A nested part of a type. -/
def requirePart {α : Type} (ofValue? : Value → Option α) (kind : NodeKind) (field : String)
    (v : Value) : Except BuildError α :=
  match ofValue? v with
  | some a => .ok a
  | none => .error (.definition (.foreignItem kind field v.typeName))

/-- A list of nested parts of a type. -/
def requireParts {α : Type} (ofValue? : Value → Option α) (kind : NodeKind) (field : String)
    (v : Value) : Except BuildError (List α) :=
  match v.items? with
  | some items => items.mapM (requirePart ofValue? kind field)
  | none => .error .notIterable

/-- One of the known words. -/
def requireChoice {α : Type} (ofText? : String → Option α) (choices : List String)
    (kind : NodeKind) (field : String) (v : Value) : Except BuildError α :=
  match v.text?.bind ofText? with
  | some a => .ok a
  | none =>
    match v.shown? with
    | some shown => .error (.definition (.notAChoice kind field choices shown))
    | none => .error .unwritable

/-- A part that may be missing. -/
def optionalPart {α : Type} (require : Value → Except BuildError α) (v : Value) :
    Except BuildError (Option α) :=
  if v.isNull then .ok none else (require v).map some

/-- An action from named values. -/
def buildAction (args : Arguments) : Except BuildError ReferentialAction := do
  let type ← requireChoice ActionType.ofText? (ActionType.all.map ActionType.sqlText)
    .referentialAction "type" (args.get "type" .null)
  let columns ← namesOf (args.get "columns" (.tuple []))
  return { type, columns }

/-- A foreign key from named values. -/
def buildForeignKey (args : Arguments) : Except BuildError ForeignKey := do
  let refTable ← requireName .foreignKey "ref_table" (args.get "ref_table" (.text ""))
  let columnNames ← namesOf (args.get "column_names" (.tuple []))
  let refColumns ← namesOf (args.get "ref_columns" (.tuple []))
  let onUpdate ← optionalPart (requirePart ReferentialAction.ofValue? .foreignKey "on_update")
    (args.get "on_update" .null)
  let onDelete ← optionalPart (requirePart ReferentialAction.ofValue? .foreignKey "on_delete")
    (args.get "on_delete" .null)
  return { columnNames, refTable, refColumns, onUpdate, onDelete }

/-- A column from named values. -/
def buildColumn (args : Arguments) : Except BuildError Column := do
  let name ← requireName .column "name" (args.get "name" .null)
  let dataType ← requireName .column "data_type" (args.get "data_type" .null)
  let constraints ← requireParts Constraint.ofValue? .column "constraints"
    (args.get "constraints" (.tuple []))
  return { name, dataType, nullable := args.get "nullable" (.bool true)
           default := args.get "default" .null, constraints }

/-- A table creation from named values. -/
def buildCreateTable (args : Arguments) : Except BuildError CreateTable := do
  let tableName ← requireName .createTable "table_name" (args.get "table_name" .null)
  let columns ← requireParts Column.ofValue? .createTable "columns"
    (args.get "columns" (.tuple []))
  let constraints ← requireParts Constraint.ofValue? .createTable "constraints"
    (args.get "constraints" (.tuple []))
  return { tableName, ifNotExists := args.get "if_not_exists" (.bool false), columns, constraints }

/-- A table drop from named values. -/
def buildDropTable (args : Arguments) : Except BuildError DropTable := do
  let tableNames ← namesOf (args.get "table_names" (.tuple []))
  let action ← optionalPart
    (requireChoice DropAction.ofText? (DropAction.all.map DropAction.sqlText) .dropTable "action")
    (args.get "action" .null)
  return { tableNames, ifExists := args.get "if_exists" (.bool false), action }

/-- Builds a node of a kind from named values; the serial number tells the bare bases apart. -/
def build (serial : Nat) (kind : NodeKind) (args : Arguments) : Except BuildError Node :=
  if !args.fit kind then .error .arguments
  else
    match kind with
    | .check =>
      (requireName .check "expression" (args.get "expression" .null)).map fun e =>
        .constraint (.check ⟨e⟩)
    | .foreignKey => (buildForeignKey args).map fun f => .constraint (.foreignKey f)
    | .primaryKey =>
      (namesOf (args.get "column_names" (.tuple []))).map fun names =>
        .constraint (.primaryKey ⟨names⟩)
    | .unique =>
      (namesOf (args.get "column_names" (.tuple []))).map fun names =>
        .constraint (.unique ⟨names, args.get "nulls_distinct" (.bool true)⟩)
    | .referentialAction => (buildAction args).map .action
    | .column => (buildColumn args).map .column
    | .createTable => (buildCreateTable args).map .createTable
    | .dropTable => (buildDropTable args).map .dropTable
    | .bareStatement => .ok (.bareStatement serial)
    | .bareExpression => .ok (.bareExpression serial)

/-- Whether a node is one of the two bare bases. -/
def isBare : Node → Bool
  | .bareStatement _ => true
  | .bareExpression _ => true
  | _ => false

/-- The node with some fields changed, built anew.  A bare base has no fields to change. -/
def withChanges (n : Node) (changes : Arguments) : Except BuildError Node :=
  if n.isBare then .error .arguments else build 0 n.kind (Arguments.override n.fields changes)

/-- The table creation with one more column. -/
def addColumn (n : Node) (v : Value) : Except BuildError Node :=
  match n with
  | .createTable t =>
    n.withChanges [("columns", .tuple (t.columns.map Column.toValue ++ [v]))]
  | _ => .error .noSuchOperation

/-- The table creation with one more constraint. -/
def addConstraint (n : Node) (v : Value) : Except BuildError Node :=
  match n with
  | .createTable t =>
    n.withChanges [("constraints", .tuple (t.constraints.map Constraint.toValue ++ [v]))]
  | _ => .error .noSuchOperation

end Node

/-- A way to derive a node from another one. -/
inductive Derivation
  /-- Changes some fields. -/
  | changes (changes : Arguments)
  /-- Adds a column to a table creation. -/
  | column (v : Value)
  /-- Adds a constraint to a table creation. -/
  | constraint (v : Value)
  deriving Repr

namespace Node

/-- The node that a derivation gives. -/
def derive (n : Node) : Derivation → Except BuildError Node
  | .changes changes => n.withChanges changes
  | .column v => n.addColumn v
  | .constraint v => n.addConstraint v

/-- The node at hand after a derivation: the derived one, or, if there is none, the one before. -/
def after (n : Node) (d : Derivation) : Node :=
  match n.derive d with
  | .ok m => m
  | .error _ => n

/-- The node at hand after derivations in turn. -/
def afterAll (n : Node) (ds : List Derivation) : Node :=
  ds.foldl after n

end Node

/-- The actions that have a short form, by the name of the form; only two of them take columns. -/
def ReferentialAction.short (name : String) (columns : List Value) :
    Except BuildError ReferentialAction :=
  let alone (type : ActionType) : Except BuildError ReferentialAction :=
    if columns.isEmpty then .ok ⟨type, []⟩ else .error .arguments
  match name with
  | "cascade" => alone .cascade
  | "set_null" => .ok ⟨.setNull, columns⟩
  | "set_default" => .ok ⟨.setDefault, columns⟩
  | "restrict" => alone .restrict
  | "no_action" => alone .noAction
  | _ => .error .noSuchOperation

end SqlDialect
