import SqlDialect.Dialect.Slot
import SqlDialect.Version

/-!
# Layers

A layer is one version step of an engine: the forms in which it renders constructs, by slot, the
first version it applies to, and the features that become available with it.  A `Form` belongs to
its slot, so a layer cannot fill a slot with the form of another construct.  A construct without a
form of its own in a layer is rendered by the layer's form for any statement, if it is one.
-/

namespace SqlDialect

/-- A part of a construct that only some versions can express. -/
inductive Feature
  | dropTableIfExists | dropTableMultiple | actionColumns | actionColumnsOther
  | uniqueNullsNotDistinct
  deriving DecidableEq, Repr

namespace Feature

/-- Every feature. -/
def all : List Feature :=
  [.dropTableIfExists, .dropTableMultiple, .actionColumns, .actionColumnsOther,
    .uniqueNullsNotDistinct]

/-- The symbol of a feature. -/
def symbol : Feature → String
  | .dropTableIfExists => "DROP_TABLE_IF_EXISTS"
  | .dropTableMultiple => "DROP_TABLE_MULTIPLE"
  | .actionColumns => "REFERENTIAL_ACTION_COLUMNS"
  | .actionColumnsOther => "REFERENTIAL_ACTION_COLUMNS_OTHER"
  | .uniqueNullsNotDistinct => "UNIQUE_NULLS_NOT_DISTINCT"

/-- What messages call a feature. -/
def description : Feature → String
  | .dropTableIfExists => "IF EXISTS in DROP TABLE"
  | .dropTableMultiple => "multiple tables in DROP TABLE"
  | .actionColumns => "column subset in SET NULL / SET DEFAULT"
  | .actionColumnsOther =>
    "column subset in referential actions other than SET NULL / SET DEFAULT"
  | .uniqueNullsNotDistinct => "NULLS NOT DISTINCT in UNIQUE"

/-- The feature of a symbol. -/
def ofSymbol? (s : String) : Option Feature :=
  all.find? fun f => f.symbol = s

end Feature

/-- A way to render the constructs of a slot. -/
inductive Form : Slot → Type
  /-- Fixed keywords, whatever the node. -/
  | literal (slot : Slot) (text : String) : Form slot
  | createTable : Form .createTable
  /-- Drops the first table only; `if exists` can be written. -/
  | dropFirst : Form .dropTable
  /-- Drops every table; `if exists` cannot be written. -/
  | dropEvery : Form .dropTable
  | column : Form .column
  /-- An action on whole rows: columns cannot be written. -/
  | actionAlone : Form .action
  /-- An action with the columns it is limited to, where it accepts them. -/
  | actionWithColumns : Form .action
  | tableCheck : Form .tableCheck
  | tableForeignKey : Form .tableForeignKey
  | tablePrimaryKey : Form .tablePrimaryKey
  /-- A unique constraint in which nulls are always distinct. -/
  | tableUnique : Form .tableUnique
  /-- A unique constraint that says when nulls are not distinct. -/
  | tableUniqueNulls : Form .tableUnique
  | columnCheck : Form .columnCheck
  | columnForeignKey : Form .columnForeignKey
  | columnPrimaryKey : Form .columnPrimaryKey
  /-- A unique constraint in which nulls are always distinct. -/
  | columnUnique : Form .columnUnique
  /-- A unique constraint that says when nulls are not distinct. -/
  | columnUniqueNulls : Form .columnUnique
  deriving DecidableEq, Repr

/-- One version step of an engine. -/
structure Layer where
  name : String
  /-- The first version that the layer applies to; none for a layer of every version. -/
  version : Option Version := none
  /-- The features that become available with the layer. -/
  introduces : List Feature := []
  /-- The form of each slot that the layer renders. -/
  form? : (slot : Slot) → Option (Form slot) := fun _ => none

namespace Layer

/-- Whether a layer has a form for exactly this slot. -/
def handles (l : Layer) (slot : Slot) : Bool :=
  (l.form? slot).isSome

/-- The text of a form for any statement, as a form of another slot.  Such a form is literal. -/
def anyStatement? (l : Layer) (slot : Slot) : Option (Form slot) :=
  if slot.isStatement then
    match l.form? .statement with
    | some (.literal _ text) => some (.literal slot text)
    | none => none
  else none

/-- The form in which a layer renders a slot: its own one, or that for any statement. -/
def find? (l : Layer) (slot : Slot) : Option (Form slot) :=
  (l.form? slot).orElse fun _ => l.anyStatement? slot

/-- Whether a layer applies to a version. -/
def appliesTo (l : Layer) (v : Version) : Bool :=
  match l.version with
  | none => true
  | some w => w.upTo v

/-- A layer that renders nothing. -/
def empty : Layer where
  name := "RenderLayer"

/-- The forms that every engine has in common. -/
def standard : Layer where
  name := "StandardLayer"
  form?
    | .createTable => some .createTable
    | .dropTable => some .dropFirst
    | .column => some .column
    | .action => some .actionAlone
    | .tableCheck => some .tableCheck
    | .tableForeignKey => some .tableForeignKey
    | .tablePrimaryKey => some .tablePrimaryKey
    | .tableUnique => some .tableUnique
    | _ => none

/-- The forms of constraints on a column. -/
def columnConstraints : Layer where
  name := "ColumnConstraintLayer"
  form?
    | .columnCheck => some .columnCheck
    | .columnForeignKey => some .columnForeignKey
    | .columnPrimaryKey => some .columnPrimaryKey
    | .columnUnique => some .columnUnique
    | _ => none

/-- What PostgreSQL 9.1 renders in a form of its own. -/
def postgresql91 : Layer where
  name := "PostgreSQL91Layer"
  version := some ⟨[9, 1]⟩
  introduces := [.dropTableMultiple, .actionColumns]
  form?
    | .dropTable => some .dropEvery
    | .action => some .actionWithColumns
    | slot => columnConstraints.form? slot

/-- What PostgreSQL 15 renders in a form of its own. -/
def postgresql15 : Layer where
  name := "PostgreSQL15Layer"
  version := some ⟨[15]⟩
  introduces := [.uniqueNullsNotDistinct]
  form?
    | .tableUnique => some .tableUniqueNulls
    | .columnUnique => some .columnUniqueNulls
    | _ => none

/-- What SQLite 3 renders in a form of its own. -/
def sqlite3 : Layer where
  name := "SQLite3Layer"
  version := some ⟨[3]⟩
  form? := columnConstraints.form?

/-! ### Layers made from layers -/

/-- A layer that keeps only some slots, without a version and without features. -/
def restrict (l : Layer) (slots : List Slot) : Layer where
  name := l.name
  form? slot := if slots.contains slot then l.form? slot else none

/-- A layer with one slot filled by fixed keywords. -/
def withLiteral (l : Layer) (filled : Slot) (text : String) : Layer :=
  { l with form? := fun slot => if slot = filled then some (.literal slot text) else l.form? slot }

end Layer

end SqlDialect
