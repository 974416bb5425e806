import SqlDialect.Dialect.Draft
import SqlDialect.Dialect.Engine
import SqlDialect.Text.Blank

/-!
# The drafts of constructs

`Target.draft` writes the draft of a node at a position on a target, construct by construct: the
form comes from the layers, and what a form cannot write becomes an omission with the version that
can.  Nested parts are drafted at their own positions, an action inside a constraint inside a column
inside a table, so that no rule calls itself.
-/

namespace SqlDialect.Target

/-- The omission of a feature. -/
def lack (t : Target) (construct : Node) (f : Feature) : Draft :=
  [.leaveOut ⟨construct, .feature f, t.engine.name, t.version,
    t.since? fun l => l.introduces.contains f⟩]

/-- The omission of a construct that no layer has a form for. -/
def missing (t : Target) (construct : Node) (slot : Slot) : Draft :=
  [.leaveOut ⟨construct, .form slot, t.engine.name, t.version, t.since? fun l => l.handles slot⟩]

/-- The texts of a list of names, unless one of them is no text or blank. -/
def checkNames : List Value → Except Value (List String)
  | [] => .ok []
  | v :: rest =>
    match v.text? with
    | some s => if Text.isBlank s then .error v else (checkNames rest).map (s :: ·)
    | none => .error v

/-- The draft that follows from a list of names, which holds at least one and no blank one. -/
def withNames (construct : Node) (list : NameList) (names : List Value)
    (k : List String → Draft) : Draft :=
  if names.isEmpty then [.reject ⟨.node construct, .noName list⟩]
  else
    match checkNames names with
    | .ok texts => k texts
    | .error v => [.reject ⟨.node construct, .blankName v⟩]

/-- Names between parentheses. -/
def inParentheses (names : List String) : Draft :=
  Draft.verbatim "(" ++ Draft.names names ++ Draft.verbatim ")"

/-! ### Actions -/

/-- The draft of a referential action. -/
def draftAction (t : Target) (a : ReferentialAction) : Draft :=
  let node := Node.action a
  match t.form? .action with
  | none => t.missing node .action
  | some (.literal _ text) => Draft.keyword text
  | some .actionAlone =>
    Draft.keyword a.type.sqlText ++
      if a.columns.isEmpty then []
      else withNames node .actionColumns a.columns fun _ =>
        t.lack node (if a.type.acceptsColumns then .actionColumns else .actionColumnsOther)
  | some .actionWithColumns =>
    Draft.keyword a.type.sqlText ++
      if a.columns.isEmpty then []
      else withNames node .actionColumns a.columns fun columns =>
        if a.type.acceptsColumns then Draft.verbatim " " ++ inParentheses columns
        else t.lack node .actionColumnsOther

/-- An action after the words that introduce it; no action is no text. -/
def draftClause (t : Target) (words : String) : Option ReferentialAction → Draft
  | none => []
  | some a => Draft.keyword words ++ t.draftAction a

/-! ### Constraints -/

/-- The referenced table and columns of a foreign key, and its actions. -/
def draftReferences (t : Target) (f : ForeignKey) : Draft :=
  withNames (.constraint (.foreignKey f)) .referencedColumns f.refColumns fun columns =>
    Draft.keyword "references " ++ Draft.identifier f.refTable ++ Draft.verbatim " " ++
      inParentheses columns ++ t.draftClause " on update " f.onUpdate ++
      t.draftClause " on delete " f.onDelete

/-- The draft of a check constraint of a table. -/
def draftTableCheck (t : Target) (c : Check) : Draft :=
  match t.form? .tableCheck with
  | none => t.missing (.constraint (.check c)) .tableCheck
  | some (.literal _ text) => Draft.keyword text
  | some .tableCheck =>
    Draft.keyword "check (" ++ Draft.verbatim c.expression ++ Draft.verbatim ")"

/-- The draft of a primary key of a table. -/
def draftTablePrimaryKey (t : Target) (p : PrimaryKey) : Draft :=
  let node := Node.constraint (.primaryKey p)
  match t.form? .tablePrimaryKey with
  | none => t.missing node .tablePrimaryKey
  | some (.literal _ text) => Draft.keyword text
  | some .tablePrimaryKey =>
    withNames node .primaryKeyColumns p.columnNames fun columns =>
      Draft.keyword "primary key (" ++ Draft.names columns ++ Draft.verbatim ")"

/-- The draft of a unique constraint of a table. -/
def draftTableUnique (t : Target) (u : Unique) : Draft :=
  let node := Node.constraint (.unique u)
  match t.form? .tableUnique with
  | none => t.missing node .tableUnique
  | some (.literal _ text) => Draft.keyword text
  | some .tableUnique =>
    withNames node .uniqueColumns u.columnNames fun columns =>
      Draft.keyword "unique " ++
        (if u.nullsDistinct.isTrue then [] else t.lack node .uniqueNullsNotDistinct) ++
        inParentheses columns
  | some .tableUniqueNulls =>
    withNames node .uniqueColumns u.columnNames fun columns =>
      Draft.keyword "unique " ++
        (if u.nullsDistinct.isTrue then [] else Draft.keyword "nulls not distinct ") ++
        inParentheses columns

/-- The draft of a foreign key of a table. -/
def draftTableForeignKey (t : Target) (f : ForeignKey) : Draft :=
  let node := Node.constraint (.foreignKey f)
  match t.form? .tableForeignKey with
  | none => t.missing node .tableForeignKey
  | some (.literal _ text) => Draft.keyword text
  | some .tableForeignKey =>
    withNames node .foreignKeyColumns f.columnNames fun columns =>
      withNames node .referencedColumns f.refColumns fun _ =>
        Draft.keyword "foreign key (" ++ Draft.names columns ++ Draft.verbatim ") " ++
          t.draftReferences f

/-- The draft of a constraint of a table. -/
def draftTableConstraint (t : Target) : Constraint → Draft
  | .check c => t.draftTableCheck c
  | .foreignKey f => t.draftTableForeignKey f
  | .primaryKey p => t.draftTablePrimaryKey p
  | .unique u => t.draftTableUnique u

/-- The draft of a check constraint of a column. -/
def draftColumnCheck (t : Target) (c : Check) : Draft :=
  match t.form? .columnCheck with
  | none => t.missing (.constraint (.check c)) .columnCheck
  | some (.literal _ text) => Draft.keyword text
  | some .columnCheck =>
    Draft.keyword " check (" ++ Draft.verbatim c.expression ++ Draft.verbatim ")"

/-- The draft of a foreign key of a column. -/
def draftColumnForeignKey (t : Target) (f : ForeignKey) : Draft :=
  match t.form? .columnForeignKey with
  | none => t.missing (.constraint (.foreignKey f)) .columnForeignKey
  | some (.literal _ text) => Draft.keyword text
  | some .columnForeignKey => Draft.verbatim " " ++ t.draftReferences f

/-- The draft of a primary key of a column. -/
def draftColumnPrimaryKey (t : Target) (p : PrimaryKey) : Draft :=
  match t.form? .columnPrimaryKey with
  | none => t.missing (.constraint (.primaryKey p)) .columnPrimaryKey
  | some (.literal _ text) => Draft.keyword text
  | some .columnPrimaryKey => Draft.keyword " primary key"

/-- The draft of a unique constraint of a column. -/
def draftColumnUnique (t : Target) (u : Unique) : Draft :=
  let node := Node.constraint (.unique u)
  match t.form? .columnUnique with
  | none => t.missing node .columnUnique
  | some (.literal _ text) => Draft.keyword text
  | some .columnUnique =>
    Draft.keyword " unique" ++
      if u.nullsDistinct.isTrue then [] else t.lack node .uniqueNullsNotDistinct
  | some .columnUniqueNulls =>
    Draft.keyword " unique" ++
      if u.nullsDistinct.isTrue then [] else Draft.keyword " nulls not distinct"

/-- The draft of a constraint of a column. -/
def draftColumnConstraint (t : Target) : Constraint → Draft
  | .check c => t.draftColumnCheck c
  | .foreignKey f => t.draftColumnForeignKey f
  | .primaryKey p => t.draftColumnPrimaryKey p
  | .unique u => t.draftColumnUnique u

/-! ### Columns and tables -/

/-- The default of a column, which is raw SQL. -/
def draftDefault (v : Value) : Draft :=
  if v.isNull then []
  else Draft.keyword " default " ++
    match v.text? with
    | some sql => Draft.verbatim sql
    | none => [.emitValue v]

/-- The draft of a column of a new table. -/
def draftColumn (t : Target) (c : Column) : Draft :=
  match t.form? .column with
  | none => t.missing (.column c) .column
  | some (.literal _ text) => Draft.keyword text
  | some .column =>
    Draft.identifier c.name ++ Draft.verbatim (" " ++ c.dataType) ++
      (if c.nullable.isTrue then [] else Draft.keyword " not null") ++ draftDefault c.default ++
      c.constraints.flatMap t.draftColumnConstraint

/-- The draft of a table creation. -/
def draftCreateTable (t : Target) (c : CreateTable) : Draft :=
  match t.form? .createTable with
  | none => t.missing (.createTable c) .createTable
  | some (.literal _ text) => Draft.keyword text
  | some .createTable =>
    Draft.keyword "create table " ++
      (if c.ifNotExists.isTrue then Draft.keyword "if not exists " else []) ++
      Draft.identifier c.tableName ++ Draft.verbatim " (" ++
      Draft.commaSeparated false
        (c.columns.map (fun column => Draft.fragment (t.draftColumn column)) ++
          c.constraints.map fun constraint => Draft.fragment (t.draftTableConstraint constraint)) ++
      Draft.verbatim ")"

/-- The action at the end of a table drop. -/
def draftDropAction : Option DropAction → Draft
  | none => []
  | some a => Draft.keyword (" " ++ a.sqlText)

/-- The draft of a table drop. -/
def draftDropTable (t : Target) (d : DropTable) : Draft :=
  let node := Node.dropTable d
  match t.form? .dropTable with
  | none => t.missing node .dropTable
  | some (.literal _ text) => Draft.keyword text
  | some .dropFirst =>
    withNames node .droppedTables d.tableNames fun tables =>
      Draft.keyword "drop table " ++
        (if d.ifExists.isTrue then Draft.keyword "if exists " else []) ++
        (if 1 < tables.length then t.lack node .dropTableMultiple else []) ++
        Draft.names (tables.take 1) ++ draftDropAction d.action ++
        [.announceDrop (tables.take 1)]
  | some .dropEvery =>
    withNames node .droppedTables d.tableNames fun tables =>
      Draft.keyword "drop table " ++
        (if d.ifExists.isTrue then t.lack node .dropTableIfExists else []) ++
        Draft.names tables ++ draftDropAction d.action ++ [.announceDrop tables]

/-- The draft of a bare statement, which only a form for any statement renders. -/
def draftBareStatement (t : Target) (serial : Nat) : Draft :=
  match t.form? .statement with
  | none => t.missing (.bareStatement serial) .statement
  | some (.literal _ text) => Draft.keyword text

/-! ### Nodes -/

/-- The draft of a node at a position; a node that cannot stand there is malformed. -/
def draft (t : Target) (n : Node) (position : Position) : Draft :=
  match n, position with
  | .createTable c, .statement => t.draftCreateTable c
  | .dropTable d, .statement => t.draftDropTable d
  | .bareStatement serial, .statement => t.draftBareStatement serial
  | .constraint c, .table => t.draftTableConstraint c
  | .constraint c, .column => t.draftColumnConstraint c
  | .column c, .clause => t.draftColumn c
  | .action a, .clause => t.draftAction a
  | n, position => [.reject ⟨.node n, .misplaced position⟩]

/-- The draft of a subject at a position; a value that is no node can stand nowhere. -/
def draftSubject (t : Target) (s : Subject) (position : Position) : Draft :=
  match s with
  | .node n => t.draft n position
  | .plain _ => [.reject ⟨s, .misplaced position⟩]

end SqlDialect.Target
