import SqlDialect.Dialect.Construct

/-!
# The built-in targets

The built-in targets (`Target.builtin`) are the built-in engines at their known versions.  They
differ only in which of five features they can express (`Target.expresses`): on each of them a slot
is rendered in the same form but for these features (`form?_builtin`), so every construct has one
draft for all of them, in which a part that needs a feature is either written or left out
(`Target.express`, and the equations `draft…_builtin`).
-/

namespace SqlDialect

namespace Target

open Draft

/-- The built-in engines at their known versions. -/
def builtin : List Target :=
  Engine.builtin.flatMap fun e => e.versions.map fun v => ⟨e, v⟩

theorem postgresql_mem_builtin {v : Version} (h : v ∈ Platform.postgresqlVersions) :
    ⟨.postgresql, v⟩ ∈ builtin :=
  List.mem_flatMap.mpr ⟨.postgresql, List.mem_cons_self, List.mem_map_of_mem h⟩

theorem sqlite_mem_builtin {v : Version} (h : v ∈ Platform.sqliteVersions) :
    ⟨.sqlite, v⟩ ∈ builtin :=
  List.mem_flatMap.mpr
    ⟨.sqlite, List.mem_cons_of_mem _ List.mem_cons_self, List.mem_map_of_mem h⟩

/-- Whether the engine of a target is PostgreSQL. -/
def isPostgresql (t : Target) : Bool :=
  t.engine.name = Platform.postgresql

/-- Whether the engine of a target is SQLite. -/
def isSqlite (t : Target) : Bool :=
  t.engine.name = Platform.sqlite

/-- Whether a built-in target can express a feature. -/
def expresses (t : Target) : Feature → Bool
  | .dropTableIfExists => t.isSqlite
  | .dropTableMultiple => t.isPostgresql
  | .actionColumns => t.isPostgresql
  | .actionColumnsOther => false
  | .uniqueNullsNotDistinct => t.isPostgresql && (⟨[15]⟩ : Version).upTo t.version

/-- The form in which a built-in target renders a slot. -/
def builtinForm? (t : Target) : (slot : Slot) → Option (Form slot)
  | .statement => none
  | .createTable => some .createTable
  | .dropTable => some (if t.expresses .dropTableMultiple then .dropEvery else .dropFirst)
  | .column => some .column
  | .action => some (if t.expresses .actionColumns then .actionWithColumns else .actionAlone)
  | .tableCheck => some .tableCheck
  | .tableForeignKey => some .tableForeignKey
  | .tablePrimaryKey => some .tablePrimaryKey
  | .tableUnique =>
    some (if t.expresses .uniqueNullsNotDistinct then .tableUniqueNulls else .tableUnique)
  | .columnCheck => some .columnCheck
  | .columnForeignKey => some .columnForeignKey
  | .columnPrimaryKey => some .columnPrimaryKey
  | .columnUnique =>
    some (if t.expresses .uniqueNullsNotDistinct then .columnUniqueNulls else .columnUnique)

/-- The layers that apply to a built-in target give it these forms. -/
theorem form?_builtin {t : Target} (ht : t ∈ builtin) (slot : Slot) :
    t.form? slot = t.builtinForm? slot := by
  have h : ∀ t ∈ builtin, ∀ slot ∈ Slot.all, t.form? slot = t.builtinForm? slot := by decide
  exact h t ht slot (by cases slot <;> decide)

/-- The built-in targets quote alike. -/
theorem quote_of_mem_builtin {t : Target} (ht : t ∈ builtin) : t.engine.quote = .double := by
  have h : ∀ t ∈ builtin, t.engine.quote = .double := by decide
  exact h t ht

/-- A built-in target has either `if exists` or several tables in a table drop. -/
theorem expresses_dropTableIfExists {t : Target} (ht : t ∈ builtin) :
    t.expresses .dropTableIfExists = !t.expresses .dropTableMultiple := by
  have h : ∀ t ∈ builtin, t.expresses .dropTableIfExists = !t.expresses .dropTableMultiple := by
    decide
  exact h t ht

/-- What is written with a feature: on a target without it, it is left out. -/
def express (t : Target) (construct : Node) (f : Feature) (written : Draft) : Draft :=
  if t.expresses f then written else t.lack construct f

end Target

/-- The feature that an action with columns needs. -/
def ReferentialAction.columnsFeature (a : ReferentialAction) : Feature :=
  if a.type.acceptsColumns then .actionColumns else .actionColumnsOther

namespace Target

open Draft

variable {t : Target} (ht : t ∈ builtin)

include ht

/-! ### Statements -/

theorem draftDropTable_builtin (d : DropTable) :
    t.draftDropTable d =
      withNames (.dropTable d) .droppedTables d.tableNames fun tables =>
        let kept := if t.expresses .dropTableMultiple then tables else tables.take 1
        keyword "drop table " ++
          (if d.ifExists.isTrue then
            t.express (.dropTable d) .dropTableIfExists (keyword "if exists ") else []) ++
          (if 1 < tables.length then t.express (.dropTable d) .dropTableMultiple [] else []) ++
          names kept ++ draftDropAction d.action ++ [.announceDrop kept] := by
  unfold draftDropTable express
  rw [form?_builtin ht, builtinForm?, expresses_dropTableIfExists ht]
  cases t.expresses .dropTableMultiple with
  | false => rfl
  | true => simp

theorem draftBareStatement_builtin (serial : Nat) :
    t.draftBareStatement serial = t.missing (.bareStatement serial) .statement := by
  unfold draftBareStatement
  rw [form?_builtin ht, builtinForm?]

theorem draftColumn_builtin (c : Column) :
    t.draftColumn c =
      identifier c.name ++ verbatim (" " ++ c.dataType) ++
        (if c.nullable.isTrue then [] else keyword " not null") ++ draftDefault c.default ++
        c.constraints.flatMap t.draftColumnConstraint := by
  unfold draftColumn
  rw [form?_builtin ht, builtinForm?]

theorem draftCreateTable_builtin (c : CreateTable) :
    t.draftCreateTable c =
      keyword "create table " ++
        (if c.ifNotExists.isTrue then keyword "if not exists " else []) ++
        identifier c.tableName ++ verbatim " (" ++
        commaSeparated false
          (c.columns.map (fun column => fragment (t.draftColumn column)) ++
            c.constraints.map fun k => fragment (t.draftTableConstraint k)) ++
        verbatim ")" := by
  unfold draftCreateTable
  rw [form?_builtin ht, builtinForm?]

/-! ### Actions and constraints -/

theorem draftAction_builtin (a : ReferentialAction) :
    t.draftAction a =
      keyword a.type.sqlText ++
        if a.columns.isEmpty then []
        else withNames (.action a) .actionColumns a.columns fun columns =>
          t.express (.action a) a.columnsFeature (verbatim " " ++ inParentheses columns) := by
  unfold draftAction express ReferentialAction.columnsFeature
  rw [form?_builtin ht, builtinForm?]
  have hother : t.expresses .actionColumnsOther = false := rfl
  cases hcolumns : t.expresses .actionColumns with
  | false => cases a.type.acceptsColumns <;> simp [hcolumns, hother]
  | true => cases a.type.acceptsColumns <;> simp [hcolumns, hother]

theorem draftTableCheck_builtin (c : Check) :
    t.draftTableConstraint (.check c) =
      keyword "check (" ++ verbatim c.expression ++ verbatim ")" := by
  unfold draftTableConstraint draftTableCheck
  rw [form?_builtin ht, builtinForm?]

theorem draftTablePrimaryKey_builtin (p : PrimaryKey) :
    t.draftTableConstraint (.primaryKey p) =
      withNames (.constraint (.primaryKey p)) .primaryKeyColumns p.columnNames fun columns =>
        keyword "primary key (" ++ names columns ++ verbatim ")" := by
  unfold draftTableConstraint draftTablePrimaryKey
  rw [form?_builtin ht, builtinForm?]

theorem draftTableUnique_builtin (u : Unique) :
    t.draftTableConstraint (.unique u) =
      withNames (.constraint (.unique u)) .uniqueColumns u.columnNames fun columns =>
        keyword "unique " ++
          (if u.nullsDistinct.isTrue then []
            else t.express (.constraint (.unique u)) .uniqueNullsNotDistinct
              (keyword "nulls not distinct ")) ++
          inParentheses columns := by
  unfold draftTableConstraint draftTableUnique express
  rw [form?_builtin ht, builtinForm?]
  cases t.expresses .uniqueNullsNotDistinct <;> rfl

theorem draftTableForeignKey_builtin (f : ForeignKey) :
    t.draftTableConstraint (.foreignKey f) =
      withNames (.constraint (.foreignKey f)) .foreignKeyColumns f.columnNames fun columns =>
        withNames (.constraint (.foreignKey f)) .referencedColumns f.refColumns fun _ =>
          keyword "foreign key (" ++ names columns ++ verbatim ") " ++ t.draftReferences f := by
  unfold draftTableConstraint draftTableForeignKey
  rw [form?_builtin ht, builtinForm?]

theorem draftColumnCheck_builtin (c : Check) :
    t.draftColumnConstraint (.check c) =
      keyword " check (" ++ verbatim c.expression ++ verbatim ")" := by
  unfold draftColumnConstraint draftColumnCheck
  rw [form?_builtin ht, builtinForm?]

theorem draftColumnPrimaryKey_builtin (p : PrimaryKey) :
    t.draftColumnConstraint (.primaryKey p) = keyword " primary key" := by
  unfold draftColumnConstraint draftColumnPrimaryKey
  rw [form?_builtin ht, builtinForm?]

theorem draftColumnUnique_builtin (u : Unique) :
    t.draftColumnConstraint (.unique u) =
      keyword " unique" ++
        if u.nullsDistinct.isTrue then []
        else t.express (.constraint (.unique u)) .uniqueNullsNotDistinct
          (keyword " nulls not distinct") := by
  unfold draftColumnConstraint draftColumnUnique express
  rw [form?_builtin ht, builtinForm?]
  cases t.expresses .uniqueNullsNotDistinct <;> rfl

theorem draftColumnForeignKey_builtin (f : ForeignKey) :
    t.draftColumnConstraint (.foreignKey f) = verbatim " " ++ t.draftReferences f := by
  unfold draftColumnConstraint draftColumnForeignKey
  rw [form?_builtin ht, builtinForm?]

end Target

end SqlDialect
