import SqlDialect.Proofs.Acceptance
import SqlDialect.Proofs.Releases

/-!
# Templates of constructs

Each construct has one template (`Node.sql`), which knows the strategy and nothing about the target:
keywords are in the letter case of the strategy, identifiers are quoted as all built-in engines
quote them if it says so, and everything else is written as it is.

What strict rendering writes is the template (`strict_sql_eq_template`).  A draft without hurdles is
followed to its end, and its text (`Draft.sql`) is put together from the texts of its parts; each of
the lemmas `sql_draft…` is that for one construct.
-/

namespace SqlDialect

/-! ### The templates -/

namespace Strategy

variable (s : Strategy)

/-- An identifier, as the built-in engines quote it. -/
def name (text : String) : String :=
  s.formatIdentifier (some .double) text

/-- Names with commas between them. -/
def nameList (names : List Value) : String :=
  String.intercalate ", " ((textsOf names).map s.name)

end Strategy

section Templates

variable (s : Strategy)

/-- `<type>[ (<columns>)]` -/
def ReferentialAction.sql (a : ReferentialAction) : String :=
  s.formatKeyword a.type.sqlText ++
    if a.columns.isEmpty then "" else " (" ++ s.nameList a.columns ++ ")"

/-- `[<words><action>]` -/
def ReferentialAction.sqlClause (words : String) : Option ReferentialAction → String
  | none => ""
  | some a => s.formatKeyword words ++ a.sql s

/-- `references <table> (<columns>)[ on update <action>][ on delete <action>]` -/
def ForeignKey.sqlReferences (f : ForeignKey) : String :=
  s.formatKeyword "references " ++ s.name f.refTable ++ " (" ++ s.nameList f.refColumns ++ ")" ++
    ReferentialAction.sqlClause s " on update " f.onUpdate ++
    ReferentialAction.sqlClause s " on delete " f.onDelete

/-- A constraint of a table: `check (<raw>)`, `foreign key (<columns>) <references>`,
`primary key (<columns>)` or `unique [nulls not distinct ](<columns>)`. -/
def Constraint.sqlOnTable : Constraint → String
  | .check c => s.formatKeyword "check (" ++ c.expression ++ ")"
  | .foreignKey f =>
    s.formatKeyword "foreign key (" ++ s.nameList f.columnNames ++ ") " ++ f.sqlReferences s
  | .primaryKey p => s.formatKeyword "primary key (" ++ s.nameList p.columnNames ++ ")"
  | .unique u =>
    s.formatKeyword "unique " ++
      (if u.nullsDistinct.isTrue then "" else s.formatKeyword "nulls not distinct ") ++
      "(" ++ s.nameList u.columnNames ++ ")"

/-- A constraint of a column, after a blank: `check (<raw>)`, `<references>`, `primary key` or
`unique[ nulls not distinct]`. -/
def Constraint.sqlOnColumn : Constraint → String
  | .check c => s.formatKeyword " check (" ++ c.expression ++ ")"
  | .foreignKey f => " " ++ f.sqlReferences s
  | .primaryKey _ => s.formatKeyword " primary key"
  | .unique u =>
    s.formatKeyword " unique" ++
      if u.nullsDistinct.isTrue then "" else s.formatKeyword " nulls not distinct"

/-- `<name> <type>[ not null][ default <raw>]<constraints>` -/
def Column.sql (c : Column) : String :=
  s.name c.name ++ " " ++ c.dataType ++
    (if c.nullable.isTrue then "" else s.formatKeyword " not null") ++
    (match c.default.text? with
      | none => ""
      | some raw => s.formatKeyword " default " ++ raw) ++
    String.join (c.constraints.map (·.sqlOnColumn s))

/-- What stands between the parentheses of a table creation. -/
def CreateTable.sqlItems (c : CreateTable) : List String :=
  c.columns.map (·.sql s) ++ c.constraints.map (·.sqlOnTable s)

/-- `create table [if not exists ]<name> (<columns and constraints>)` -/
def CreateTable.sql (c : CreateTable) : String :=
  s.formatKeyword "create table " ++
    (if c.ifNotExists.isTrue then s.formatKeyword "if not exists " else "") ++
    s.name c.tableName ++ " (" ++ String.intercalate ", " (c.sqlItems s) ++ ")"

/-- `drop table [if exists ]<tables>[ restrict|cascade]` -/
def DropTable.sql (d : DropTable) : String :=
  s.formatKeyword "drop table " ++
    (if d.ifExists.isTrue then s.formatKeyword "if exists " else "") ++ s.nameList d.tableNames ++
    match d.action with
    | none => ""
    | some a => s.formatKeyword (" " ++ a.sqlText)

/-- The SQL of a node at a position, from the templates of its parts.  A bare base has none. -/
def Node.sql (n : Node) (position : Position) : String :=
  match n, position with
  | .createTable c, _ => c.sql s
  | .dropTable d, _ => d.sql s
  | .constraint c, .table => c.sqlOnTable s
  | .constraint c, _ => c.sqlOnColumn s
  | .column c, _ => c.sql s
  | .action a, _ => a.sql s
  | .bareStatement _, _ => ""
  | .bareExpression _, _ => ""

/-- No item of a table creation is empty, so that no comma stands next to another one or to a
parenthesis. -/
theorem CreateTable.ne_empty_of_mem_sqlItems (c : CreateTable) :
    ∀ item ∈ c.sqlItems s, item ≠ "" := by
  intro item hitem
  rw [sqlItems, List.mem_append, List.mem_map, List.mem_map] at hitem
  rcases hitem with ⟨column, -, rfl⟩ | ⟨k, -, rfl⟩
  · simp [Column.sql]
  · cases k <;> simp [Constraint.sqlOnTable]

end Templates

/-! ### The text of a draft -/

namespace Draft

/-- The pieces of SQL in a draft. -/
def pieces (d : Draft) : List Segment :=
  d.filterMap fun
    | .emit s => some s
    | _ => none

/-- The text of a draft, as the built-in engines quote. -/
def sql (s : Strategy) (d : Draft) : String :=
  s.formatAll (some .double) d.pieces

/-- A reading that comes to its end has all the pieces. -/
theorem segments_of_complete {lenient : Bool} {d : Draft}
    (h : (read lenient d).ending = .complete) : (read lenient d).segments = d.pieces := by
  induction d with
  | nil => rfl
  | cons step rest ih =>
    cases step with
    | emit s => exact congrArg (s :: ·) (ih h)
    | emitValue v => exact ih h
    | leaveOut o =>
      cases lenient with
      | true => exact ih h
      | false => exact absurd h nofun
    | reject x => exact absurd h nofun
    | announceDrop tables => exact ih h
    | failJoin => exact absurd h nofun

variable (s : Strategy)

@[simp] theorem sql_nil : sql s [] = "" := rfl

@[simp] theorem sql_append (a b : Draft) : sql s (a ++ b) = sql s a ++ sql s b := by
  simp [sql, pieces, Strategy.formatAll]

theorem sql_flatMap {α : Type} (xs : List α) (f : α → Draft) :
    sql s (xs.flatMap f) = String.join (xs.map fun x => sql s (f x)) := by
  induction xs with
  | nil => rfl
  | cons x rest ih => rw [List.flatMap_cons, sql_append, ih, List.map_cons, String.join_cons]

@[simp] theorem sql_keyword (text : String) : sql s (keyword text) = s.formatKeyword text := by
  simp [sql, pieces, keyword, Strategy.formatAll, Strategy.format]

@[simp] theorem sql_identifier (name : String) : sql s (identifier name) = s.name name := by
  simp [sql, pieces, identifier, Strategy.formatAll, Strategy.format, Strategy.name]

@[simp] theorem sql_verbatim (text : String) : sql s (verbatim text) = text := by
  simp [sql, pieces, verbatim, Strategy.formatAll, Strategy.format]

@[simp] theorem sql_names (ns : List String) :
    sql s (names ns) = String.intercalate ", " (ns.map s.name) := by
  fun_induction names ns with
  | case1 => simp
  | case2 name => simp
  | case3 name rest hne ih =>
    obtain ⟨next, rest, rfl⟩ := List.exists_cons_of_ne_nil (fun h => hne h)
    simp [ih, comma, String.append_assoc]

@[simp] theorem sql_fragment (d : Draft) : sql s (fragment d) = sql s d := by
  unfold fragment
  split
  · simp [sql, pieces]
  · rfl

/-- Whether a fragment has a text does not depend on how it is joined. -/
theorem isEmptyText_fragment (d : Draft) : isEmptyText (fragment d) = isEmptyText d := by
  unfold fragment
  split
  · simp [isEmptyText, isSilent]
  · rfl

theorem isEmptyText_append (a b : Draft) :
    isEmptyText (a ++ b) = (isEmptyText a && isEmptyText b) :=
  List.all_append

theorem isEmptyText_keyword {text : String} (h : text ≠ "") :
    isEmptyText (keyword text) = false := by
  simp [isEmptyText, keyword, isSilent, h]

/-- A text after a blank is not empty, whatever it is. -/
theorem isEmptyText_blank_append (text : String) :
    isEmptyText (verbatim (" " ++ text)) = false := by
  simp [isEmptyText, verbatim, isSilent]

/-- Fragments that all have a text are joined with a comma between any two of them. -/
theorem sql_commaSeparated {ds : List Draft} (h : ∀ d ∈ ds, isEmptyText d = false) :
    sql s (commaSeparated false ds) = String.intercalate ", " (ds.map (sql s)) := by
  cases ds with
  | nil => simp [commaSeparated]
  | cons d rest =>
    obtain ⟨hd, hrest⟩ := List.forall_mem_cons.mp h
    -- after the first fragment each one brings its comma
    have hjoin (text : String) : text ++ sql s (commaSeparated true rest) =
        String.intercalate ", " (text :: rest.map (sql s)) := by
      clear h
      induction rest generalizing text with
      | nil => simp [commaSeparated]
      | cons e rest ih =>
        obtain ⟨he, hrest⟩ := List.forall_mem_cons.mp hrest
        rw [commaSeparated, he, List.map_cons, String.intercalate_cons_cons, ← ih hrest]
        simp [comma, String.append_assoc]
    rw [commaSeparated, hd, List.map_cons, ← hjoin]
    simp

end Draft

/-! ### Drafts without hurdles -/

namespace Target

open Draft

variable {t : Target} {s : Strategy}

/-- Where nothing is wrong, names are followed by what follows from them. -/
theorem withNames_of_clear {construct : Node} {list : NameList} {names : List Value}
    {k : List String → Draft} (h : Draft.hurdles (withNames construct list names k) = []) :
    withNames construct list names k = k (textsOf names) := by
  rw [withNames_eq] at h ⊢
  cases hc : list.cause? names with
  | none => rfl
  | some cause =>
    rw [hc] at h
    exact absurd h nofun

/-- Where nothing is left out, what needs a feature is written. -/
theorem express_of_clear {construct : Node} {f : Feature} {written : Draft}
    (h : Draft.hurdles (t.express construct f written) = []) :
    t.express construct f written = written := by
  unfold express at h ⊢
  split
  · rfl
  · rw [if_neg ‹_›] at h
    exact absurd h nofun

theorem blank_append_parenthesis (text : String) : " " ++ ("(" ++ text) = " (" ++ text := by
  rw [← String.append_assoc]
  rfl

@[simp] theorem sql_inParentheses (ns : List String) :
    Draft.sql s (inParentheses ns) = "(" ++ String.intercalate ", " (ns.map s.name) ++ ")" := by
  simp [inParentheses, String.append_assoc]

/-- What is said about nulls. -/
theorem sql_nulls {u : Unique} {construct : Node} {words : String}
    (h : Draft.hurdles (if u.nullsDistinct.isTrue then []
      else t.express construct .uniqueNullsNotDistinct (keyword words)) = []) :
    Draft.sql s (if u.nullsDistinct.isTrue then []
      else t.express construct .uniqueNullsNotDistinct (keyword words)) =
      if u.nullsDistinct.isTrue then "" else s.formatKeyword words := by
  split
  · rfl
  · rw [if_neg ‹_›] at h
    rw [express_of_clear h, sql_keyword]

/-- The default of a column that is a text or absent. -/
theorem draftDefault_of_hasTextDefault {c : Column} (h : c.hasTextDefault = true) :
    draftDefault c.default =
      match c.default.text? with
      | none => []
      | some raw => keyword " default " ++ verbatim raw := by
  unfold draftDefault
  cases htext : c.default.text? with
  | some raw =>
    have hnull : c.default.isNull = false := by
      cases hd : c.default <;> first | rfl | simp [hd, Value.text?] at htext
    simp [hnull]
  | none =>
    have hnull : c.default.isNull = true := by
      simpa [Column.hasTextDefault, htext] using h
    simp [hnull]

theorem sql_draftDefault {c : Column} (h : c.hasTextDefault = true) :
    Draft.sql s (draftDefault c.default) =
      match c.default.text? with
      | none => ""
      | some raw => s.formatKeyword " default " ++ raw := by
  rw [draftDefault_of_hasTextDefault h]
  split <;> simp

variable (ht : t ∈ builtin)

include ht

theorem sql_draftAction {a : ReferentialAction} (h : Draft.hurdles (t.draftAction a) = []) :
    Draft.sql s (t.draftAction a) = a.sql s := by
  rw [draftAction_builtin ht] at h ⊢
  unfold ReferentialAction.sql
  split
  · simp
  · rw [if_neg ‹_›, hurdles_append, hurdles_keyword, List.nil_append] at h
    have hnamed := withNames_of_clear h
    rw [hnamed] at h ⊢
    rw [express_of_clear h]
    simp [Strategy.nameList, String.append_assoc, blank_append_parenthesis]

theorem sql_draftClause {words : String} {a : Option ReferentialAction}
    (h : Draft.hurdles (t.draftClause words a) = []) :
    Draft.sql s (t.draftClause words a) = ReferentialAction.sqlClause s words a := by
  cases a with
  | none => rfl
  | some a =>
    rw [draftClause, hurdles_append, hurdles_keyword, List.nil_append] at h
    rw [draftClause, sql_append, sql_keyword, sql_draftAction ht h, ReferentialAction.sqlClause]

theorem sql_draftReferences {f : ForeignKey} (h : Draft.hurdles (t.draftReferences f) = []) :
    Draft.sql s (t.draftReferences f) = f.sqlReferences s := by
  unfold draftReferences at h ⊢
  have hnamed := withNames_of_clear h
  rw [hnamed] at h ⊢
  simp only [hurdles_append, List.append_eq_nil_iff] at h
  obtain ⟨⟨-, hupdate⟩, hdelete⟩ := h
  simp only [sql_append, sql_keyword, sql_identifier, sql_verbatim, sql_inParentheses,
    sql_draftClause ht hupdate, sql_draftClause ht hdelete]
  simp [ForeignKey.sqlReferences, Strategy.nameList, String.append_assoc, blank_append_parenthesis]

theorem sql_draftTableConstraint {c : Constraint}
    (h : Draft.hurdles (t.draftTableConstraint c) = []) :
    Draft.sql s (t.draftTableConstraint c) = c.sqlOnTable s := by
  cases c with
  | check c => simp [draftTableCheck_builtin ht, Constraint.sqlOnTable, String.append_assoc]
  | foreignKey f =>
    rw [draftTableForeignKey_builtin ht] at h ⊢
    have hnamed := withNames_of_clear h
    rw [hnamed] at h ⊢
    have hrefs := withNames_of_clear h
    rw [hrefs] at h ⊢
    rw [hurdles_append, List.append_eq_nil_iff] at h
    simp [sql_draftReferences ht h.2, Constraint.sqlOnTable, Strategy.nameList,
      String.append_assoc]
  | primaryKey p =>
    rw [draftTablePrimaryKey_builtin ht] at h ⊢
    rw [withNames_of_clear h]
    simp [Constraint.sqlOnTable, Strategy.nameList, String.append_assoc]
  | unique u =>
    rw [draftTableUnique_builtin ht] at h ⊢
    have hnamed := withNames_of_clear h
    rw [hnamed] at h ⊢
    simp only [hurdles_append, List.append_eq_nil_iff] at h
    obtain ⟨⟨-, hnulls⟩, -⟩ := h
    rw [sql_append, sql_append, sql_keyword, sql_nulls hnulls, Constraint.sqlOnTable]
    simp [Strategy.nameList, String.append_assoc]

theorem sql_draftColumnConstraint {c : Constraint}
    (h : Draft.hurdles (t.draftColumnConstraint c) = []) :
    Draft.sql s (t.draftColumnConstraint c) = c.sqlOnColumn s := by
  cases c with
  | check c => simp [draftColumnCheck_builtin ht, Constraint.sqlOnColumn, String.append_assoc]
  | foreignKey f =>
    rw [draftColumnForeignKey_builtin ht, hurdles_append, hurdles_verbatim, List.nil_append] at h
    rw [draftColumnForeignKey_builtin ht, sql_append, sql_verbatim, sql_draftReferences ht h,
      Constraint.sqlOnColumn]
  | primaryKey p => simp [draftColumnPrimaryKey_builtin ht, Constraint.sqlOnColumn]
  | unique u =>
    rw [draftColumnUnique_builtin ht, hurdles_append, hurdles_keyword, List.nil_append] at h
    rw [draftColumnUnique_builtin ht, sql_append, sql_keyword, sql_nulls h,
      Constraint.sqlOnColumn]

theorem sql_draftColumn {c : Column} (htext : c.hasTextDefault = true)
    (h : Draft.hurdles (t.draftColumn c) = []) : Draft.sql s (t.draftColumn c) = c.sql s := by
  rw [draftColumn_builtin ht] at h ⊢
  rw [hurdles_append, List.append_eq_nil_iff, hurdles_flatMap, List.flatMap_eq_nil_iff] at h
  have hconstraints : Draft.sql s (c.constraints.flatMap t.draftColumnConstraint) =
      String.join (c.constraints.map (·.sqlOnColumn s)) := by
    rw [sql_flatMap]
    congr 1
    exact List.map_congr_left fun k hmem => sql_draftColumnConstraint ht (h.2 k hmem)
  simp only [sql_append, sql_identifier, sql_verbatim, hconstraints, sql_draftDefault htext,
    apply_ite (Draft.sql s), sql_nil, sql_keyword, Column.sql, String.append_assoc]

/-- A column has a text, whatever its name is. -/
theorem isEmptyText_draftColumn (c : Column) : isEmptyText (t.draftColumn c) = false := by
  simp [draftColumn_builtin ht, isEmptyText_append, isEmptyText_blank_append]

/-- A constraint without hurdles has a text. -/
theorem isEmptyText_draftTableConstraint {c : Constraint}
    (h : Draft.hurdles (t.draftTableConstraint c) = []) :
    isEmptyText (t.draftTableConstraint c) = false := by
  cases c with
  | check c => simp [draftTableCheck_builtin ht, isEmptyText_append, isEmptyText_keyword]
  | foreignKey f =>
    rw [draftTableForeignKey_builtin ht] at h ⊢
    have hnamed := withNames_of_clear h
    rw [hnamed] at h ⊢
    rw [withNames_of_clear h]
    simp [isEmptyText_append, isEmptyText_keyword]
  | primaryKey p =>
    rw [draftTablePrimaryKey_builtin ht] at h ⊢
    rw [withNames_of_clear h]
    simp [isEmptyText_append, isEmptyText_keyword]
  | unique u =>
    rw [draftTableUnique_builtin ht] at h ⊢
    rw [withNames_of_clear h]
    simp [isEmptyText_append, isEmptyText_keyword]

theorem sql_draftCreateTable {c : CreateTable} (htext : c.columns.all Column.hasTextDefault = true)
    (h : Draft.hurdles (t.draftCreateTable c) = []) :
    Draft.sql s (t.draftCreateTable c) = c.sql s := by
  rw [draftCreateTable_builtin ht] at h ⊢
  simp only [hurdles_append, hurdles_commaSeparated, List.append_eq_nil_iff,
    List.flatMap_append, List.flatMap_map, hurdles_fragment, List.flatMap_eq_nil_iff] at h
  obtain ⟨⟨-, hcolumns, hconstraints⟩, -⟩ := h
  have hitems : Draft.sql s (commaSeparated false
      (c.columns.map (fun column => fragment (t.draftColumn column)) ++
        c.constraints.map fun k => fragment (t.draftTableConstraint k))) =
      String.intercalate ", " (c.sqlItems s) := by
    rw [sql_commaSeparated, List.map_append, List.map_map, List.map_map, CreateTable.sqlItems]
    · congr 2
      · refine List.map_congr_left fun column hmem => ?_
        have hdefault := List.all_eq_true.mp htext column hmem
        simp [sql_draftColumn ht hdefault (hcolumns column hmem)]
      · refine List.map_congr_left fun k hmem => ?_
        simp [sql_draftTableConstraint ht (hconstraints k hmem)]
    · intro d hd
      rw [List.mem_append, List.mem_map, List.mem_map] at hd
      rcases hd with ⟨column, hmem, rfl⟩ | ⟨k, hmem, rfl⟩
      · rw [isEmptyText_fragment, isEmptyText_draftColumn ht]
      · rw [isEmptyText_fragment, isEmptyText_draftTableConstraint ht (hconstraints k hmem)]
  simp only [sql_append, sql_keyword, sql_identifier, sql_verbatim, hitems,
    apply_ite (Draft.sql s), sql_nil, CreateTable.sql, String.append_assoc]

omit ht in
theorem sql_draftDropAction (a : Option DropAction) :
    Draft.sql s (draftDropAction a) =
      match a with
      | none => ""
      | some a => s.formatKeyword (" " ++ a.sqlText) := by
  cases a with
  | none => rfl
  | some a => exact sql_keyword s _

theorem sql_draftDropTable {d : DropTable} (h : Draft.hurdles (t.draftDropTable d) = []) :
    Draft.sql s (t.draftDropTable d) = d.sql s := by
  rw [draftDropTable_builtin ht] at h ⊢
  have hnamed := withNames_of_clear h
  rw [hnamed] at h ⊢
  simp only [hurdles_append, List.append_eq_nil_iff] at h
  obtain ⟨⟨⟨⟨⟨-, hexists⟩, hmany⟩, -⟩, -⟩, -⟩ := h
  have hwritten : (if d.ifExists.isTrue then
      t.express (.dropTable d) .dropTableIfExists (keyword "if exists ") else []) =
      if d.ifExists.isTrue then keyword "if exists " else [] := by
    split
    · rw [if_pos ‹_›] at hexists
      exact express_of_clear hexists
    · rfl
  have hrest : (if 1 < (textsOf d.tableNames).length then
      t.express (.dropTable d) .dropTableMultiple [] else []) = [] := by
    split
    · rw [if_pos ‹_›] at hmany
      exact express_of_clear hmany
    · rfl
  -- a target that drops one table only is given no second one
  have hkept : (if t.expresses .dropTableMultiple then textsOf d.tableNames
      else (textsOf d.tableNames).take 1) = textsOf d.tableNames := by
    split
    · rfl
    · rename_i hone
      refine List.take_of_length_le (Nat.le_of_not_lt fun hlt => ?_)
      rw [if_pos hlt, express, if_neg hone] at hmany
      exact absurd hmany nofun
  have hannounce (tables : List String) : Draft.sql s [.announceDrop tables] = "" := rfl
  rw [hwritten, hrest, hkept]
  simp only [sql_append, sql_keyword, sql_names, sql_draftDropAction, hannounce,
    apply_ite (Draft.sql s), sql_nil, String.append_empty, DropTable.sql, Strategy.nameList]

/-- **A draft without hurdles has the text of the template.** -/
theorem sql_draft {n : Node} {p : Position} (htext : n.hasTextDefaults = true)
    (h : t.hurdles n p = []) : Draft.sql s (t.draft n p) = n.sql s p := by
  rw [← hurdles_draft ht] at h
  by_cases hstands : n.Stands p
  · cases hstands with
    | createTable c => exact sql_draftCreateTable ht htext h
    | dropTable d => exact sql_draftDropTable ht h
    | bareStatement serial =>
      rw [show t.draft (.bareStatement serial) .statement = _ from
        draftBareStatement_builtin ht serial] at h
      exact absurd h nofun
    | tableConstraint c => exact sql_draftTableConstraint ht h
    | columnConstraint c => exact sql_draftColumnConstraint ht h
    | column c => exact sql_draftColumn ht htext h
    | action a => exact sql_draftAction ht h
  · rw [draft_of_not_stands hstands] at h
    exact absurd h nofun

end Target

/-! ### Strict rendering -/

namespace Visitor

/-- What strict rendering on a built-in target writes. -/
theorem sql_of_strict_renders {v : Visitor} (hv : v.target ∈ Target.builtin) {n : Node}
    {p : Position} (htext : n.hasTextDefaults = true) {sql : String} {os : List Omission}
    (h : (v.strict.render n p).outcome = .rendered sql os) : sql = n.sql v.strategy p := by
  have hclear := (strict_renders_iff hv htext p).mp ⟨sql, os, h⟩
  rw [strict_outcome] at h
  obtain ⟨hcomplete, hsql, -⟩ := outcomeOf_eq_rendered h
  rw [← Target.sql_draft hv htext hclear, ← hsql, sqlOf, Draft.segments_of_complete hcomplete,
    Target.quote_of_mem_builtin hv]
  rfl

/-- **What strict rendering writes is the template**, for any built-in engine and any version that
it accepts, so two targets that accept a node write the same text.  The items of a table creation
have commas between them and are not empty. -/
theorem strict_sql_eq_template {engine version : Value} {s : Strategy} {v : Visitor}
    (hv : Visitor.find engine version s = .ok v) (n : Node) (p : Position)
    (htext : n.hasTextDefaults = true) :
    (∀ sql omitted, (v.strict.render n p).outcome = .rendered sql omitted → sql = n.sql s p) ∧
    (∀ (engine' version' : Value) (w : Visitor), Visitor.find engine' version' s = .ok w →
      ∀ sql sql' omitted omitted', (v.strict.render n p).outcome = .rendered sql omitted →
        (w.strict.render n p).outcome = .rendered sql' omitted' → sql = sql') ∧
    ∀ c, n = .createTable c → ∀ item ∈ c.sqlItems s, item ≠ "" := by
  have htemplate {engine version : Value} {v : Visitor}
      (hv : Visitor.find engine version s = .ok v) {sql : String} {omitted : List Omission}
      (h : (v.strict.render n p).outcome = .rendered sql omitted) : sql = n.sql s p := by
    obtain ⟨htarget, hstrategy⟩ := Visitor.of_find hv
    rw [← hstrategy]
    exact sql_of_strict_renders (Target.mem_builtin_of_find htarget) htext h
  refine ⟨?_, ?_, ?_⟩
  · intro sql omitted h
    exact htemplate hv h
  · intro engine' version' w hw sql sql' omitted omitted' h h'
    rw [htemplate hv h, htemplate hw h']
  · intro c _
    exact c.ne_empty_of_mem_sqlItems s

/-- A release of SQLite 3, with keywords in capitals and identifiers in quotes. -/
theorem strict_sql_eq_template_sqlite :
    let s : Strategy := { keywordCase := .upper, quoteIdentifiers := true }
    let v : Visitor := ⟨⟨.sqlite, ⟨[3]⟩⟩, s⟩
    let f : ForeignKey :=
      { refTable := "u", refColumns := [.text "id"], onDelete := some ⟨.setNull, []⟩ }
    let n : Node := .createTable
      { tableName := "t", ifNotExists := .bool true
        columns := [{ name := "a\"b", dataType := "int", nullable := .bool false
                      default := .text "0", constraints := [.foreignKey f] }]
        constraints := [.primaryKey { columnNames := [.text "a", .text "b"] }] }
    let sql : String :=
      "CREATE TABLE IF NOT EXISTS \"t\" (\"a\"\"b\" int NOT NULL DEFAULT 0 REFERENCES \"u\" " ++
        "(\"id\") ON DELETE SET NULL, PRIMARY KEY (\"a\", \"b\"))"
    Visitor.find (.text "sqlite3") (.text "3.45.1") s = .ok v ∧ n.hasTextDefaults = true ∧
      ∃ omitted, (v.strict.render n .statement).outcome = .rendered sql omitted := by
  intro s v f n sql
  have hv : Visitor.find (.text "sqlite3") (.text "3.45.1") s = .ok v := rfl
  have htemplate : n.sql s .statement = sql := by decide +kernel
  have htarget := Target.mem_builtin_of_find (Visitor.of_find hv).1
  obtain ⟨written, omitted, hrender⟩ :=
    (strict_renders_iff htarget (n := n) rfl .statement).mpr rfl
  have hwritten := (strict_sql_eq_template hv n .statement rfl).1 written omitted hrender
  refine ⟨hv, rfl, omitted, ?_⟩
  rw [← htemplate, ← hwritten]
  exact hrender

end Visitor

end SqlDialect
