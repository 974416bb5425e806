import Mathlib.Tactic.ByContra
import SqlDialect.Proofs.Builtin
import SqlDialect.Proofs.Reading

/-!
# The hurdles of a node

What can stand in the way of rendering a node is told from the node alone: `Node.hurdles` lists its
malformed parts and the parts that need a feature, in the order in which rendering meets them.  A
malformed part hides the features that it needs itself, since names are checked first, and a node
that does not stand at the position (`Node.Stands`) is one defect.

A built-in target meets the hurdles that it has no feature for (`Target.blocks`), and no others
(`hurdles_draft`).
-/

namespace SqlDialect

/-! ### Lists of names -/

/-- Whether a value names a table or a column: a text that is not blank. -/
def Value.isName (v : Value) : Bool :=
  match v.text? with
  | some s => !Text.isBlank s
  | none => false

theorem Value.isName_of_text {v : Value} {s : String} (h : v.text? = some s) :
    v.isName = !Text.isBlank s := by
  rw [isName, h]

theorem Value.exists_text_of_isName {v : Value} (h : v.isName = true) :
    ∃ s, v.text? = some s := by
  cases ht : v.text? with
  | none =>
    rw [isName, ht] at h
    exact Bool.noConfusion h
  | some s => exact ⟨s, rfl⟩

/-- The texts of names. -/
def textsOf (names : List Value) : List String :=
  names.filterMap Value.text?

theorem textsOf_cons {v : Value} {s : String} (h : v.text? = some s) (rest : List Value) :
    textsOf (v :: rest) = s :: textsOf rest :=
  List.filterMap_cons_some h

theorem length_textsOf {names : List Value} (h : ∀ v ∈ names, v.isName = true) :
    (textsOf names).length = names.length := by
  induction names with
  | nil => rfl
  | cons v rest ih =>
    obtain ⟨hv, hrest⟩ := List.forall_mem_cons.mp h
    obtain ⟨s, hs⟩ := Value.exists_text_of_isName hv
    rw [textsOf_cons hs, List.length_cons, List.length_cons, ih hrest]

/-- What is wrong with a list of names that has to hold one. -/
def NameList.cause? (list : NameList) (names : List Value) : Option DefectCause :=
  if names.isEmpty then some (.noName list)
  else (names.find? fun v => !v.isName).map .blankName

/-- A list of names that has to hold one holds none, or something that is no name. -/
def Unnamed (names : List Value) : Prop :=
  names = [] ∨ ∃ v ∈ names, v.isName = false

theorem isName_of_named {names : List Value} (h : ¬ Unnamed names) :
    ∀ v ∈ names, v.isName = true := by
  intro v hv
  by_contra hn
  exact h (.inr ⟨v, hv, Bool.eq_false_iff.mpr hn⟩)

theorem not_unnamed_take {names : List Value} (h : ¬ Unnamed names) :
    ¬ Unnamed (names.take 1) := by
  cases names with
  | nil => exact absurd (.inl rfl) h
  | cons v rest =>
    have hv := isName_of_named h v List.mem_cons_self
    rintro (hnil | ⟨w, hw, hblank⟩)
    · exact List.cons_ne_nil v _ hnil
    · rw [List.mem_singleton.mp hw, hv] at hblank
      exact Bool.noConfusion hblank

theorem textsOf_take {names : List Value} (h : ¬ Unnamed names) :
    textsOf (names.take 1) = (textsOf names).take 1 := by
  cases names with
  | nil => rfl
  | cons v rest =>
    obtain ⟨s, hs⟩ := Value.exists_text_of_isName (isName_of_named h v List.mem_cons_self)
    rw [textsOf_cons hs, List.take_succ_cons, textsOf_cons hs]
    rfl

/-- Nothing is wrong exactly with the lists that are not unnamed. -/
theorem NameList.cause?_eq_none_iff (list : NameList) (names : List Value) :
    list.cause? names = none ↔ ¬ Unnamed names := by
  unfold NameList.cause? Unnamed
  cases names with
  | nil => simp
  | cons v rest => simp

/-- The hurdles of a list of names and of what follows from it. -/
def namesHurdles (construct : Node) (list : NameList) (names : List Value)
    (rest : List Hurdle) : List Hurdle :=
  match list.cause? names with
  | some cause => [.defect ⟨.node construct, cause⟩]
  | none => rest

theorem namesHurdles_of_named {construct : Node} {list : NameList} {names : List Value}
    {rest : List Hurdle} (h : ¬ Unnamed names) : namesHurdles construct list names rest = rest := by
  rw [namesHurdles, (list.cause?_eq_none_iff names).mpr h]

/-- What follows from names counts only where nothing is wrong with them. -/
theorem namesHurdles_congr {construct : Node} {list : NameList} {names : List Value}
    {rest rest' : List Hurdle} (h : ¬ Unnamed names → rest = rest') :
    namesHurdles construct list names rest = namesHurdles construct list names rest' := by
  unfold namesHurdles
  cases hc : list.cause? names with
  | none => exact h ((list.cause?_eq_none_iff names).mp hc)
  | some cause => rfl

/-- A list of names that is checked twice is as good as one that is checked once. -/
theorem namesHurdles_twice (construct : Node) (list : NameList) (names : List Value)
    (rest : List Hurdle) :
    namesHurdles construct list names (namesHurdles construct list names rest) =
      namesHurdles construct list names rest := by
  unfold namesHurdles
  cases list.cause? names <;> rfl

namespace Target

theorem checkNames_eq (names : List Value) :
    checkNames names =
      match names.find? fun v => !v.isName with
      | some v => .error v
      | none => .ok (textsOf names) := by
  -- both sides stop at the first value that is no name
  induction names with
  | nil => rfl
  | cons v rest ih =>
    rw [checkNames, List.find?_cons, ih]
    cases ht : v.text? with
    | none => simp [Value.isName, ht]
    | some s =>
      rw [Value.isName_of_text ht, textsOf_cons ht]
      dsimp only
      cases Text.isBlank s with
      | true => rfl
      | false => cases rest.find? fun v => !v.isName <;> rfl

/-- A draft that follows from names: it is a rejection exactly where something is wrong with
them. -/
theorem withNames_eq (construct : Node) (list : NameList) (names : List Value)
    (k : List String → Draft) :
    withNames construct list names k =
      match list.cause? names with
      | some cause => [.reject ⟨.node construct, cause⟩]
      | none => k (textsOf names) := by
  unfold withNames NameList.cause?
  split
  · rfl
  · rw [checkNames_eq]
    cases names.find? fun v => !v.isName <;> rfl

theorem withNames_of_named {construct : Node} {list : NameList} {names : List Value}
    {k : List String → Draft} (h : ¬ Unnamed names) :
    withNames construct list names k = k (textsOf names) := by
  rw [withNames_eq, (list.cause?_eq_none_iff names).mpr h]

theorem hurdles_withNames (construct : Node) (list : NameList) (names : List Value)
    (k : List String → Draft) :
    Draft.hurdles (withNames construct list names k) =
      namesHurdles construct list names (Draft.hurdles (k (textsOf names))) := by
  rw [withNames_eq, namesHurdles]
  cases list.cause? names <;> rfl

end Target

/-! ### Nodes -/

/-- The hurdles of an action: columns that are no names, or that it is limited to. -/
def ReferentialAction.hurdles (a : ReferentialAction) : List Hurdle :=
  if a.columns.isEmpty then []
  else namesHurdles (.action a) .actionColumns a.columns
    [.gap (.action a) (.feature a.columnsFeature)]

/-- The actions of a foreign key, the one on update first. -/
def ForeignKey.actions (f : ForeignKey) : List ReferentialAction :=
  f.onUpdate.toList ++ f.onDelete.toList

/-- The hurdles of what a foreign key says after its own columns: the referenced columns, then the
actions. -/
def ForeignKey.hurdles (f : ForeignKey) : List Hurdle :=
  namesHurdles (.constraint (.foreignKey f)) .referencedColumns f.refColumns
    (f.actions.flatMap ReferentialAction.hurdles)

/-- The hurdle of a unique constraint in which nulls are not distinct. -/
def Unique.hurdles (u : Unique) : List Hurdle :=
  if u.nullsDistinct.isTrue then []
  else [.gap (.constraint (.unique u)) (.feature .uniqueNullsNotDistinct)]

namespace Constraint

/-- The hurdles of a constraint of a table. -/
def tableHurdles : Constraint → List Hurdle
  | .check _ => []
  | .foreignKey f =>
    namesHurdles (.constraint (.foreignKey f)) .foreignKeyColumns f.columnNames f.hurdles
  | .primaryKey p =>
    namesHurdles (.constraint (.primaryKey p)) .primaryKeyColumns p.columnNames []
  | .unique u => namesHurdles (.constraint (.unique u)) .uniqueColumns u.columnNames u.hurdles

/-- The hurdles of a constraint of a column. -/
def columnHurdles : Constraint → List Hurdle
  | .check _ => []
  | .foreignKey f => f.hurdles
  | .primaryKey _ => []
  | .unique u => u.hurdles

end Constraint

/-- The hurdles of a column, constraint by constraint. -/
def Column.hurdles (c : Column) : List Hurdle :=
  c.constraints.flatMap Constraint.columnHurdles

/-- The hurdles of a table creation, column by column and constraint by constraint. -/
def CreateTable.hurdles (c : CreateTable) : List Hurdle :=
  c.columns.flatMap Column.hurdles ++ c.constraints.flatMap Constraint.tableHurdles

/-- The hurdles of a table drop. -/
def DropTable.hurdles (d : DropTable) : List Hurdle :=
  namesHurdles (.dropTable d) .droppedTables d.tableNames
    ((if d.ifExists.isTrue then [.gap (.dropTable d) (.feature .dropTableIfExists)] else []) ++
      if 1 < d.tableNames.length then [.gap (.dropTable d) (.feature .dropTableMultiple)] else [])

/-- The hurdles of a node at a position, in the order in which rendering meets them. -/
def Node.hurdles (n : Node) (position : Position) : List Hurdle :=
  match n, position with
  | .createTable c, .statement => c.hurdles
  | .dropTable d, .statement => d.hurdles
  | .bareStatement serial, .statement => [.gap (.bareStatement serial) (.form .statement)]
  | .constraint c, .table => c.tableHurdles
  | .constraint c, .column => c.columnHurdles
  | .column c, .clause => c.hurdles
  | .action a, .clause => a.hurdles
  | n, position => [.defect ⟨.node n, .misplaced position⟩]

namespace Node

/-- A node stands at a position at which its type is allowed. -/
inductive Stands : Node → Position → Prop
  | createTable (c : CreateTable) : Stands (.createTable c) .statement
  | dropTable (d : DropTable) : Stands (.dropTable d) .statement
  | bareStatement (serial : Nat) : Stands (.bareStatement serial) .statement
  | tableConstraint (c : Constraint) : Stands (.constraint c) .table
  | columnConstraint (c : Constraint) : Stands (.constraint c) .column
  | column (c : Column) : Stands (.column c) .clause
  | action (a : ReferentialAction) : Stands (.action a) .clause

variable {n : Node} {position : Position}

theorem stands_of_slot (h : Slot.of? n.kind position ≠ none) : n.Stands position := by
  cases n with
  | constraint c =>
    cases position with
    | table => exact .tableConstraint c
    | column => exact .columnConstraint c
    | _ => exact absurd (by cases c <;> rfl) h
  | action a =>
    cases position with
    | clause => exact .action a
    | _ => exact absurd rfl h
  | column c =>
    cases position with
    | clause => exact .column c
    | _ => exact absurd rfl h
  | createTable c =>
    cases position with
    | statement => exact .createTable c
    | _ => exact absurd rfl h
  | dropTable d =>
    cases position with
    | statement => exact .dropTable d
    | _ => exact absurd rfl h
  | bareStatement serial =>
    cases position with
    | statement => exact .bareStatement serial
    | _ => exact absurd rfl h
  | bareExpression serial => cases position <;> exact absurd rfl h

theorem Stands.slot_ne_none (h : n.Stands position) : Slot.of? n.kind position ≠ none := by
  cases h with
  | tableConstraint c => cases c <;> exact nofun
  | columnConstraint c => cases c <;> exact nofun
  | _ => exact nofun

/-- A node that does not stand at a position is a defect there. -/
theorem hurdles_of_not_stands (h : ¬ n.Stands position) :
    n.hurdles position = [.defect ⟨.node n, .misplaced position⟩] := by
  unfold hurdles
  split
  · exact absurd (.createTable _) h
  · exact absurd (.dropTable _) h
  · exact absurd (.bareStatement _) h
  · exact absurd (.tableConstraint _) h
  · exact absurd (.columnConstraint _) h
  · exact absurd (.column _) h
  · exact absurd (.action _) h
  · rfl

end Node

/-! ### The hurdles that a target meets -/

namespace Target

open Draft

/-- Whether a built-in target meets a hurdle.  It has forms for all but a bare statement. -/
def blocks (t : Target) : Hurdle → Bool
  | .defect _ => true
  | .gap _ (.feature f) => !t.expresses f
  | .gap _ (.form _) => true

/-- The hurdles of a node on a built-in target. -/
def hurdles (t : Target) (n : Node) (position : Position) : List Hurdle :=
  (n.hurdles position).filter t.blocks

/-- What needs a feature is a hurdle on the targets without it. -/
theorem hurdles_express (t : Target) (construct : Node) (f : Feature) {written : Draft}
    (h : Draft.hurdles written = []) :
    Draft.hurdles (t.express construct f written) =
      [.gap construct (.feature f)].filter t.blocks := by
  unfold express
  cases hf : t.expresses f with
  | true => simp [h, blocks, hf]
  | false => simp [lack, Draft.hurdles, Step.hurdle?, blocks, hf]

/-- A defect is met on every target. -/
theorem filter_namesHurdles (t : Target) (construct : Node) (list : NameList)
    (names : List Value) (rest : List Hurdle) :
    (namesHurdles construct list names rest).filter t.blocks =
      namesHurdles construct list names (rest.filter t.blocks) := by
  unfold namesHurdles
  cases list.cause? names <;> rfl

@[simp] theorem hurdles_inParentheses (ns : List String) :
    Draft.hurdles (inParentheses ns) = [] := by
  simp [inParentheses]

variable {t : Target} (ht : t ∈ builtin)

include ht

theorem hurdles_draftAction (a : ReferentialAction) :
    Draft.hurdles (t.draftAction a) = a.hurdles.filter t.blocks := by
  rw [draftAction_builtin ht, ReferentialAction.hurdles, hurdles_append, hurdles_keyword,
    List.nil_append]
  split
  · rfl
  · rw [hurdles_withNames, filter_namesHurdles, hurdles_express]
    simp

theorem hurdles_draftClause (words : String) (a : Option ReferentialAction) :
    Draft.hurdles (t.draftClause words a) =
      (a.toList.flatMap ReferentialAction.hurdles).filter t.blocks := by
  cases a with
  | none => rfl
  | some a =>
    rw [draftClause, hurdles_append, hurdles_keyword, List.nil_append, hurdles_draftAction ht]
    simp

theorem hurdles_draftReferences (f : ForeignKey) :
    Draft.hurdles (t.draftReferences f) = f.hurdles.filter t.blocks := by
  rw [draftReferences, hurdles_withNames, ForeignKey.hurdles, filter_namesHurdles,
    ForeignKey.actions, List.flatMap_append, List.filter_append]
  simp [hurdles_draftClause ht]

theorem hurdles_draftTableConstraint (c : Constraint) :
    Draft.hurdles (t.draftTableConstraint c) = c.tableHurdles.filter t.blocks := by
  cases c with
  | check c => simp [draftTableCheck_builtin ht, Constraint.tableHurdles]
  | foreignKey f =>
    rw [draftTableForeignKey_builtin ht, hurdles_withNames, hurdles_withNames,
      Constraint.tableHurdles, filter_namesHurdles]
    simp only [hurdles_append, hurdles_keyword, hurdles_names, hurdles_verbatim, List.nil_append,
      hurdles_draftReferences ht]
    -- the referenced columns are checked here and once more where they are written
    rw [ForeignKey.hurdles, filter_namesHurdles, namesHurdles_twice]
  | primaryKey p =>
    rw [draftTablePrimaryKey_builtin ht, hurdles_withNames, Constraint.tableHurdles,
      filter_namesHurdles]
    simp
  | unique u =>
    rw [draftTableUnique_builtin ht, hurdles_withNames, Constraint.tableHurdles,
      filter_namesHurdles, Unique.hurdles]
    simp only [hurdles_append, hurdles_keyword, hurdles_inParentheses, List.nil_append,
      List.append_nil]
    split
    · rfl
    · rw [hurdles_express t _ _ (hurdles_keyword _)]

theorem hurdles_draftColumnConstraint (c : Constraint) :
    Draft.hurdles (t.draftColumnConstraint c) = c.columnHurdles.filter t.blocks := by
  cases c with
  | check c => simp [draftColumnCheck_builtin ht, Constraint.columnHurdles]
  | foreignKey f =>
    rw [draftColumnForeignKey_builtin ht, hurdles_append, hurdles_verbatim, List.nil_append,
      hurdles_draftReferences ht, Constraint.columnHurdles]
  | primaryKey p => simp [draftColumnPrimaryKey_builtin ht, Constraint.columnHurdles]
  | unique u =>
    rw [draftColumnUnique_builtin ht, hurdles_append, hurdles_keyword, List.nil_append,
      Constraint.columnHurdles, Unique.hurdles]
    split
    · rfl
    · rw [hurdles_express t _ _ (hurdles_keyword _)]

omit ht in
theorem hurdles_draftDefault (v : Value) : Draft.hurdles (draftDefault v) = [] := by
  unfold draftDefault
  split
  · rfl
  · split <;> rfl

theorem hurdles_draftColumn (c : Column) :
    Draft.hurdles (t.draftColumn c) = c.hurdles.filter t.blocks := by
  have hconstraints : Draft.hurdles (c.constraints.flatMap t.draftColumnConstraint) =
      c.hurdles.filter t.blocks := by
    rw [hurdles_flatMap, Column.hurdles, List.filter_flatMap]
    simp only [hurdles_draftColumnConstraint ht]
  rw [draftColumn_builtin ht]
  simp only [hurdles_append, hurdles_identifier, hurdles_verbatim, hurdles_draftDefault,
    List.nil_append, List.append_nil, hconstraints]
  split <;> rfl

theorem hurdles_draftCreateTable (c : CreateTable) :
    Draft.hurdles (t.draftCreateTable c) = c.hurdles.filter t.blocks := by
  rw [draftCreateTable_builtin ht]
  simp only [hurdles_append, hurdles_keyword, hurdles_identifier, hurdles_verbatim,
    hurdles_commaSeparated, List.flatMap_append, List.flatMap_map, hurdles_fragment,
    hurdles_draftColumn ht, hurdles_draftTableConstraint ht, List.nil_append, List.append_nil]
  rw [CreateTable.hurdles, List.filter_append, List.filter_flatMap, List.filter_flatMap]
  split <;> rfl

theorem hurdles_draftDropTable (d : DropTable) :
    Draft.hurdles (t.draftDropTable d) = d.hurdles.filter t.blocks := by
  have haction : Draft.hurdles (draftDropAction d.action) = [] := by
    cases d.action <;> rfl
  rw [draftDropTable_builtin ht, hurdles_withNames, DropTable.hurdles, filter_namesHurdles]
  -- where every value is a name, there are as many tables as values
  refine namesHurdles_congr fun hnamed => ?_
  simp only [hurdles_append, hurdles_keyword, hurdles_names, haction, List.nil_append,
    List.append_nil, List.filter_append, length_textsOf (isName_of_named hnamed)]
  have hannounce (tables : List String) : Draft.hurdles [.announceDrop tables] = [] := rfl
  rw [hannounce, List.append_nil]
  congr 1
  · split
    · exact hurdles_express t _ _ (hurdles_keyword _)
    · rfl
  · split
    · exact hurdles_express t _ _ hurdles_nil
    · rfl

omit ht in
/-- A node that does not stand at a position is rejected there. -/
theorem draft_of_not_stands {n : Node} {position : Position} (h : ¬ n.Stands position) :
    t.draft n position = [.reject ⟨.node n, .misplaced position⟩] := by
  unfold draft
  split
  · exact absurd (.createTable _) h
  · exact absurd (.dropTable _) h
  · exact absurd (.bareStatement _) h
  · exact absurd (.tableConstraint _) h
  · exact absurd (.columnConstraint _) h
  · exact absurd (.column _) h
  · exact absurd (.action _) h
  · rfl

/-- **A built-in target meets the hurdles of a node that it has no feature for**, in the order of
the node. -/
theorem hurdles_draft (n : Node) (position : Position) :
    Draft.hurdles (t.draft n position) = t.hurdles n position := by
  by_cases h : n.Stands position
  · cases h with
    | createTable c => exact hurdles_draftCreateTable ht c
    | dropTable d => exact hurdles_draftDropTable ht d
    | bareStatement serial => exact congrArg Draft.hurdles (draftBareStatement_builtin ht serial)
    | tableConstraint c => exact hurdles_draftTableConstraint ht c
    | columnConstraint c => exact hurdles_draftColumnConstraint ht c
    | column c => exact hurdles_draftColumn ht c
    | action a => exact hurdles_draftAction ht a
  · rw [draft_of_not_stands h, hurdles, Node.hurdles_of_not_stands h]
    rfl

end Target

end SqlDialect
