import Mathlib.Data.List.Basic
import SqlDialect.Node.Build
import SqlDialect.Proofs.Malformed

/-!
# Pruned nodes

Pruning a node for a target (`Target.prune`) resets the parts that the target cannot express, and
nothing else.  The draft of the pruned node is the draft of the node without its omissions
(`draft_prune`), so what lenient rendering writes for a node is what strict rendering writes for the
pruned one, and it omits as many parts as pruning changes (`lenient_eq_strict_prune`).

To count what pruning changes, a node is laid out as the list of its places (`Node.places`): the
values that pruning may reset, in the order of the node.  Pruning keeps the number of places, so two
nodes are compared place by place (`Node.differences`).
-/

namespace SqlDialect

/-! ### Pruning -/

namespace Target

variable (t : Target)

/-- Drops the columns of an action if the target cannot limit such an action to columns. -/
def pruneAction (a : ReferentialAction) : ReferentialAction :=
  if t.expresses a.columnsFeature then a else { a with columns := [] }

/-- Makes nulls distinct if the target cannot say that they are not. -/
def pruneUnique (u : Unique) : Unique :=
  if u.nullsDistinct.isTrue || t.expresses .uniqueNullsNotDistinct then u
  else { u with nullsDistinct := .bool true }

/-- Prunes the actions of a foreign key. -/
def pruneForeignKey (f : ForeignKey) : ForeignKey :=
  { f with
    onUpdate := f.onUpdate.map t.pruneAction
    onDelete := f.onDelete.map t.pruneAction }

/-- Prunes a constraint. -/
def pruneConstraint : Constraint → Constraint
  | .check c => .check c
  | .foreignKey f => .foreignKey (t.pruneForeignKey f)
  | .primaryKey p => .primaryKey p
  | .unique u => .unique (t.pruneUnique u)

/-- Prunes the constraints of a column. -/
def pruneColumn (c : Column) : Column :=
  { c with constraints := c.constraints.map t.pruneConstraint }

/-- Prunes the columns and the constraints of a table creation. -/
def pruneCreateTable (c : CreateTable) : CreateTable :=
  { c with
    columns := c.columns.map t.pruneColumn
    constraints := c.constraints.map t.pruneConstraint }

/-- Drops a table whether it exists or not, and the first table only, where the target cannot
express the rest. -/
def pruneDropTable (d : DropTable) : DropTable :=
  { d with
    tableNames := if t.expresses .dropTableMultiple then d.tableNames else d.tableNames.take 1
    ifExists :=
      if d.ifExists.isTrue && !t.expresses .dropTableIfExists then .bool false else d.ifExists }

/-- Resets the parts of a node that a built-in target cannot express. -/
def prune : Node → Node
  | .constraint c => .constraint (t.pruneConstraint c)
  | .action a => .action (t.pruneAction a)
  | .column c => .column (t.pruneColumn c)
  | .createTable c => .createTable (t.pruneCreateTable c)
  | .dropTable d => .dropTable (t.pruneDropTable d)
  | .bareStatement serial => .bareStatement serial
  | .bareExpression serial => .bareExpression serial

end Target

/-! ### Drafts of pruned nodes -/

namespace Target

open Draft

theorem express_of_expresses {t : Target} {f : Feature} (h : t.expresses f = true)
    (construct : Node) (written : Draft) : t.express construct f written = written :=
  if_pos h

theorem expressible_express_of_lacks {t : Target} {f : Feature} (h : t.expresses f = false)
    (construct : Node) (written : Draft) :
    expressible (t.express construct f written) = [] := by
  rw [express, h]
  rfl

@[simp] theorem expressible_inParentheses (ns : List String) :
    expressible (inParentheses ns) = inParentheses ns := by
  simp [inParentheses]

theorem expressible_draftDefault (v : Value) : expressible (draftDefault v) = draftDefault v := by
  unfold draftDefault
  split
  · rfl
  · split <;> rfl

/-- What is said about nulls in a pruned unique constraint. -/
theorem express_nulls_prune (t : Target) (u : Unique) (construct construct' : Node)
    {written : Draft} (hw : expressible written = written) :
    (if (t.pruneUnique u).nullsDistinct.isTrue then []
      else t.express construct' .uniqueNullsNotDistinct written) =
      expressible (if u.nullsDistinct.isTrue then []
        else t.express construct .uniqueNullsNotDistinct written) := by
  unfold pruneUnique
  cases hnulls : u.nullsDistinct.isTrue with
  | true =>
    rw [Bool.true_or, if_pos rfl, if_pos hnulls]
    rfl
  | false =>
    rw [Bool.false_or, if_neg Bool.false_ne_true]
    cases he : t.expresses .uniqueNullsNotDistinct with
    | true =>
      rw [if_pos rfl, hnulls, if_neg Bool.false_ne_true, express_of_expresses he,
        express_of_expresses he, hw]
    | false =>
      rw [expressible_express_of_lacks he, if_neg Bool.false_ne_true]
      rfl

/-- What is said about existence in a pruned table drop. -/
theorem express_ifExists_prune (t : Target) (d : DropTable) (construct construct' : Node)
    {written : Draft} (hw : expressible written = written) :
    (if (t.pruneDropTable d).ifExists.isTrue then
        t.express construct' .dropTableIfExists written else []) =
      expressible (if d.ifExists.isTrue then
        t.express construct .dropTableIfExists written else []) := by
  unfold pruneDropTable
  dsimp only
  cases hexists : d.ifExists.isTrue with
  | false =>
    rw [Bool.false_and, if_neg Bool.false_ne_true, hexists, if_neg Bool.false_ne_true]
    rfl
  | true =>
    rw [Bool.true_and]
    cases he : t.expresses .dropTableIfExists with
    | true =>
      rw [Bool.not_true, if_neg Bool.false_ne_true, hexists, if_pos rfl, if_pos rfl,
        express_of_expresses he, express_of_expresses he, hw]
    | false =>
      rw [if_pos rfl, expressible_express_of_lacks he]
      rfl

/-- Something that is left out or else not written leaves nothing. -/
theorem expressible_express_nil (t : Target) (construct : Node) (f : Feature) :
    expressible (t.express construct f []) = [] := by
  unfold express
  split <;> rfl

variable {t : Target} (ht : t ∈ builtin)

include ht

theorem draftAction_prune {a : ReferentialAction} (h : ¬ a.Malformed) :
    t.draftAction (t.pruneAction a) = expressible (t.draftAction a) := by
  rw [draftAction_builtin ht, draftAction_builtin ht, expressible_append, expressible_keyword]
  unfold pruneAction
  cases hc : a.columns with
  | nil => split <;> simp [hc]
  | cons v rest =>
    have hnamed : ¬ Unnamed (v :: rest) := ReferentialAction.not_unnamed_of_cons h hc
    rw [List.isEmpty_cons, if_neg Bool.false_ne_true, withNames_of_named hnamed]
    cases he : t.expresses a.columnsFeature with
    | false =>
      -- the columns are gone from the pruned action, and omitted from the other
      rw [expressible_express_of_lacks he]
      rfl
    | true =>
      rw [if_pos rfl, hc, List.isEmpty_cons, if_neg Bool.false_ne_true, withNames_of_named hnamed,
        express_of_expresses he]
      simp

theorem draftClause_prune (words : String) {a : Option ReferentialAction}
    (h : ∀ b ∈ a.toList, ¬ b.Malformed) :
    t.draftClause words (a.map t.pruneAction) = expressible (t.draftClause words a) := by
  cases a with
  | none => rfl
  | some a =>
    have ha : ¬ a.Malformed := h a (List.mem_singleton_self a)
    rw [Option.map_some, draftClause, draftClause, expressible_append, expressible_keyword,
      draftAction_prune ht ha]

theorem draftReferences_prune {f : ForeignKey} (h : ¬ f.MalformedReferences) :
    t.draftReferences (t.pruneForeignKey f) = expressible (t.draftReferences f) := by
  obtain ⟨hnamed, hactions⟩ := not_or.mp h
  have haction : ∀ a ∈ f.actions, ¬ a.Malformed := fun a ha hm => hactions ⟨a, ha, hm⟩
  have hpruned : ¬ Unnamed (t.pruneForeignKey f).refColumns := hnamed
  unfold draftReferences
  rw [withNames_of_named hnamed, withNames_of_named hpruned]
  simp only [expressible_append, expressible_keyword, expressible_identifier, expressible_verbatim,
    expressible_inParentheses]
  rw [← draftClause_prune ht _ fun a ha => haction a (List.mem_append_left _ ha),
    ← draftClause_prune ht _ fun a ha => haction a (List.mem_append_right _ ha)]
  rfl

theorem draftTableConstraint_prune {c : Constraint} (h : ¬ c.MalformedOnTable) :
    t.draftTableConstraint (t.pruneConstraint c) = expressible (t.draftTableConstraint c) := by
  cases c with
  | check c => simp [pruneConstraint, draftTableCheck_builtin ht]
  | foreignKey f =>
    obtain ⟨hnamed, hreferences⟩ := not_or.mp h
    have hrefs : ¬ Unnamed f.refColumns := fun hu => hreferences (.inl hu)
    have hnamed' : ¬ Unnamed (t.pruneForeignKey f).columnNames := hnamed
    have hrefs' : ¬ Unnamed (t.pruneForeignKey f).refColumns := hrefs
    rw [pruneConstraint, draftTableForeignKey_builtin ht, draftTableForeignKey_builtin ht,
      withNames_of_named hnamed', withNames_of_named hrefs', withNames_of_named hnamed,
      withNames_of_named hrefs, draftReferences_prune ht hreferences]
    simp [pruneForeignKey]
  | primaryKey p =>
    rw [pruneConstraint, draftTablePrimaryKey_builtin ht, withNames_of_named h]
    simp
  | unique u =>
    have hcolumns : (t.pruneUnique u).columnNames = u.columnNames := by
      unfold pruneUnique
      split <;> rfl
    rw [pruneConstraint, draftTableUnique_builtin ht, draftTableUnique_builtin ht, hcolumns,
      withNames_of_named h, withNames_of_named h, expressible_append, expressible_append,
      expressible_keyword, expressible_inParentheses,
      express_nulls_prune t u _ _ (expressible_keyword _)]

theorem draftColumnConstraint_prune {c : Constraint} (h : ¬ c.MalformedOnColumn) :
    t.draftColumnConstraint (t.pruneConstraint c) = expressible (t.draftColumnConstraint c) := by
  cases c with
  | check c => simp [pruneConstraint, draftColumnCheck_builtin ht]
  | foreignKey f =>
    rw [pruneConstraint, draftColumnForeignKey_builtin ht, draftColumnForeignKey_builtin ht,
      draftReferences_prune ht h, expressible_append, expressible_verbatim]
  | primaryKey p => simp [pruneConstraint, draftColumnPrimaryKey_builtin ht]
  | unique u =>
    rw [pruneConstraint, draftColumnUnique_builtin ht, draftColumnUnique_builtin ht,
      expressible_append, expressible_keyword, express_nulls_prune t u _ _ (expressible_keyword _)]

theorem draftColumn_prune {c : Column} (h : ¬ c.Malformed) :
    t.draftColumn (t.pruneColumn c) = expressible (t.draftColumn c) := by
  have hconstraints : (c.constraints.map t.pruneConstraint).flatMap t.draftColumnConstraint =
      expressible (c.constraints.flatMap t.draftColumnConstraint) := by
    rw [List.flatMap_map, expressible, List.filter_flatMap]
    exact List.flatMap_congr fun k hk => draftColumnConstraint_prune ht fun hm => h ⟨k, hk, hm⟩
  rw [draftColumn_builtin ht, draftColumn_builtin ht]
  simp only [pruneColumn, expressible_append, expressible_identifier, expressible_verbatim,
    expressible_draftDefault, hconstraints, apply_ite expressible, expressible_keyword,
    expressible_nil]
  rfl

/-- Fragments of plain drafts are joined at once, so only what they consist of counts. -/
theorem draftCreateTable_prune {c : CreateTable} (h : ¬ c.Malformed)
    (htext : c.columns.all Column.hasTextDefault = true) :
    t.draftCreateTable (t.pruneCreateTable c) = expressible (t.draftCreateTable c) := by
  obtain ⟨hcolumns, hconstraints⟩ := not_or.mp h
  have hcolumn (column : Column) (hmem : column ∈ c.columns) :
      fragment (t.draftColumn (t.pruneColumn column)) =
        expressible (fragment (t.draftColumn column)) := by
    have hplain := t.plain_draftColumn (List.all_eq_true.mp htext column hmem)
    rw [hplain.fragment_eq, draftColumn_prune ht fun hm => hcolumns ⟨column, hmem, hm⟩,
      hplain.expressible.fragment_eq]
  have hconstraint (k : Constraint) (hmem : k ∈ c.constraints) :
      fragment (t.draftTableConstraint (t.pruneConstraint k)) =
        expressible (fragment (t.draftTableConstraint k)) := by
    have hplain := t.plain_draftTableConstraint k
    rw [hplain.fragment_eq, draftTableConstraint_prune ht fun hm => hconstraints ⟨k, hmem, hm⟩,
      hplain.expressible.fragment_eq]
  rw [draftCreateTable_builtin ht, draftCreateTable_builtin ht]
  simp only [pruneCreateTable, expressible_append, expressible_keyword, expressible_identifier,
    expressible_verbatim, expressible_commaSeparated, apply_ite expressible, expressible_nil,
    List.map_append, List.map_map]
  congr 4
  · exact List.map_congr_left hcolumn
  · exact List.map_congr_left hconstraint

theorem draftDropTable_prune {d : DropTable} (h : ¬ Unnamed d.tableNames) :
    t.draftDropTable (t.pruneDropTable d) = expressible (t.draftDropTable d) := by
  have haction : expressible (draftDropAction d.action) = draftDropAction d.action := by
    cases d.action <;> rfl
  have hannounce (tables : List String) :
      expressible [.announceDrop tables] = [.announceDrop tables] := rfl
  have hnamed : ¬ Unnamed (t.pruneDropTable d).tableNames := by
    unfold pruneDropTable
    dsimp only
    split
    · exact h
    · exact not_unnamed_take h
  rw [draftDropTable_builtin ht, draftDropTable_builtin ht, withNames_of_named h,
    withNames_of_named hnamed]
  simp only [expressible_append, expressible_keyword, expressible_names, haction, hannounce,
    express_ifExists_prune t d (.dropTable d) _ (expressible_keyword _)]
  rw [apply_ite expressible (1 < (textsOf d.tableNames).length), expressible_express_nil,
    expressible_nil, ite_self]
  cases hmany : t.expresses .dropTableMultiple with
  | true =>
    have htables : (t.pruneDropTable d).tableNames = d.tableNames := by
      rw [pruneDropTable, hmany]
      rfl
    rw [htables, express_of_expresses hmany, ite_self]
    rfl
  | false =>
    have htables : textsOf (t.pruneDropTable d).tableNames = (textsOf d.tableNames).take 1 := by
      rw [pruneDropTable, hmany]
      exact textsOf_take h
    -- at most one table is left, so there is no second one to leave out
    have hone : ¬ 1 < ((textsOf d.tableNames).take 1).length := by
      rw [List.length_take]
      omega
    rw [htables, if_neg hone, if_neg Bool.false_ne_true, if_neg Bool.false_ne_true, List.take_take]
    rfl

/-- **The draft of a pruned node is the draft of the node without its omissions.** -/
theorem draft_prune {n : Node} {p : Position} (hbare : n.isBare = false)
    (htext : n.hasTextDefaults = true) (h : ¬ n.MalformedAt p) :
    t.draft (t.prune n) p = expressible (t.draft n p) := by
  obtain ⟨hslot, hpart⟩ := not_or.mp h
  cases Node.stands_of_slot hslot with
  | createTable c => exact draftCreateTable_prune ht hpart htext
  | dropTable d => exact draftDropTable_prune ht hpart
  | bareStatement serial => exact absurd hbare Bool.noConfusion
  | tableConstraint c => exact draftTableConstraint_prune ht hpart
  | columnConstraint c => exact draftColumnConstraint_prune ht hpart
  | column c => exact draftColumn_prune ht hpart
  | action a => exact draftAction_prune ht hpart

end Target

/-! ### Places -/

/-- A value of a node that pruning may reset. -/
inductive Place
  | ifExists (given : Value)
  | tableNames (names : List Value)
  | nullsDistinct (given : Value)
  | actionColumns (names : List Value)

/-- The places of an action. -/
def ReferentialAction.places (a : ReferentialAction) : List Place :=
  [.actionColumns a.columns]

/-- The places of a constraint. -/
def Constraint.places : Constraint → List Place
  | .foreignKey f => f.actions.flatMap ReferentialAction.places
  | .unique u => [.nullsDistinct u.nullsDistinct]
  | _ => []

/-- The places of a column. -/
def Column.places (c : Column) : List Place :=
  c.constraints.flatMap Constraint.places

/-- The places of a node, in its own order. -/
def Node.places : Node → List Place
  | .constraint c => c.places
  | .action a => a.places
  | .column c => c.places
  | .createTable c => c.columns.flatMap Column.places ++ c.constraints.flatMap Constraint.places
  | .dropTable d => [.ifExists d.ifExists, .tableNames d.tableNames]
  | _ => []

open Classical in
/-- In how many places two lists of places differ. -/
noncomputable def Place.differences (ps qs : List Place) : Nat :=
  (ps.zip qs).countP fun (p, q) => p ≠ q

/-- In how many places two nodes of one shape differ. -/
noncomputable def Node.differences (n m : Node) : Nat :=
  Place.differences n.places m.places

namespace Place

theorem differences_append {ps ps' qs qs' : List Place} (h : ps.length = ps'.length) :
    differences (ps ++ qs) (ps' ++ qs') = differences ps ps' + differences qs qs' := by
  unfold differences
  rw [List.zip_append h, List.countP_append]

theorem differences_self (p : Place) : differences [p] [p] = 0 := by
  simp [differences]

theorem differences_of_ne {p q : Place} (h : p ≠ q) : differences [p] [q] = 1 := by
  simp [differences, h]

end Place

/-! ### What pruning changes -/

namespace Target

open Place

/-- Going from some places to others changes as many of them as the target meets hurdles. -/
def Resets (t : Target) (hs : List Hurdle) (ps qs : List Place) : Prop :=
  ps.length = qs.length ∧ differences ps qs = (hs.filter t.blocks).length

namespace Resets

variable {t : Target}

theorem nil : t.Resets [] [] [] :=
  ⟨rfl, rfl⟩

theorem append {hs ks : List Hurdle} {ps ps' qs qs' : List Place} (h : t.Resets hs ps ps')
    (k : t.Resets ks qs qs') : t.Resets (hs ++ ks) (ps ++ qs) (ps' ++ qs') := by
  constructor
  · rw [List.length_append, List.length_append, h.1, k.1]
  · rw [differences_append h.1, List.filter_append, List.length_append, h.2, k.2]

theorem flatMap {α : Type} {xs : List α} {prune : α → α} {hurdles : α → List Hurdle}
    {places : α → List Place}
    (h : ∀ x ∈ xs, t.Resets (hurdles x) (places x) (places (prune x))) :
    t.Resets (xs.flatMap hurdles) (xs.flatMap places) ((xs.map prune).flatMap places) := by
  induction xs with
  | nil => exact nil
  | cons x rest ih =>
    obtain ⟨hx, hrest⟩ := List.forall_mem_cons.mp h
    rw [List.map_cons, List.flatMap_cons, List.flatMap_cons, List.flatMap_cons]
    exact hx.append (ih hrest)

/-- One place of a part that needs a feature: it changes where the target has a gap. -/
theorem gap {construct : Node} {f : Feature} {p q : Place}
    (hkeep : t.expresses f = true → q = p) (hreset : t.expresses f = false → p ≠ q) :
    t.Resets [.gap construct (.feature f)] [p] [q] := by
  refine ⟨rfl, ?_⟩
  cases he : t.expresses f with
  | true =>
    rw [hkeep he, differences_self]
    simp [blocks, he]
  | false =>
    rw [differences_of_ne (hreset he)]
    simp [blocks, he]

theorem keep (p : Place) : t.Resets [] [p] [p] :=
  ⟨rfl, differences_self p⟩

end Resets

variable (t : Target)

theorem resets_action {a : ReferentialAction} (h : ¬ a.Malformed) :
    t.Resets a.hurdles a.places (t.pruneAction a).places := by
  unfold ReferentialAction.hurdles ReferentialAction.places pruneAction
  cases hc : a.columns with
  | nil =>
    have hcolumns : (if t.expresses a.columnsFeature then a else { a with columns := [] }).columns =
        [] := by
      split
      · exact hc
      · rfl
    rw [hcolumns]
    exact Resets.keep _
  | cons v rest =>
    have hnamed : ¬ Unnamed (v :: rest) := ReferentialAction.not_unnamed_of_cons h hc
    rw [List.isEmpty_cons, if_neg Bool.false_ne_true, namesHurdles_of_named hnamed]
    refine Resets.gap ?_ ?_
    · intro he
      rw [if_pos he, hc]
    · intro he
      rw [he, if_neg Bool.false_ne_true]
      exact nofun

theorem resets_unique (u : Unique) :
    t.Resets u.hurdles [.nullsDistinct u.nullsDistinct]
      [.nullsDistinct (t.pruneUnique u).nullsDistinct] := by
  unfold Unique.hurdles pruneUnique
  cases hnulls : u.nullsDistinct.isTrue with
  | true =>
    rw [Bool.true_or, if_pos rfl, if_pos rfl]
    exact Resets.keep _
  | false =>
    rw [Bool.false_or, if_neg Bool.false_ne_true]
    refine Resets.gap ?_ ?_
    · intro he
      rw [if_pos he]
    · intro he hsame
      rw [he, if_neg Bool.false_ne_true] at hsame
      injection hsame with hsame
      rw [hsame] at hnulls
      exact Bool.noConfusion hnulls

theorem actions_pruneForeignKey (f : ForeignKey) :
    (t.pruneForeignKey f).actions = f.actions.map t.pruneAction := by
  unfold ForeignKey.actions pruneForeignKey
  rw [List.map_append]
  cases f.onUpdate <;> cases f.onDelete <;> rfl

theorem resets_foreignKey {f : ForeignKey} (h : ¬ f.MalformedReferences) :
    t.Resets f.hurdles (Constraint.foreignKey f).places
      (Constraint.foreignKey (t.pruneForeignKey f)).places := by
  obtain ⟨hnamed, hactions⟩ := not_or.mp h
  rw [ForeignKey.hurdles, namesHurdles_of_named hnamed, Constraint.places, Constraint.places,
    actions_pruneForeignKey]
  exact Resets.flatMap fun a ha => t.resets_action fun hm => hactions ⟨a, ha, hm⟩

theorem resets_tableConstraint {c : Constraint} (h : ¬ c.MalformedOnTable) :
    t.Resets c.tableHurdles c.places (t.pruneConstraint c).places := by
  cases c with
  | check c => exact Resets.nil
  | foreignKey f =>
    obtain ⟨hnamed, hreferences⟩ := not_or.mp h
    rw [Constraint.tableHurdles, namesHurdles_of_named hnamed]
    exact t.resets_foreignKey hreferences
  | primaryKey p =>
    rw [Constraint.tableHurdles, namesHurdles_of_named h]
    exact Resets.nil
  | unique u =>
    rw [Constraint.tableHurdles, namesHurdles_of_named h]
    exact t.resets_unique u

theorem resets_columnConstraint {c : Constraint} (h : ¬ c.MalformedOnColumn) :
    t.Resets c.columnHurdles c.places (t.pruneConstraint c).places := by
  cases c with
  | check c => exact Resets.nil
  | foreignKey f => exact t.resets_foreignKey h
  | primaryKey p => exact Resets.nil
  | unique u => exact t.resets_unique u

theorem resets_column {c : Column} (h : ¬ c.Malformed) :
    t.Resets c.hurdles c.places (t.pruneColumn c).places :=
  Resets.flatMap fun k hk => t.resets_columnConstraint fun hm => h ⟨k, hk, hm⟩

theorem resets_createTable {c : CreateTable} (h : ¬ c.Malformed) :
    t.Resets c.hurdles (Node.createTable c).places
      (Node.createTable (t.pruneCreateTable c)).places := by
  obtain ⟨hcolumns, hconstraints⟩ := not_or.mp h
  refine Resets.append (Resets.flatMap ?_) (Resets.flatMap ?_)
  · intro column hmem
    exact t.resets_column fun hm => hcolumns ⟨column, hmem, hm⟩
  · intro k hmem
    exact t.resets_tableConstraint fun hm => hconstraints ⟨k, hmem, hm⟩

theorem resets_dropTable {d : DropTable} (h : ¬ Unnamed d.tableNames) :
    t.Resets d.hurdles (Node.dropTable d).places (Node.dropTable (t.pruneDropTable d)).places := by
  rw [DropTable.hurdles, namesHurdles_of_named h]
  show t.Resets _ ([.ifExists d.ifExists] ++ [.tableNames d.tableNames])
    ([.ifExists (t.pruneDropTable d).ifExists] ++ [.tableNames (t.pruneDropTable d).tableNames])
  refine Resets.append ?_ ?_
  · unfold pruneDropTable
    cases hexists : d.ifExists.isTrue with
    | false => exact Resets.keep _
    | true =>
      rw [if_pos rfl]
      refine Resets.gap ?_ ?_
      · intro he
        rw [he]
        rfl
      · intro he hsame
        rw [he] at hsame
        injection hsame with hsame
        rw [hsame] at hexists
        exact Bool.noConfusion hexists
  · by_cases hmany : 1 < d.tableNames.length
    · rw [if_pos hmany]
      refine Resets.gap ?_ ?_
      · intro he
        rw [pruneDropTable, he]
        rfl
      · intro he hsame
        rw [pruneDropTable, he] at hsame
        injection hsame with hsame
        rw [hsame, if_neg Bool.false_ne_true, List.length_take] at hmany
        omega
    · have hsame : (t.pruneDropTable d).tableNames = d.tableNames := by
        unfold pruneDropTable
        dsimp only
        split
        · rfl
        · exact List.take_of_length_le (by omega)
      rw [if_neg hmany, hsame]
      exact Resets.keep _

/-- **Pruning changes a place of a node for each hurdle that the target meets.** -/
theorem resets_prune {n : Node} {p : Position} (hbare : n.isBare = false)
    (h : ¬ n.MalformedAt p) : t.Resets (n.hurdles p) n.places (t.prune n).places := by
  obtain ⟨hslot, hpart⟩ := not_or.mp h
  cases Node.stands_of_slot hslot with
  | createTable c => exact t.resets_createTable hpart
  | dropTable d => exact t.resets_dropTable hpart
  | bareStatement serial => exact absurd hbare Bool.noConfusion
  | tableConstraint c => exact t.resets_tableConstraint hpart
  | columnConstraint c => exact t.resets_columnConstraint hpart
  | column c => exact t.resets_column hpart
  | action a => exact t.resets_action hpart

end Target

/-! ### The renderings -/

namespace Visitor

open Draft

/-- **Lenient rendering is strict rendering of the pruned node.**  On a built-in target, the lenient
rendering of a node that is not malformed writes what the strict rendering of the pruned node
writes, and leaves out one part for each place that pruning changes. -/
theorem lenient_eq_strict_prune {v : Visitor} (hv : v.target ∈ Target.builtin) (n : Node)
    (p : Position) (hbare : n.isBare = false) (htext : n.hasTextDefaults = true)
    (hwell : ¬ n.MalformedAt p) :
    ∃ sql omitted, (v.lenient.render n p).outcome = .rendered sql omitted ∧
      (v.strict.render (v.target.prune n) p).outcome = .rendered sql [] ∧
      omitted.length = n.differences (v.target.prune n) := by
  have hfirst : Hurdle.firstDefect? (n.hurdles p) = none := by
    rw [Hurdle.firstDefect?_eq_none_iff, Node.hasDefect_hurdles]
    exact hwell
  have hlenient := lenient_outcome_builtin hv htext p
  rw [hfirst] at hlenient
  obtain ⟨sql, omitted, hrendered, hlength⟩ := hlenient
  refine ⟨sql, omitted, hrendered, ?_, ?_⟩
  · -- the strict reading of the expressible part has the segments of the lenient reading
    rw [lenient_outcome] at hrendered
    obtain ⟨hending, hsql, -⟩ := outcomeOf_eq_rendered hrendered
    have hplain := (v.target.plain_draft htext p).read true
    obtain ⟨hsegments, hjoinable, hcomplete, homitted⟩ := (v.target.draft n p).read_expressible
    rw [strict_outcome, Target.draft_prune hv hbare htext hwell,
      outcomeOf_complete (hcomplete.trans hending) (hjoinable.trans hplain.1), homitted, ← hsql,
      sqlOf, sqlOf, hsegments]
  · -- one omission for each hurdle, one changed place for each hurdle
    rw [hlength, Node.differences, (v.target.resets_prune hbare hwell).2]
    rfl

/-- SQLite leaves out the columns of an action of a column and what is said about nulls in a
constraint of the table. -/
theorem lenient_eq_strict_prune_sqlite :
    let v : Visitor := ⟨⟨.sqlite, ⟨[3]⟩⟩, {}⟩
    let f : ForeignKey :=
      { refTable := "u", refColumns := [.text "id"], onDelete := some ⟨.setNull, [.text "a"]⟩ }
    let n : Node := .createTable
      { tableName := "t"
        columns := [{ name := "a", dataType := "int", default := .text "0"
                      constraints := [.foreignKey f] }]
        constraints := [.unique { columnNames := [.text "a"], nullsDistinct := .bool false }] }
    v.target ∈ Target.builtin ∧ n.isBare = false ∧ n.hasTextDefaults = true ∧
      ¬ n.MalformedAt .statement ∧
      ∃ sql omitted, (v.lenient.render n .statement).outcome = .rendered sql omitted ∧
        (v.strict.render (v.target.prune n) .statement).outcome = .rendered sql [] ∧
        omitted.length = n.differences (v.target.prune n) :=
  have hv := Target.sqlite_mem_builtin (by decide)
  ⟨hv, rfl, rfl, by decide, lenient_eq_strict_prune hv _ _ rfl rfl (by decide)⟩

end Visitor

end SqlDialect
