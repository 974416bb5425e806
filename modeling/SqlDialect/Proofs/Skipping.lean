import SqlDialect.Proofs.Trimming

/-!
# Constructs without a form

Lenient rendering skips a construct for which the target has no form.  On an engine of any layers
with forms of their own, for a node that has a form itself and is well-formed
(`lenient_skips_without_form`):

* what trimming takes out of the node is left out once each, and everything else is left out as it
  is for the trimmed node;
* the text is that of the trimmed node exactly if no referential action is taken out.  The words that
  introduce an action are written before it is known whether it has a form, and stay where it has
  none.

The draft of a node is that of the trimmed one with the rest skipped (`Target.skips_draft`), part by
part.
-/

namespace SqlDialect

/-! ### Drafts of trimmed nodes -/

namespace Target

open Draft Visitor

theorem formed_lack (t : Target) (construct : Node) (f : Feature) : Formed (t.lack construct f) := by
  simp [lack, Step.isFormed, Omission.skipped?]

@[simp] theorem formed_inParentheses (ns : List String) : Formed (inParentheses ns) := by
  simp [inParentheses]

theorem formed_withNames {construct : Node} {list : NameList} {names : List Value}
    {k : List String → Draft} (hk : ∀ texts, Formed (k texts)) :
    Formed (withNames construct list names k) := by
  rw [withNames_eq]
  split
  · simp [Step.isFormed]
  · exact hk _

variable {t : Target} {v : Visitor}

/-- Whether a node is handled is up to the form of its slot. -/
theorem form?_ne_none_of_handles {n : Node} {p : Position} (h : t.handles n p = true) {slot : Slot}
    (hslot : Slot.of? n.kind p = some slot) : t.form? slot ≠ none := by
  rw [handles, hslot, Option.any_some] at h
  exact Option.isSome_iff_ne_none.mp h

theorem form?_eq_none_of_not_handles {n : Node} {p : Position} (h : t.handles n p = false)
    {slot : Slot} (hslot : Slot.of? n.kind p = some slot) : t.form? slot = none := by
  rw [handles, hslot, Option.any_some] at h
  exact Option.isNone_iff_eq_none.mp (Option.isSome_eq_false_iff.mp h)

theorem formed_draftAction {a : ReferentialAction} (h : t.handles (.action a) .clause = true) :
    Formed (t.draftAction a) := by
  unfold draftAction
  dsimp only
  split
  · exact absurd ‹_› (form?_ne_none_of_handles h rfl)
  · exact formed_keyword _
  · refine (formed_append _ _).mpr ⟨formed_keyword _, ?_⟩
    split
    · exact formed_nil
    · exact formed_withNames fun _ => t.formed_lack _ _
  · refine (formed_append _ _).mpr ⟨formed_keyword _, ?_⟩
    split
    · exact formed_nil
    · refine formed_withNames fun columns => ?_
      split
      · simp
      · exact t.formed_lack _ _

theorem formed_draftDropTable {d : DropTable} (h : t.handles (.dropTable d) .statement = true) :
    Formed (t.draftDropTable d) := by
  have haction : Formed (draftDropAction d.action) := by
    cases d.action with
    | none => exact formed_nil
    | some a => exact formed_keyword _
  have hannounce (tables : List String) : Formed [.announceDrop tables] := by
    simp [Step.isFormed]
  unfold draftDropTable
  dsimp only
  split
  · exact absurd ‹_› (form?_ne_none_of_handles h rfl)
  · exact formed_keyword _
  · refine formed_withNames fun tables => ?_
    simp [haction, hannounce, formed_lack]
  · refine formed_withNames fun tables => ?_
    simp [haction, hannounce, formed_lack]

/-- A constraint that is no foreign key has no parts: with a form for it, nothing is skipped. -/
theorem formed_draftTableConstraint {c : Constraint} (h : t.handles (.constraint c) .table = true)
    (hforeign : ∀ f, c ≠ .foreignKey f) : Formed (t.draftTableConstraint c) := by
  cases c with
  | check c =>
    simp only [draftTableConstraint, draftTableCheck]
    split
    · exact absurd ‹_› (form?_ne_none_of_handles h rfl)
    · exact formed_keyword _
    · simp
  | foreignKey f => exact absurd rfl (hforeign f)
  | primaryKey p =>
    simp only [draftTableConstraint, draftTablePrimaryKey]
    split
    · exact absurd ‹_› (form?_ne_none_of_handles h rfl)
    · exact formed_keyword _
    · exact formed_withNames fun columns => by simp
  | unique u =>
    simp only [draftTableConstraint, draftTableUnique]
    split
    · exact absurd ‹_› (form?_ne_none_of_handles h rfl)
    · exact formed_keyword _
    all_goals exact formed_withNames fun columns => by simp [formed_lack]

theorem formed_draftColumnConstraint {c : Constraint}
    (h : t.handles (.constraint c) .column = true) (hforeign : ∀ f, c ≠ .foreignKey f) :
    Formed (t.draftColumnConstraint c) := by
  cases c with
  | check c =>
    simp only [draftColumnConstraint, draftColumnCheck]
    split
    · exact absurd ‹_› (form?_ne_none_of_handles h rfl)
    · exact formed_keyword _
    · simp
  | foreignKey f => exact absurd rfl (hforeign f)
  | primaryKey p =>
    simp only [draftColumnConstraint, draftColumnPrimaryKey]
    split
    · exact absurd ‹_› (form?_ne_none_of_handles h rfl)
    · exact formed_keyword _
    · exact formed_keyword _
  | unique u =>
    simp only [draftColumnConstraint, draftColumnUnique]
    split
    · exact absurd ‹_› (form?_ne_none_of_handles h rfl)
    · exact formed_keyword _
    all_goals simp [formed_lack]

theorem formed_draftDefault (x : Value) : Formed (draftDefault x) := by
  unfold draftDefault
  split
  · exact formed_nil
  · refine (formed_append _ _).mpr ⟨formed_keyword _, ?_⟩
    split
    · exact formed_verbatim _
    · simp [Step.isFormed]

/-! ### Foreign keys -/

theorem actions_trimForeignKey (f : ForeignKey) :
    (t.trimForeignKey f).actions = f.actions.filter fun a => t.handles (.action a) .clause := by
  rw [ForeignKey.actions, ForeignKey.actions, List.filter_append, trimForeignKey,
    Option.toList_filter, Option.toList_filter]

theorem not_malformedReferences_trim {f : ForeignKey} (h : ¬ f.MalformedReferences) :
    ¬ (t.trimForeignKey f).MalformedReferences := by
  rintro (hnames | ⟨a, ha, hmalformed⟩)
  · exact h (.inl hnames)
  · rw [actions_trimForeignKey] at ha
    exact h (.inr ⟨a, (List.mem_filter.mp ha).1, hmalformed⟩)

theorem skips_draftClause {words : String} (hwords : words ≠ "") (a : Option ReferentialAction) :
    v.Skips (t.draftClause words a)
      (t.draftClause words (a.filter fun a => t.handles (.action a) .clause))
      (a.toList.flatMap fun a => t.skippedPart (.action a) .clause []) := by
  cases a with
  | none => exact .nil
  | some a =>
    rw [Option.toList_some, List.flatMap_singleton, Option.filter_some]
    cases h : t.handles (.action a) .clause with
    | true =>
      rw [if_pos rfl, skippedPart, if_pos h]
      exact .of_formed ((formed_append _ _).mpr ⟨formed_keyword _, formed_draftAction h⟩)
    | false =>
      -- the words come before the action is looked at
      have hform : t.form? .action = none := form?_eq_none_of_not_handles h rfl
      have hdraft : t.draftClause words (some a) =
          keyword words ++ t.missing (.action a) .action := by
        rw [draftClause, draftAction, hform]
      rw [if_neg Bool.false_ne_true, skippedPart, h, if_neg Bool.false_ne_true, hdraft]
      exact .missing_after_words hwords a

theorem skips_draftReferences {f : ForeignKey} (h : ¬ f.MalformedReferences) :
    v.Skips (t.draftReferences f) (t.draftReferences (t.trimForeignKey f))
      (f.actions.flatMap fun a => t.skippedPart (.action a) .clause []) := by
  have hnamed : ¬ Unnamed f.refColumns := fun hu => h (.inl hu)
  have hnamed' : ¬ Unnamed (t.trimForeignKey f).refColumns := hnamed
  rw [draftReferences, withNames_of_named hnamed, draftReferences, withNames_of_named hnamed',
    ForeignKey.actions, List.flatMap_append]
  have htable : v.Skips
      (keyword "references " ++ identifier f.refTable ++ verbatim " " ++
        inParentheses (textsOf f.refColumns))
      (keyword "references " ++ identifier f.refTable ++ verbatim " " ++
        inParentheses (textsOf f.refColumns)) [] :=
    .of_formed (by simp)
  exact (htable.append (skips_draftClause (by decide) f.onUpdate)).append
    (skips_draftClause (by decide) f.onDelete)

/-! ### Constraints, columns and tables -/

theorem not_malformedOnTable_trim {c : Constraint} (h : ¬ c.MalformedOnTable) :
    ¬ (t.trimConstraint c).MalformedOnTable := by
  cases c with
  | check c => exact h
  | foreignKey f =>
    obtain ⟨hnames, hreferences⟩ := not_or.mp h
    exact not_or.mpr ⟨hnames, not_malformedReferences_trim hreferences⟩
  | primaryKey p => exact h
  | unique u => exact h

/-- Trimming a constraint does not change whether there is a form for it. -/
theorem handles_trimConstraint (c : Constraint) (p : Position) :
    t.handles (.constraint (t.trimConstraint c)) p = t.handles (.constraint c) p := by
  cases c <;> rfl

theorem kind_constraint_ne_action (c : Constraint) :
    (Node.constraint c).kind ≠ .referentialAction := by
  cases c <;> simp [Node.kind, Constraint.kind]

/-- A constraint of a table without a form has no text and is itself what is skipped. -/
theorem skips_unhandled_tableConstraint {c : Constraint}
    (h : t.handles (.constraint c) .table = false) :
    isEmptyText (t.draftTableConstraint c) = true ∧
      v.Skips (t.draftTableConstraint c) [] [(.constraint c, .table)] := by
  have hnone {slot : Slot} (hslot : Slot.of? c.kind .table = some slot) : t.form? slot = none :=
    form?_eq_none_of_not_handles h hslot
  cases c with
  | check c =>
    rw [draftTableConstraint, draftTableCheck, hnone rfl]
    exact ⟨rfl, .missing .tableCheck (kind_constraint_ne_action _)⟩
  | foreignKey f =>
    rw [draftTableConstraint, draftTableForeignKey, hnone rfl]
    exact ⟨rfl, .missing .tableForeignKey (kind_constraint_ne_action _)⟩
  | primaryKey p =>
    rw [draftTableConstraint, draftTablePrimaryKey, hnone rfl]
    exact ⟨rfl, .missing .tablePrimaryKey (kind_constraint_ne_action _)⟩
  | unique u =>
    rw [draftTableConstraint, draftTableUnique, hnone rfl]
    exact ⟨rfl, .missing .tableUnique (kind_constraint_ne_action _)⟩

/-- A constraint of a column without a form is itself what is skipped. -/
theorem skips_unhandled_columnConstraint {c : Constraint}
    (h : t.handles (.constraint c) .column = false) :
    v.Skips (t.draftColumnConstraint c) [] [(.constraint c, .column)] := by
  have hnone {slot : Slot} (hslot : Slot.of? c.kind .column = some slot) : t.form? slot = none :=
    form?_eq_none_of_not_handles h hslot
  cases c with
  | check c =>
    rw [draftColumnConstraint, draftColumnCheck, hnone rfl]
    exact .missing .columnCheck (kind_constraint_ne_action _)
  | foreignKey f =>
    rw [draftColumnConstraint, draftColumnForeignKey, hnone rfl]
    exact .missing .columnForeignKey (kind_constraint_ne_action _)
  | primaryKey p =>
    rw [draftColumnConstraint, draftColumnPrimaryKey, hnone rfl]
    exact .missing .columnPrimaryKey (kind_constraint_ne_action _)
  | unique u =>
    rw [draftColumnConstraint, draftColumnUnique, hnone rfl]
    exact .missing .columnUnique (kind_constraint_ne_action _)

section OwnForms

variable (hforms : ∀ slot text, t.form? slot ≠ some (.literal slot text))

include hforms

theorem skips_draftTableConstraint {c : Constraint}
    (h : t.handles (.constraint c) .table = true) (hwell : ¬ c.MalformedOnTable) :
    v.Skips (t.draftTableConstraint c) (t.draftTableConstraint (t.trimConstraint c))
      (t.skippedInConstraint c) := by
  cases c with
  | check c => exact .of_formed (formed_draftTableConstraint h nofun)
  | primaryKey p => exact .of_formed (formed_draftTableConstraint h nofun)
  | unique u => exact .of_formed (formed_draftTableConstraint h nofun)
  | foreignKey f =>
    obtain ⟨hnames, hreferences⟩ := not_or.mp hwell
    have hrefs : ¬ Unnamed f.refColumns := fun hu => hreferences (.inl hu)
    cases hform : t.form? .tableForeignKey with
    | none => exact absurd hform (form?_ne_none_of_handles h rfl)
    | some form =>
      cases form with
      | literal _ text => exact absurd hform (hforms _ text)
      | tableForeignKey =>
        have hdraft {g : ForeignKey} (hg : ¬ Unnamed g.columnNames)
            (hg' : ¬ Unnamed g.refColumns) : t.draftTableForeignKey g =
              keyword "foreign key (" ++ names (textsOf g.columnNames) ++ verbatim ") " ++
                t.draftReferences g := by
          rw [draftTableForeignKey, hform]
          dsimp only
          rw [withNames_of_named hg, withNames_of_named hg']
        have hcolumns : Formed (keyword "foreign key (" ++ names (textsOf f.columnNames) ++
            verbatim ") ") := by simp
        show v.Skips (t.draftTableForeignKey f) (t.draftTableForeignKey (t.trimForeignKey f)) _
        rw [hdraft hnames hrefs, hdraft (g := t.trimForeignKey f) hnames hrefs]
        exact (Skips.of_formed hcolumns).append (skips_draftReferences hreferences)

theorem skips_draftColumnConstraint {c : Constraint}
    (h : t.handles (.constraint c) .column = true) (hwell : ¬ c.MalformedOnColumn) :
    v.Skips (t.draftColumnConstraint c) (t.draftColumnConstraint (t.trimConstraint c))
      (t.skippedInConstraint c) := by
  cases c with
  | check c => exact .of_formed (formed_draftColumnConstraint h nofun)
  | primaryKey p => exact .of_formed (formed_draftColumnConstraint h nofun)
  | unique u => exact .of_formed (formed_draftColumnConstraint h nofun)
  | foreignKey f =>
    cases hform : t.form? .columnForeignKey with
    | none => exact absurd hform (form?_ne_none_of_handles h rfl)
    | some form =>
      cases form with
      | literal _ text => exact absurd hform (hforms _ text)
      | columnForeignKey =>
        have hdraft (g : ForeignKey) :
            t.draftColumnForeignKey g = verbatim " " ++ t.draftReferences g := by
          rw [draftColumnForeignKey, hform]
        show v.Skips (t.draftColumnForeignKey f) (t.draftColumnForeignKey (t.trimForeignKey f)) _
        rw [hdraft, hdraft]
        exact (Skips.of_formed (formed_verbatim _)).append (skips_draftReferences hwell)

/-- A constraint of a table with a form has a text. -/
theorem isEmptyText_of_handles {c : Constraint} (h : t.handles (.constraint c) .table = true)
    (hwell : ¬ c.MalformedOnTable) : isEmptyText (t.draftTableConstraint c) = false := by
  have hsome {slot : Slot} (hslot : Slot.of? c.kind .table = some slot) : t.form? slot ≠ none :=
    form?_ne_none_of_handles h hslot
  cases c with
  | check c =>
    simp only [draftTableConstraint, draftTableCheck]
    split
    · exact absurd ‹_› (hsome rfl)
    · exact absurd ‹_› (hforms _ _)
    · simp [isEmptyText_append, isEmptyText_keyword]
  | foreignKey f =>
    obtain ⟨hnames, hreferences⟩ := not_or.mp hwell
    simp only [draftTableConstraint, draftTableForeignKey]
    split
    · exact absurd ‹_› (hsome rfl)
    · exact absurd ‹_› (hforms _ _)
    · rw [withNames_of_named hnames, withNames_of_named fun hu => hreferences (.inl hu)]
      simp [isEmptyText_append, isEmptyText_keyword]
  | primaryKey p =>
    simp only [draftTableConstraint, draftTablePrimaryKey]
    split
    · exact absurd ‹_› (hsome rfl)
    · exact absurd ‹_› (hforms _ _)
    · rw [withNames_of_named hwell]
      simp [isEmptyText_append, isEmptyText_keyword]
  | unique u =>
    simp only [draftTableConstraint, draftTableUnique]
    split
    · exact absurd ‹_› (hsome rfl)
    · exact absurd ‹_› (hforms _ _)
    all_goals
      rw [withNames_of_named hwell]
      simp [isEmptyText_append, isEmptyText_keyword]

/-- The form of a column that is handled. -/
theorem draftColumn_of_handles {c : Column} (h : t.handles (.column c) .clause = true) :
    t.draftColumn c =
      identifier c.name ++ verbatim (" " ++ c.dataType) ++
        (if c.nullable.isTrue then [] else keyword " not null") ++ draftDefault c.default ++
        c.constraints.flatMap t.draftColumnConstraint := by
  unfold draftColumn
  split
  · exact absurd ‹_› (form?_ne_none_of_handles h rfl)
  · exact absurd ‹_› (hforms _ _)
  · rfl

/-- A column with a form has a text. -/
theorem isEmptyText_of_handles_column {c : Column} (h : t.handles (.column c) .clause = true) :
    isEmptyText (t.draftColumn c) = false := by
  rw [draftColumn_of_handles hforms h]
  simp [isEmptyText_append, isEmptyText_blank_append]

theorem skips_draftColumn {c : Column} (h : t.handles (.column c) .clause = true)
    (hwell : ¬ c.Malformed) :
    v.Skips (t.draftColumn c) (t.draftColumn (t.trimColumn c)) (t.skippedInColumn c) := by
  have hown : Formed (identifier c.name ++ verbatim (" " ++ c.dataType) ++
      (if c.nullable.isTrue then [] else keyword " not null") ++ draftDefault c.default) := by
    simp [formed_draftDefault]
  have hconstraints : v.Skips (c.constraints.flatMap t.draftColumnConstraint)
      ((t.trimColumn c).constraints.flatMap t.draftColumnConstraint) (t.skippedInColumn c) := by
    rw [trimColumn, List.flatMap_map]
    refine .flatMap ?_ ?_
    · intro k hk hkeep
      rw [skippedPart, if_pos hkeep]
      exact skips_draftColumnConstraint hforms hkeep fun hmalformed => hwell ⟨k, hk, hmalformed⟩
    · intro k _ hskip
      rw [skippedPart, hskip, if_neg Bool.false_ne_true]
      exact skips_unhandled_columnConstraint hskip
  rw [draftColumn_of_handles hforms h, draftColumn_of_handles (c := t.trimColumn c) hforms h]
  exact (Skips.of_formed hown).append hconstraints

/-- The columns and the constraints of a table creation, part by part. -/
theorem skipsAll_parts {c : CreateTable} (hwell : ¬ c.Malformed) :
    v.SkipsAll (c.columns.map t.draftColumn ++ c.constraints.map t.draftTableConstraint)
      ((t.trimCreateTable c).columns.map t.draftColumn ++
        (t.trimCreateTable c).constraints.map t.draftTableConstraint)
      (t.skippedInCreateTable c) := by
  obtain ⟨hcolumns, hconstraints⟩ := not_or.mp hwell
  rw [trimCreateTable, List.map_map, List.map_map]
  -- columns with a form, columns without one, and the same for constraints
  refine .append (.of_filter ?_ ?_) (.of_filter ?_ ?_)
  · intro column hmem hkeep
    rw [skippedPart, if_pos hkeep]
    refine ⟨isEmptyText_of_handles_column hforms hkeep, ?_, ?_⟩
    · exact isEmptyText_of_handles_column (c := t.trimColumn column) hforms hkeep
    · exact skips_draftColumn hforms hkeep fun hm => hcolumns ⟨column, hmem, hm⟩
  · intro column _ hskip
    have hnone : t.form? .column = none := form?_eq_none_of_not_handles hskip rfl
    rw [skippedPart, hskip, if_neg Bool.false_ne_true, draftColumn, hnone]
    exact ⟨rfl, .missing .column (by simp [Node.kind])⟩
  · intro k hmem hkeep
    have hk : ¬ k.MalformedOnTable := fun hm => hconstraints ⟨k, hmem, hm⟩
    have hkeep' : t.handles (.constraint (t.trimConstraint k)) .table = true := by
      rw [handles_trimConstraint, hkeep]
    rw [skippedPart, if_pos hkeep]
    refine ⟨isEmptyText_of_handles hforms hkeep hk, ?_, ?_⟩
    · exact isEmptyText_of_handles hforms hkeep' (not_malformedOnTable_trim hk)
    · exact skips_draftTableConstraint hforms hkeep hk
  · intro k _ hskip
    rw [skippedPart, hskip, if_neg Bool.false_ne_true]
    exact skips_unhandled_tableConstraint hskip

theorem skips_draftCreateTable {c : CreateTable}
    (h : t.handles (.createTable c) .statement = true)
    (htext : c.columns.all Column.hasTextDefault = true) (hwell : ¬ c.Malformed) :
    v.Skips (t.draftCreateTable c) (t.draftCreateTable (t.trimCreateTable c))
      (t.skippedInCreateTable c) := by
  have htext' : (t.trimCreateTable c).columns.all Column.hasTextDefault = true := by
    rw [trimCreateTable, List.all_map, List.all_eq_true]
    intro column hmem
    exact List.all_eq_true.mp htext column (List.mem_filter.mp hmem).1
  have hdraft {c : CreateTable} (h : t.handles (.createTable c) .statement = true)
      (htext : c.columns.all Column.hasTextDefault = true) :
      t.draftCreateTable c =
        keyword "create table " ++
          (if c.ifNotExists.isTrue then keyword "if not exists " else []) ++
          identifier c.tableName ++ verbatim " (" ++
          commaSeparated false
            (c.columns.map t.draftColumn ++ c.constraints.map t.draftTableConstraint) ++
          verbatim ")" := by
    unfold draftCreateTable
    split
    · exact absurd ‹_› (form?_ne_none_of_handles h rfl)
    · exact absurd ‹_› (hforms _ _)
    · rw [t.fragments_eq htext]
  have hheader : Formed (keyword "create table " ++
      (if c.ifNotExists.isTrue then keyword "if not exists " else []) ++
      identifier c.tableName ++ verbatim " (") := by simp
  have hparts := (skipsAll_parts (v := v) hforms hwell).commaSeparated false
  rw [hdraft h htext, hdraft (c := t.trimCreateTable c) h htext',
    ← List.append_nil (t.skippedInCreateTable c)]
  exact ((Skips.of_formed hheader).append hparts).append (.of_formed (formed_verbatim _))

/-- **The draft of a node is that of the trimmed one with the rest skipped**, for a node that is
handled and well-formed. -/
theorem skips_draft {n : Node} {p : Position} (h : t.handles n p = true)
    (htext : n.hasTextDefaults = true) (hwell : ¬ n.MalformedAt p) :
    v.Skips (t.draft n p) (t.draft (t.trim n) p) (t.skippedIn n) := by
  have hstands : n.Stands p := by
    refine Node.stands_of_slot fun hnone => ?_
    rw [handles, hnone, Option.any_none] at h
    exact Bool.false_ne_true h
  rw [hstands.malformedAt_iff] at hwell
  cases hstands with
  | createTable c => exact skips_draftCreateTable hforms h htext hwell
  | dropTable d => exact .of_formed (formed_draftDropTable h)
  | bareStatement serial =>
    -- nothing but a fixed text renders a bare statement
    cases hform : t.form? .statement with
    | none => exact absurd hform (form?_ne_none_of_handles h rfl)
    | some form =>
      cases form with
      | literal _ text => exact absurd hform (hforms _ text)
  | tableConstraint c => exact skips_draftTableConstraint hforms h hwell
  | columnConstraint c => exact skips_draftColumnConstraint hforms h hwell
  | column c => exact skips_draftColumn hforms h hwell
  | action a => exact .of_formed (formed_draftAction h)

end OwnForms

end Target

/-! ### Lenient rendering -/

/-- The layers that engines are made of have forms of their own. -/
theorem Layer.hasOwnForms_of_mem {l : Layer}
    (h : l ∈ [standard, columnConstraints, postgresql91, postgresql15, sqlite3]) :
    l.HasOwnForms := by
  intro slot text
  simp only [List.mem_cons, List.not_mem_nil, or_false] at h
  rcases h with rfl | rfl | rfl | rfl | rfl <;> cases slot <;> nofun

/-- A layer that keeps only some slots has the same forms there. -/
theorem Layer.HasOwnForms.restrict {l : Layer} (h : l.HasOwnForms) (slots : List Slot) :
    (l.restrict slots).HasOwnForms := by
  intro slot text hform
  simp only [Layer.restrict] at hform
  split at hform
  · exact h slot text hform
  · exact absurd hform nofun

namespace Visitor

/-- **What lenient rendering makes of constructs without a form**, on an engine of any layers with
forms of their own.  For a node that has a form itself and is well-formed, both the node and the
trimmed one are rendered; what is skipped in the node is left out once each, in order, and
everything else that is left out is left out for the trimmed node too.  The text is the same exactly
if no referential action is skipped. -/
theorem lenient_skips_without_form (v : Visitor)
    (hforms : ∀ l ∈ v.target.engine.layers, l.HasOwnForms) {n : Node} {p : Position}
    (hown : v.target.handles n p = true) (htext : n.hasTextDefaults = true)
    (hwell : ¬ n.MalformedAt p) :
    ∃ sql os sql' os',
      (v.lenient.render n p).outcome = .rendered sql os ∧
      (v.lenient.render (v.target.trim n) p).outcome = .rendered sql' os' ∧
      os.filterMap Omission.skipped? = v.target.skippedIn n ∧
      os.filter (fun o => o.skipped?.isNone) = os' ∧
      (sql = sql' ↔ ∀ x ∈ v.target.skippedIn n, x.1.kind ≠ .referentialAction) := by
  have hskips := Target.skips_draft (v := v) (Target.form?_ne_literal hforms) hown htext hwell
  have hpassed := v.target.isPassed_of_wellFormed htext hwell
  refine ⟨v.textOf (v.target.draft n p), _, v.textOf (v.target.draft (v.target.trim n) p), _,
    ?_, ?_, hskips.skipped_eq, hskips.others_eq, ?_⟩
  · rw [lenient_outcome]
    exact v.outcomeOf_of_passed hpassed
  · rw [lenient_outcome]
    exact v.outcomeOf_of_passed (hskips.passed hpassed)
  · -- with an action skipped the text is longer, so equal texts mean that none is
    constructor
    · intro heq x hx hkind
      have hlonger := hskips.text_longer ⟨x, hx, hkind⟩
      rw [heq] at hlonger
      exact absurd hlonger (Nat.lt_irrefl _)
    · exact hskips.text_eq

/-- On an engine with tables, columns and foreign keys of tables only, two checks and the action of
a foreign key are skipped, and the action leaves its words. -/
theorem lenient_skips_without_form_custom_engine :
    let layer : Layer := Layer.standard.restrict [.createTable, .column, .tableForeignKey]
    let v : Visitor := ⟨⟨⟨"custom", [layer], [⟨[1]⟩], .double, fun _ => 1⟩, ⟨[1]⟩⟩, {}⟩
    let check : Constraint := .check ⟨"a > 0"⟩
    let cascade : ReferentialAction := ⟨.cascade, []⟩
    let f : ForeignKey :=
      { columnNames := [.text "a"], refTable := "u", refColumns := [.text "id"]
        onDelete := some cascade }
    let n : Node := .createTable
      { tableName := "t", columns := [{ name := "a", dataType := "int", constraints := [check] }]
        constraints := [check, .foreignKey f] }
    (∀ l ∈ v.target.engine.layers, l.HasOwnForms) ∧ v.target.handles n .statement = true ∧
      n.hasTextDefaults = true ∧ ¬ n.MalformedAt .statement ∧
      ∃ sql os sql' os', (v.lenient.render n .statement).outcome = .rendered sql os ∧
        (v.lenient.render (v.target.trim n) .statement).outcome = .rendered sql' os' ∧
        os.filterMap Omission.skipped? =
          [(.constraint check, .column), (.constraint check, .table), (.action cascade, .clause)] ∧
        sql ≠ sql' := by
  intro layer v check cascade f n
  have hforms : ∀ l ∈ v.target.engine.layers, l.HasOwnForms := by
    intro l hl
    rw [List.mem_singleton.mp hl]
    exact (Layer.hasOwnForms_of_mem List.mem_cons_self).restrict _
  have hwell : ¬ n.MalformedAt .statement := by decide
  obtain ⟨sql, os, sql', os', hrender, htrim, hskipped, -, hsql⟩ :=
    lenient_skips_without_form v hforms (n := n) (p := .statement) rfl rfl hwell
  have haction : (.action cascade, .clause) ∈ v.target.skippedIn n :=
    List.mem_cons_of_mem _ (List.mem_cons_of_mem _ List.mem_cons_self)
  exact ⟨hforms, rfl, rfl, hwell, sql, os, sql', os', hrender, htrim, hskipped,
    fun heq => hsql.mp heq _ haction rfl⟩

/-- Not every construct without a form is skipped without a trace: of the action of a foreign key,
the words that introduce it stay. -/
theorem not_lenient_sql_eq_trim :
    ¬ ∀ v : Visitor, (∀ l ∈ v.target.engine.layers, l.HasOwnForms) →
      ∀ (n : Node) (p : Position), v.target.handles n p = true → n.hasTextDefaults = true →
        ¬ n.MalformedAt p →
        ∃ sql os os', (v.lenient.render n p).outcome = .rendered sql os ∧
          (v.lenient.render (v.target.trim n) p).outcome = .rendered sql os' := by
  intro h
  let layer : Layer := Layer.standard.restrict [.tableForeignKey]
  let v : Visitor := ⟨⟨⟨"custom", [layer], [⟨[1]⟩], .double, fun _ => 1⟩, ⟨[1]⟩⟩, {}⟩
  let cascade : ReferentialAction := ⟨.cascade, []⟩
  let n : Node := .constraint <| .foreignKey
    { columnNames := [.text "a"], refTable := "u", refColumns := [.text "id"]
      onDelete := some cascade }
  have hforms : ∀ l ∈ v.target.engine.layers, l.HasOwnForms := by
    intro l hl
    rw [List.mem_singleton.mp hl]
    exact (Layer.hasOwnForms_of_mem List.mem_cons_self).restrict _
  have hwell : ¬ n.MalformedAt .table := by decide
  have hskips := Target.skips_draft (v := v) (n := n) (p := .table)
    (Target.form?_ne_literal hforms) rfl rfl hwell
  have hpassed := v.target.isPassed_of_wellFormed (n := n) (p := .table) rfl hwell
  have hlonger := hskips.text_longer ⟨(.action cascade, .clause), List.mem_cons_self, rfl⟩
  obtain ⟨sql, os, os', hrender, htrim⟩ := h v hforms n .table rfl rfl hwell
  rw [lenient_outcome, v.outcomeOf_of_passed hpassed] at hrender
  rw [lenient_outcome, v.outcomeOf_of_passed (hskips.passed hpassed)] at htrim
  injection hrender with hsql
  injection htrim with hsql'
  rw [hsql, hsql'] at hlonger
  exact absurd hlonger (Nat.lt_irrefl _)

end Visitor

end SqlDialect
