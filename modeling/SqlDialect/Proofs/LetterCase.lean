import SqlDialect.Proofs.Acceptance
import SqlDialect.Proofs.Composition
import SqlDialect.Proofs.Releases

/-!
# What the letter case changes

The letter case of keywords is no part of a draft, so two strategies that differ in nothing else
come to the same pieces of SQL, and to the same failure or the same omissions (`render_letterCase`).

That the letter case changes nothing but keywords is a matter of which pieces are keywords: they are
words of a fixed list (`fixedWords`).  All that a node says for itself, its names and its raw SQL
(`Target.texts`), is woven into them unchanged, with some punctuation between (`Woven`).
-/

namespace SqlDialect

/-! ### Pieces -/

/-- A piece of SQL of which the letter case is open, or nothing. -/
inductive Piece
  | keyword (text : String)
  | verbatim (text : String)
  deriving DecidableEq, Repr

/-- The text of a piece in a letter case. -/
def Piece.inCase (mapCase : String → String) : Piece → String
  | .keyword text => mapCase text
  | .verbatim text => text

/-- The piece that a strategy makes of a piece in a draft: it decides on the quotes. -/
def Strategy.piece (s : Strategy) (quote? : Option QuoteStyle) : Segment → Piece
  | .keyword text => .keyword text
  | .identifier name => .verbatim (s.formatIdentifier quote? name)
  | .verbatim text => .verbatim text

theorem Strategy.format_eq_inCase (s : Strategy) (quote? : Option QuoteStyle) (segment : Segment) :
    s.format quote? segment = (s.piece quote? segment).inCase s.formatKeyword := by
  cases segment <;> rfl

theorem Strategy.formatAll_eq_join (s : Strategy) (quote? : Option QuoteStyle)
    (segments : List Segment) :
    s.formatAll quote? segments =
      String.join ((segments.map (s.piece quote?)).map (Piece.inCase s.formatKeyword)) := by
  have hformat : segments.map (s.format quote?) =
      segments.map fun segment => (s.piece quote? segment).inCase s.formatKeyword :=
    List.map_congr_left fun segment _ => s.format_eq_inCase quote? segment
  rw [formatAll, hformat, List.map_map]
  rfl

/-! ### Texts among fixed ones -/

/-- The keywords that are written, whatever the node says. -/
def fixedWords : List String :=
  ["create table ", "if not exists ", "drop table ", "if exists ", " not null", " default ",
    "check (", " check (", "primary key (", " primary key", "unique ", " unique",
    "nulls not distinct ", " nulls not distinct", "foreign key (", "references ", " on update ",
    " on delete "] ++
    ActionType.all.map ActionType.sqlText ++ DropAction.all.map fun a => " " ++ a.sqlText

/-- The punctuation that is written, whatever the node says. -/
def fixedMarks : List String :=
  [" (", ")", ", ", " ", "(", ") "]

/-- Texts are the verbatim pieces among pieces that are otherwise fixed words and marks, in order; a
blank may be put in front of one. -/
inductive Woven : List String → List Piece → Prop
  | nil : Woven [] []
  | word {text : String} {texts : List String} {pieces : List Piece} (h : text ∈ fixedWords)
      (rest : Woven texts pieces) : Woven texts (.keyword text :: pieces)
  | mark {text : String} {texts : List String} {pieces : List Piece} (h : text ∈ fixedMarks)
      (rest : Woven texts pieces) : Woven texts (.verbatim text :: pieces)
  | text (text : String) {texts : List String} {pieces : List Piece} (rest : Woven texts pieces) :
      Woven (text :: texts) (.verbatim text :: pieces)
  | spaced (text : String) {texts : List String} {pieces : List Piece} (rest : Woven texts pieces) :
      Woven (text :: texts) (.verbatim (" " ++ text) :: pieces)

theorem Woven.append {texts texts' : List String} {pieces pieces' : List Piece}
    (h : Woven texts pieces) (h' : Woven texts' pieces') :
    Woven (texts ++ texts') (pieces ++ pieces') := by
  induction h with
  | nil => exact h'
  | word hmem _ ih => exact .word hmem ih
  | mark hmem _ ih => exact .mark hmem ih
  | text text _ ih => exact .text text ih
  | spaced text _ ih => exact .spaced text ih

/-! ### Drafts -/

namespace Draft

theorem pieces_append (a b : Draft) : (a ++ b).pieces = a.pieces ++ b.pieces :=
  List.filterMap_append

/-- A draft writes texts of its own among fixed ones. -/
def Writes (s : Strategy) (q : QuoteStyle) (texts : List Segment) (d : Draft) : Prop :=
  Woven (texts.map (s.format (some q))) (d.pieces.map (s.piece (some q)))

namespace Writes

variable {s : Strategy} {q : QuoteStyle} {texts texts' : List Segment} {a b d : Draft}

theorem nil : Writes s q [] [] :=
  Woven.nil

theorem append (ha : Writes s q texts a) (hb : Writes s q texts' b) :
    Writes s q (texts ++ texts') (a ++ b) := by
  unfold Writes
  rw [pieces_append, List.map_append, List.map_append]
  exact Woven.append ha hb

theorem keyword {text : String} (h : text ∈ fixedWords) : Writes s q [] (keyword text) :=
  Woven.word h Woven.nil

theorem mark {text : String} (h : text ∈ fixedMarks) : Writes s q [] (verbatim text) :=
  Woven.mark h Woven.nil

theorem identifier (name : String) : Writes s q [.identifier name] (identifier name) :=
  Woven.text _ Woven.nil

theorem verbatim (text : String) : Writes s q [.verbatim text] (verbatim text) :=
  Woven.text _ Woven.nil

theorem spaced (text : String) : Writes s q [.verbatim text] (Draft.verbatim (" " ++ text)) :=
  Woven.spaced _ Woven.nil

theorem keyword_append {text : String} (h : text ∈ fixedWords) (hd : Writes s q texts d) :
    Writes s q texts (Draft.keyword text ++ d) :=
  append (keyword h) hd

theorem mark_append {text : String} (h : text ∈ fixedMarks) (hd : Writes s q texts d) :
    Writes s q texts (Draft.verbatim text ++ d) :=
  append (mark h) hd

/-- What is written behind without a text of the node. -/
theorem append_fixed (hd : Writes s q texts d) (hb : Writes s q [] b) :
    Writes s q texts (d ++ b) := by
  have happend := append hd hb
  rwa [List.append_nil] at happend

theorem names (ns : List String) : Writes s q (ns.map .identifier) (names ns) := by
  fun_induction Draft.names ns with
  | case1 => exact nil
  | case2 name => exact identifier name
  | case3 name rest _ ih => exact append (append_fixed (identifier name) (mark (by decide))) ih

theorem flatMap {α : Type} {xs : List α} {f : α → Draft} {g : α → List Segment}
    (h : ∀ x ∈ xs, Writes s q (g x) (f x)) : Writes s q (xs.flatMap g) (xs.flatMap f) := by
  induction xs with
  | nil => exact nil
  | cons x xs ih =>
    obtain ⟨hx, hxs⟩ := List.forall_mem_cons.mp h
    rw [List.flatMap_cons, List.flatMap_cons]
    exact append hx (ih hxs)

/-- Of drafts with commas between them, each comes with its texts. -/
theorem commaSeparated {parts : List (List Segment × Draft)}
    (h : ∀ part ∈ parts, Writes s q part.1 part.2) (started : Bool) :
    Writes s q (parts.flatMap Prod.fst) (commaSeparated started (parts.map Prod.snd)) := by
  induction parts generalizing started with
  | nil => exact nil
  | cons part parts ih =>
    obtain ⟨hpart, hparts⟩ := List.forall_mem_cons.mp h
    rw [List.flatMap_cons, List.map_cons, Draft.commaSeparated]
    split
    · exact append hpart (ih hparts started)
    · have hcomma : Writes s q [] (if started then comma else []) := by
        cases started with
        | true => exact mark (by decide)
        | false => exact nil
      exact append (append hcomma hpart) (ih hparts true)

/-- What needs a feature is written with its texts, or left out with them. -/
theorem express {t : Target} {construct : Node} {f : Feature} (h : Writes s q texts d) :
    Writes s q (if t.expresses f then texts else []) (t.express construct f d) := by
  unfold Target.express
  cases t.expresses f with
  | true => exact h
  | false => exact nil

theorem express_fixed {t : Target} {construct : Node} {f : Feature} (h : Writes s q [] d) :
    Writes s q [] (t.express construct f d) := by
  have hexpress : Writes s q (if t.expresses f then [] else []) (t.express construct f d) :=
    express h
  rwa [ite_self] at hexpress

theorem ite {p : Prop} [Decidable p] (ha : Writes s q texts a) (hb : Writes s q texts b) :
    Writes s q texts (if p then a else b) := by
  split
  · exact ha
  · exact hb

theorem inParentheses (ns : List String) :
    Writes s q (ns.map .identifier) (Target.inParentheses ns) :=
  append_fixed (mark_append (by decide) (names ns)) (mark (by decide))

end Writes

end Draft

/-! ### What nodes say for themselves -/

/-- The names of a list. -/
def identifiersOf (names : List Value) : List Segment :=
  (textsOf names).map .identifier

namespace Target

variable (t : Target)

/-- The columns of an action, where they can be written. -/
def actionTexts (a : ReferentialAction) : List Segment :=
  if t.expresses a.columnsFeature then identifiersOf a.columns else []

/-- The table and the columns that a foreign key references, and the columns of its actions. -/
def referencesTexts (f : ForeignKey) : List Segment :=
  .identifier f.refTable :: identifiersOf f.refColumns ++ f.actions.flatMap t.actionTexts

/-- The names and the raw SQL of a constraint of a table. -/
def tableConstraintTexts : Constraint → List Segment
  | .check c => [.verbatim c.expression]
  | .foreignKey f => identifiersOf f.columnNames ++ t.referencesTexts f
  | .primaryKey p => identifiersOf p.columnNames
  | .unique u => identifiersOf u.columnNames

/-- The names and the raw SQL of a constraint of a column, whose own columns are not written. -/
def columnConstraintTexts : Constraint → List Segment
  | .check c => [.verbatim c.expression]
  | .foreignKey f => t.referencesTexts f
  | .primaryKey _ => []
  | .unique _ => []

/-- The names and the raw SQL of a column: its name, its data type, its default, its constraints. -/
def columnTexts (c : Column) : List Segment :=
  [.identifier c.name, .verbatim c.dataType] ++ c.default.text?.toList.map .verbatim ++
    c.constraints.flatMap t.columnConstraintTexts

/-- The names and the raw SQL of a table creation. -/
def createTableTexts (c : CreateTable) : List Segment :=
  .identifier c.tableName ::
    (c.columns.flatMap t.columnTexts ++ c.constraints.flatMap t.tableConstraintTexts)

/-- The tables of a table drop, or the first one where no more can be written. -/
def dropTableTexts (d : DropTable) : List Segment :=
  identifiersOf (if t.expresses .dropTableMultiple then d.tableNames else d.tableNames.take 1)

/-- The names and the raw SQL of a node that are rendered at a position on a built-in target, in
order. -/
def texts (n : Node) (p : Position) : List Segment :=
  match n, p with
  | .createTable c, .statement => t.createTableTexts c
  | .dropTable d, .statement => t.dropTableTexts d
  | .constraint c, .table => t.tableConstraintTexts c
  | .constraint c, .column => t.columnConstraintTexts c
  | .column c, .clause => t.columnTexts c
  | .action a, .clause => t.actionTexts a
  | _, _ => []

open Draft

variable {t} (ht : t ∈ builtin) (s : Strategy) (q : QuoteStyle)

include ht

theorem writes_draftAction {a : ReferentialAction} (h : ¬ a.Malformed) :
    Writes s q (t.actionTexts a) (t.draftAction a) := by
  have hword : a.type.sqlText ∈ fixedWords := by cases a.type <;> decide
  rw [draftAction_builtin ht, actionTexts]
  refine .keyword_append hword ?_
  cases hc : a.columns with
  | nil =>
    have hnone : identifiersOf [] = [] := rfl
    rw [hnone, ite_self]
    exact .nil
  | cons x rest =>
    -- the columns are written, or left out with all their names
    have hnamed : ¬ Unnamed (x :: rest) := ReferentialAction.not_unnamed_of_cons h hc
    rw [List.isEmpty_cons, if_neg Bool.false_ne_true, withNames_of_named hnamed]
    exact .express (.mark_append (by decide) (.inParentheses _))

theorem writes_draftClause {words : String} (hwords : words ∈ fixedWords)
    {a : Option ReferentialAction} (h : ∀ b ∈ a.toList, ¬ b.Malformed) :
    Writes s q (a.toList.flatMap t.actionTexts) (t.draftClause words a) := by
  cases a with
  | none => exact .nil
  | some a =>
    have haction := writes_draftAction ht s q (h a (List.mem_singleton_self a))
    rw [Option.toList_some, List.flatMap_singleton]
    exact .keyword_append hwords haction

theorem writes_draftReferences {f : ForeignKey} (h : ¬ f.MalformedReferences) :
    Writes s q (t.referencesTexts f) (t.draftReferences f) := by
  obtain ⟨hnamed, hactions⟩ := not_or.mp h
  have haction : ∀ a ∈ f.actions, ¬ a.Malformed := fun a ha hm => hactions ⟨a, ha, hm⟩
  have hupdate : Writes s q (f.onUpdate.toList.flatMap t.actionTexts)
      (t.draftClause " on update " f.onUpdate) :=
    writes_draftClause ht s q (by decide) fun a ha => haction a (List.mem_append_left _ ha)
  have hdelete : Writes s q (f.onDelete.toList.flatMap t.actionTexts)
      (t.draftClause " on delete " f.onDelete) :=
    writes_draftClause ht s q (by decide) fun a ha => haction a (List.mem_append_right _ ha)
  have htable : Writes s q [.identifier f.refTable]
      (keyword "references " ++ identifier f.refTable ++ verbatim " ") :=
    .append_fixed (.keyword_append (by decide) (.identifier _)) (.mark (by decide))
  have hcolumns := htable.append (.inParentheses (textsOf f.refColumns))
  rw [draftReferences, withNames_of_named hnamed, referencesTexts, ForeignKey.actions,
    List.flatMap_append, ← List.append_assoc]
  exact (hcolumns.append hupdate).append hdelete

theorem writes_draftTableConstraint {c : Constraint} (h : ¬ c.MalformedOnTable) :
    Writes s q (t.tableConstraintTexts c) (t.draftTableConstraint c) := by
  cases c with
  | check c =>
    rw [draftTableCheck_builtin ht]
    exact .append_fixed (.keyword_append (by decide) (.verbatim _)) (.mark (by decide))
  | foreignKey f =>
    obtain ⟨hnamed, hreferences⟩ := not_or.mp h
    have hrefs : ¬ Unnamed f.refColumns := fun hu => hreferences (.inl hu)
    rw [draftTableForeignKey_builtin ht, withNames_of_named hnamed, withNames_of_named hrefs]
    exact .append (.append_fixed (.keyword_append (by decide) (.names _)) (.mark (by decide)))
      (writes_draftReferences ht s q hreferences)
  | primaryKey p =>
    rw [draftTablePrimaryKey_builtin ht, withNames_of_named h]
    exact .append_fixed (.keyword_append (by decide) (.names _)) (.mark (by decide))
  | unique u =>
    rw [draftTableUnique_builtin ht, withNames_of_named h]
    refine .append (.append_fixed (.keyword (by decide)) ?_) (.inParentheses _)
    exact .ite .nil (.express_fixed (.keyword (by decide)))

theorem writes_draftColumnConstraint {c : Constraint} (h : ¬ c.MalformedOnColumn) :
    Writes s q (t.columnConstraintTexts c) (t.draftColumnConstraint c) := by
  cases c with
  | check c =>
    rw [draftColumnCheck_builtin ht]
    exact .append_fixed (.keyword_append (by decide) (.verbatim _)) (.mark (by decide))
  | foreignKey f =>
    rw [draftColumnForeignKey_builtin ht]
    exact .mark_append (by decide) (writes_draftReferences ht s q h)
  | primaryKey p =>
    rw [draftColumnPrimaryKey_builtin ht]
    exact .keyword (by decide)
  | unique u =>
    rw [draftColumnUnique_builtin ht]
    exact .keyword_append (by decide) (.ite .nil (.express_fixed (.keyword (by decide))))

omit ht in
theorem writes_draftDefault {c : Column} (h : c.hasTextDefault = true) :
    Writes s q (c.default.text?.toList.map .verbatim) (draftDefault c.default) := by
  rw [draftDefault_of_hasTextDefault h]
  cases c.default.text? with
  | none => exact .nil
  | some raw => exact .keyword_append (by decide) (.verbatim raw)

theorem writes_draftColumn {c : Column} (h : ¬ c.Malformed) (htext : c.hasTextDefault = true) :
    Writes s q (t.columnTexts c) (t.draftColumn c) := by
  have hname : Writes s q [.identifier c.name, .verbatim c.dataType]
      (identifier c.name ++ verbatim (" " ++ c.dataType)) :=
    .append (.identifier _) (.spaced _)
  have hnull : Writes s q [] (if c.nullable.isTrue then [] else keyword " not null") :=
    .ite .nil (.keyword (by decide))
  rw [draftColumn_builtin ht, columnTexts]
  refine .append (.append (.append_fixed hname hnull) (writes_draftDefault s q htext)) ?_
  exact .flatMap fun k hk => writes_draftColumnConstraint ht s q fun hm => h ⟨k, hk, hm⟩

theorem writes_draftCreateTable {c : CreateTable} (h : ¬ c.Malformed)
    (htext : c.columns.all Column.hasTextDefault = true) :
    Writes s q (t.createTableTexts c) (t.draftCreateTable c) := by
  obtain ⟨hcolumns, hconstraints⟩ := not_or.mp h
  let parts : List (List Segment × Draft) :=
    c.columns.map (fun column => (t.columnTexts column, t.draftColumn column)) ++
      c.constraints.map fun k => (t.tableConstraintTexts k, t.draftTableConstraint k)
  have hparts : ∀ part ∈ parts, Writes s q part.1 part.2 := by
    intro part hpart
    rw [List.mem_append, List.mem_map, List.mem_map] at hpart
    rcases hpart with ⟨column, hmem, rfl⟩ | ⟨k, hmem, rfl⟩
    · exact writes_draftColumn ht s q (fun hm => hcolumns ⟨column, hmem, hm⟩)
        (List.all_eq_true.mp htext column hmem)
    · exact writes_draftTableConstraint ht s q fun hm => hconstraints ⟨k, hmem, hm⟩
  have hdrafts : parts.map Prod.snd =
      c.columns.map t.draftColumn ++ c.constraints.map t.draftTableConstraint := by
    simp [parts, Function.comp_def]
  have htexts : parts.flatMap Prod.fst =
      c.columns.flatMap t.columnTexts ++ c.constraints.flatMap t.tableConstraintTexts := by
    simp [parts, List.flatMap_map]
  have hlist := Writes.commaSeparated hparts false
  rw [hdrafts, htexts] at hlist
  have hopening : Writes s q [.identifier c.tableName]
      (keyword "create table " ++ (if c.ifNotExists.isTrue then keyword "if not exists " else []) ++
        identifier c.tableName ++ verbatim " (") :=
    .append_fixed
      (.append (.append_fixed (.keyword (by decide)) (.ite (.keyword (by decide)) .nil))
        (.identifier _))
      (.mark (by decide))
  -- plain parts are their own fragments
  rw [draftCreateTable_builtin ht, t.fragments_eq htext]
  exact .append_fixed (.append hopening hlist) (.mark (by decide))

theorem writes_draftDropTable {d : DropTable} (h : ¬ Unnamed d.tableNames) :
    Writes s q (t.dropTableTexts d) (t.draftDropTable d) := by
  have haction : Writes s q [] (draftDropAction d.action) := by
    cases d.action with
    | none => exact .nil
    | some a => exact .keyword (by cases a <;> decide)
  have hexists : Writes s q [] (if d.ifExists.isTrue then
      t.express (.dropTable d) .dropTableIfExists (keyword "if exists ") else []) :=
    .ite (.express_fixed (.keyword (by decide))) .nil
  have hmany : Writes s q [] (if 1 < (textsOf d.tableNames).length then
      t.express (.dropTable d) .dropTableMultiple [] else []) :=
    .ite (.express_fixed .nil) .nil
  -- where only one table can be dropped, the first name is the name of the first value
  have hkept : (if t.expresses .dropTableMultiple then textsOf d.tableNames
      else (textsOf d.tableNames).take 1) =
        textsOf (if t.expresses .dropTableMultiple then d.tableNames else d.tableNames.take 1) := by
    cases t.expresses .dropTableMultiple with
    | true => rfl
    | false => exact (textsOf_take h).symm
  have hdrop : Writes s q [] (keyword "drop table ") := .keyword (by decide)
  have hopening := (hdrop.append_fixed hexists).append_fixed hmany
  rw [draftDropTable_builtin ht, withNames_of_named h]
  dsimp only
  rw [hkept]
  exact .append_fixed (.append_fixed (.append hopening (.names _)) haction) .nil

/-- **All that a node says for itself is written as it is**, in order. -/
theorem writes_draft {n : Node} {p : Position} (h : ¬ n.MalformedAt p)
    (htext : n.hasTextDefaults = true) : Writes s q (t.texts n p) (t.draft n p) := by
  obtain ⟨hslot, hpart⟩ := not_or.mp h
  cases Node.stands_of_slot hslot with
  | createTable c => exact writes_draftCreateTable ht s q hpart htext
  | dropTable d => exact writes_draftDropTable ht s q hpart
  | bareStatement serial =>
    show Writes s q [] (t.draftBareStatement serial)
    rw [draftBareStatement_builtin ht]
    exact .nil
  | tableConstraint c => exact writes_draftTableConstraint ht s q hpart
  | columnConstraint c => exact writes_draftColumnConstraint ht s q hpart
  | column c => exact writes_draftColumn ht s q hpart htext
  | action a => exact writes_draftAction ht s q hpart

end Target

/-! ### Renderings in the two letter cases -/

namespace Visitor

open Draft

/-- On a built-in target, what is read to its end is well formed. -/
theorem not_malformedAt_of_complete {v : Visitor} (hv : v.target ∈ Target.builtin) {n : Node}
    (htext : n.hasTextDefaults = true) {p : Position} {lenient : Bool}
    (h : (read lenient (v.target.draft n p)).ending = .complete) : ¬ n.MalformedAt p := by
  have hjoinable := ((v.target.plain_draft htext p).read lenient).1
  have hrenders := outcomeOf_complete (v := v) h hjoinable
  cases lenient with
  | true =>
    have hlenient := (lenient_outcome v n p).trans hrenders
    exact (lenient_renders_iff hv htext p).mp ⟨_, _, hlenient⟩
  | false =>
    have hstrict := (strict_outcome v n p).trans hrenders
    exact not_malformedAt_of_strict_renders hv htext hstrict

/-- **The letter case changes keywords only.**  Two strategies that differ in the letter case come
to the same error, or both to a text, with the same omissions.  Then there are pieces of which the
texts are those in the two letter cases, and the verbatim ones are the names and the raw SQL of the
node, in order, and fixed punctuation. -/
theorem render_letterCase {engine version : Value} {s : Strategy} {v w : Visitor}
    (hv : Visitor.find engine version { s with keywordCase := .lower } = .ok v)
    (hw : Visitor.find engine version { s with keywordCase := .upper } = .ok w)
    (n : Node) (htext : n.hasTextDefaults = true) (p : Position) :
    (∃ d, (v.render n p).outcome = .ofDefect d ∧ (w.render n p).outcome = .ofDefect d) ∨
      (∃ o, (v.render n p).outcome = .unsupported o ∧ (w.render n p).outcome = .unsupported o) ∨
      ∃ (pieces : List Piece) (omitted : List Omission),
        (v.render n p).outcome =
          .rendered (String.join (pieces.map (Piece.inCase Text.lower))) omitted ∧
        (w.render n p).outcome =
          .rendered (String.join (pieces.map (Piece.inCase Text.upper))) omitted ∧
        Woven ((v.target.texts n p).map (s.format (some v.target.engine.quote))) pieces := by
  obtain ⟨hfound, hlower⟩ := Visitor.of_find hv
  obtain ⟨hfound', hupper⟩ := Visitor.of_find hw
  have htarget : w.target = v.target := Except.ok.inj (hfound'.symm.trans hfound)
  have hbuiltin := Target.mem_builtin_of_find hfound
  have hplain := (v.target.plain_draft htext p).read s.skipUnsupported
  rw [render_outcome, render_outcome, htarget]
  unfold outcome
  rw [hlower, hupper]
  dsimp only
  -- both visitors read one draft in one mode
  cases hending : (read s.skipUnsupported (v.target.draft n p)).ending with
  | malformed d => exact .inl ⟨d, outcomeOf_malformed hending, outcomeOf_malformed hending⟩
  | unsupported o =>
    exact .inr (.inl ⟨o, outcomeOf_unsupported hending, outcomeOf_unsupported hending⟩)
  | unjoinable => exact absurd hending hplain.2
  | complete =>
    have hwell := not_malformedAt_of_complete hbuiltin htext hending
    have hwrites := Target.writes_draft hbuiltin s v.target.engine.quote hwell htext
    have hsegments := segments_of_complete hending
    -- the quotes are those of the strategy in either case, so only the keywords are left open
    refine .inr (.inr ⟨(v.target.draft n p).pieces.map (s.piece (some v.target.engine.quote)),
      (read s.skipUnsupported (v.target.draft n p)).omitted, ?_, ?_, hwrites⟩)
    · rw [outcomeOf_complete hending hplain.1, sqlOf, hlower, hsegments, Strategy.formatAll_eq_join]
      rfl
    · rw [outcomeOf_complete hending hplain.1, sqlOf, hupper, htarget, hsegments,
        Strategy.formatAll_eq_join]
      rfl

/-- Names and a default in mixed letters, between keywords in the two cases. -/
theorem render_letterCase_mixed_letters :
    let v : Visitor := ⟨⟨.postgresql, ⟨[15]⟩⟩, { keywordCase := .lower }⟩
    let w : Visitor := ⟨⟨.postgresql, ⟨[15]⟩⟩, { keywordCase := .upper }⟩
    let n : Node := .createTable
      { tableName := "Books"
        columns := [{ name := "Id", dataType := "Int", default := .text "Next('Id')" }] }
    Visitor.find (.text "postgresql") (.int 15) { keywordCase := .lower } = .ok v ∧
      Visitor.find (.text "postgresql") (.int 15) { keywordCase := .upper } = .ok w ∧
      n.hasTextDefaults = true ∧
      ∃ pieces : List Piece, Woven ["Books", "Id", "Int", "Next('Id')"] pieces ∧
        String.join (pieces.map (Piece.inCase Text.lower)) =
          "create table Books (Id Int default Next('Id'))" ∧
        String.join (pieces.map (Piece.inCase Text.upper)) =
          "CREATE TABLE Books (Id Int DEFAULT Next('Id'))" := by
  intro v w n
  have htext : (Value.int 15).toText? = some "15" := by decide +kernel
  have hparse : Version.parse (.int 15) = .ok ⟨[15]⟩ := by
    rw [Version.parse, htext]
    rfl
  have hfind : Target.find (.text "postgresql") (.int 15) = .ok v.target := by
    show Target.of .postgresql (.int 15) = _
    rw [Target.of, Engine.normalize, hparse]
    rfl
  have hv : Visitor.find (.text "postgresql") (.int 15) { keywordCase := .lower } = .ok v := by
    rw [Visitor.find, hfind]
  have hw : Visitor.find (.text "postgresql") (.int 15) { keywordCase := .upper } = .ok w := by
    rw [Visitor.find, hfind]
  have hlower : (v.render n .statement).outcome.sql =
      "create table Books (Id Int default Next('Id'))" := by decide +kernel
  have hupper : (w.render n .statement).outcome.sql =
      "CREATE TABLE Books (Id Int DEFAULT Next('Id'))" := by decide +kernel
  have hnonempty : Outcome.sql (v.render n .statement).outcome ≠ "" := by
    rw [hlower]
    decide
  refine ⟨hv, hw, rfl, ?_⟩
  rcases render_letterCase (s := {}) hv hw n rfl .statement with
    ⟨d, hd, -⟩ | ⟨o, ho, -⟩ | ⟨pieces, omitted, hpieces, hpieces', hwoven⟩
  · exact absurd ((congrArg Outcome.sql hd).trans (Outcome.sql_ofDefect d)) hnonempty
  · exact absurd (congrArg Outcome.sql ho) hnonempty
  · rw [hpieces] at hlower
    rw [hpieces'] at hupper
    exact ⟨pieces, hwoven, hlower, hupper⟩

end Visitor

end SqlDialect
