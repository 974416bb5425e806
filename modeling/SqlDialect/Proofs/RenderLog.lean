import SqlDialect.Proofs.Decoding
import SqlDialect.Proofs.Joining
import SqlDialect.Proofs.Omissions
import SqlDialect.Proofs.Pruning

/-!
# The log of a rendering

The log of a rendering has a warning for each omission, one for a table drop and a record of the end
(`Visitor.records`).  The warnings come out of the draft of the node while it is read, the record
out of what the reading came to; `Visitor.log_of_outcome` says that they agree.  There is no record
of the end if the rendering has no result, because a name that is refused cannot be written.

Drafts are quiet (`Draft.Quiet`): nothing is announced in them.  A quiet reading notes what it leaves
out and nothing else, however it ends (`Quiet.notes_read`).  The draft of a table drop is quiet but
for its last step, which is reached only if everything before it was written
(`Quiet.announces_concat`), and names the tables that were written (`Target.sql_dropSteps`).
-/

namespace SqlDialect

/-- Whether a step announces nothing. -/
def Step.isQuiet : Step → Bool
  | .announceDrop _ => false
  | _ => true

namespace Draft

/-! ### Quiet drafts -/

/-- A draft that announces nothing. -/
def Quiet (d : Draft) : Prop :=
  ∀ s ∈ d, s.isQuiet = true

@[simp] theorem quiet_nil : Quiet [] :=
  List.forall_mem_nil _

@[simp] theorem quiet_append (a b : Draft) : Quiet (a ++ b) ↔ Quiet a ∧ Quiet b :=
  List.forall_mem_append

@[simp] theorem quiet_cons (s : Step) (d : Draft) : Quiet (s :: d) ↔ s.isQuiet = true ∧ Quiet d :=
  List.forall_mem_cons

@[simp] theorem quiet_keyword (text : String) : Quiet (keyword text) := by
  simp [keyword, Step.isQuiet]

@[simp] theorem quiet_identifier (name : String) : Quiet (identifier name) := by
  simp [identifier, Step.isQuiet]

@[simp] theorem quiet_verbatim (text : String) : Quiet (verbatim text) := by
  simp [verbatim, Step.isQuiet]

@[simp] theorem quiet_names (ns : List String) : Quiet (names ns) := by
  fun_induction names ns with
  | case1 => exact quiet_nil
  | case2 name => exact quiet_identifier name
  | case3 name rest _ ih => simp [comma, ih]

@[simp] theorem quiet_fragment (d : Draft) : Quiet (fragment d) ↔ Quiet d := by
  unfold fragment
  split <;> simp [Step.isQuiet]

theorem Quiet.ite {p : Prop} [Decidable p] {a b : Draft} (ha : Quiet a) (hb : Quiet b) :
    Quiet (if p then a else b) := by
  split
  · exact ha
  · exact hb

theorem quiet_flatMap {α : Type} {xs : List α} {f : α → Draft} (h : ∀ x ∈ xs, Quiet (f x)) :
    Quiet (xs.flatMap f) := by
  intro s hs
  obtain ⟨x, hx, hsx⟩ := List.mem_flatMap.mp hs
  exact h x hx s hsx

theorem quiet_commaSeparated (started : Bool) {ds : List Draft} (h : ∀ d ∈ ds, Quiet d) :
    Quiet (commaSeparated started ds) := by
  induction ds generalizing started with
  | nil => exact quiet_nil
  | cons d rest ih =>
    obtain ⟨hd, hrest⟩ := List.forall_mem_cons.mp h
    rw [commaSeparated]
    split
    · exact (quiet_append _ _).mpr ⟨hd, ih _ hrest⟩
    · cases started <;> simp [comma, hd, ih _ hrest]

/-- A quiet draft notes what it leaves out, and nothing else. -/
theorem Quiet.notes_read {d : Draft} (hd : Quiet d) (lenient : Bool) :
    (Draft.read lenient d).notes = (Draft.read lenient d).omitted.map .omitted := by
  induction d with
  | nil => rfl
  | cons step rest ih =>
    rw [quiet_cons] at hd
    have hrest := ih hd.2
    cases step with
    | emit s => exact hrest
    | emitValue v => exact hrest
    | leaveOut o =>
      cases lenient with
      | true => exact congrArg (Note.omitted o :: ·) hrest
      | false => rfl
    | reject x => rfl
    | announceDrop tables => exact absurd hd.1 Bool.false_ne_true
    | failJoin => rfl

/-- Reading a draft notes what is left out and, if it comes to the end of the draft, the tables that
are announced. -/
structure Announces (d : Draft) (tables? : Option (List String)) : Prop where
  complete : ∀ lenient, (read lenient d).ending = .complete →
    (read lenient d).notes =
      (read lenient d).omitted.map .omitted ++ tables?.toList.map .dropping
  stopped : ∀ lenient, (read lenient d).ending ≠ .complete →
    (read lenient d).notes = (read lenient d).omitted.map .omitted

theorem Quiet.announces {d : Draft} (hd : Quiet d) : Announces d none where
  complete lenient _ := (hd.notes_read lenient).trans (List.append_nil _).symm
  stopped lenient _ := hd.notes_read lenient

/-- An announcement at the end of a draft is reached if what comes before is read to its end. -/
theorem read_announcing (lenient : Bool) (d : Draft) (tables : List String) :
    read lenient (d ++ [.announceDrop tables]) =
      match (read lenient d).ending with
      | .complete =>
        { read lenient d with notes := (read lenient d).notes ++ [.dropping tables] }
      | _ => read lenient d := by
  rw [read_append, Reading.andThen]
  obtain ⟨segments, joinable, omitted, notes, ending⟩ := read lenient d
  cases ending with
  | complete => simp [read]
  | malformed x => rfl
  | unsupported o => rfl
  | unjoinable => rfl

theorem Quiet.announces_concat {d : Draft} (hd : Quiet d) (tables : List String) :
    Announces (d ++ [.announceDrop tables]) (some tables) where
  complete lenient h := by
    rw [read_announcing] at h ⊢
    split at h
    · exact congrArg (· ++ [Note.dropping tables]) (hd.notes_read lenient)
    · exact absurd h ‹_›
  stopped lenient h := by
    rw [read_announcing] at h ⊢
    split at h
    · exact absurd ‹_› h
    · exact hd.notes_read lenient

theorem announces_reject (x : Defect) (tables? : Option (List String)) :
    Announces [.reject x] tables? where
  complete _ h := absurd h nofun
  stopped _ _ := rfl

end Draft

namespace Target

open Draft

variable {t : Target}

section Quiet

variable (ht : t ∈ builtin)

@[simp] theorem quiet_lack (construct : Node) (f : Feature) : Quiet (t.lack construct f) := by
  simp [lack, Step.isQuiet]

theorem quiet_express {construct : Node} {f : Feature} {written : Draft} (h : Quiet written) :
    Quiet (t.express construct f written) :=
  .ite h (quiet_lack construct f)

@[simp] theorem quiet_inParentheses (ns : List String) : Quiet (inParentheses ns) := by
  simp [inParentheses]

theorem quiet_withNames {construct : Node} {list : NameList} {names : List Value}
    {k : List String → Draft} (hk : ∀ texts, Quiet (k texts)) :
    Quiet (withNames construct list names k) := by
  rw [withNames_eq]
  split
  · simp [Step.isQuiet]
  · exact hk _

theorem quiet_draftDefault (v : Value) : Quiet (draftDefault v) := by
  refine .ite quiet_nil ((quiet_append _ _).mpr ⟨quiet_keyword _, ?_⟩)
  split <;> simp [Step.isQuiet]

include ht

theorem quiet_draftAction (a : ReferentialAction) : Quiet (t.draftAction a) := by
  rw [draftAction_builtin ht]
  refine (quiet_append _ _).mpr ⟨quiet_keyword _, .ite quiet_nil ?_⟩
  exact quiet_withNames fun columns => quiet_express (by simp)

theorem quiet_draftClause (words : String) (a : Option ReferentialAction) :
    Quiet (t.draftClause words a) := by
  cases a with
  | none => exact quiet_nil
  | some a => exact (quiet_append _ _).mpr ⟨quiet_keyword _, quiet_draftAction ht a⟩

theorem quiet_draftReferences (f : ForeignKey) : Quiet (t.draftReferences f) :=
  quiet_withNames fun columns => by simp [quiet_draftClause ht]

theorem quiet_draftTableConstraint (c : Constraint) : Quiet (t.draftTableConstraint c) := by
  cases c with
  | check c => simp [draftTableCheck_builtin ht]
  | foreignKey f =>
    rw [draftTableForeignKey_builtin ht]
    exact quiet_withNames fun columns => quiet_withNames fun _ => by
      simp [quiet_draftReferences ht]
  | primaryKey p =>
    rw [draftTablePrimaryKey_builtin ht]
    exact quiet_withNames fun columns => by simp
  | unique u =>
    rw [draftTableUnique_builtin ht]
    have hnulls : Quiet (if u.nullsDistinct.isTrue then []
        else t.express (.constraint (.unique u)) .uniqueNullsNotDistinct
          (keyword "nulls not distinct ")) :=
      .ite quiet_nil (quiet_express (quiet_keyword _))
    exact quiet_withNames fun columns => by simp [hnulls]

theorem quiet_draftColumnConstraint (c : Constraint) : Quiet (t.draftColumnConstraint c) := by
  cases c with
  | check c => simp [draftColumnCheck_builtin ht]
  | foreignKey f => simp [draftColumnForeignKey_builtin ht, quiet_draftReferences ht]
  | primaryKey p => simp [draftColumnPrimaryKey_builtin ht]
  | unique u =>
    rw [draftColumnUnique_builtin ht]
    exact (quiet_append _ _).mpr ⟨quiet_keyword _, .ite quiet_nil (quiet_express (quiet_keyword _))⟩

theorem quiet_draftColumn (c : Column) : Quiet (t.draftColumn c) := by
  have hnull : Quiet (if c.nullable.isTrue then [] else keyword " not null") :=
    .ite quiet_nil (quiet_keyword _)
  have hconstraints : Quiet (c.constraints.flatMap t.draftColumnConstraint) :=
    quiet_flatMap fun k _ => quiet_draftColumnConstraint ht k
  rw [draftColumn_builtin ht]
  simp [hnull, hconstraints, quiet_draftDefault]

theorem quiet_draftCreateTable (c : CreateTable) : Quiet (t.draftCreateTable c) := by
  have hexists : Quiet (if c.ifNotExists.isTrue then keyword "if not exists " else []) :=
    .ite (quiet_keyword _) quiet_nil
  have hparts : ∀ d ∈ c.columns.map (fun column => fragment (t.draftColumn column)) ++
      c.constraints.map (fun k => fragment (t.draftTableConstraint k)), Quiet d := by
    intro d hd
    rw [List.mem_append, List.mem_map, List.mem_map] at hd
    rcases hd with ⟨column, -, rfl⟩ | ⟨k, -, rfl⟩
    · exact (quiet_fragment _).mpr (quiet_draftColumn ht column)
    · exact (quiet_fragment _).mpr (quiet_draftTableConstraint ht k)
  rw [draftCreateTable_builtin ht]
  simp [hexists, quiet_commaSeparated false hparts]

end Quiet

/-! ### Announcements -/

/-- The tables that a built-in target drops. -/
def droppedTables (t : Target) (d : DropTable) : List String :=
  textsOf (t.pruneDropTable d).tableNames

theorem droppedTables_eq {d : DropTable} (h : ¬ Unnamed d.tableNames) :
    t.droppedTables d =
      if t.expresses .dropTableMultiple then textsOf d.tableNames
      else (textsOf d.tableNames).take 1 := by
  rw [droppedTables, pruneDropTable, apply_ite textsOf, textsOf_take h]

/-- The tables that rendering a node announces to drop. -/
def announced? (t : Target) (n : Node) (p : Position) : Option (List String) :=
  match n, p with
  | .dropTable d, .statement => some (t.droppedTables d)
  | _, _ => none

/-- What comes before the announcement of a table drop. -/
def dropSteps (t : Target) (d : DropTable) : Draft :=
  keyword "drop table " ++
    (if d.ifExists.isTrue then
      t.express (.dropTable d) .dropTableIfExists (keyword "if exists ") else []) ++
    (if 1 < (textsOf d.tableNames).length then
      t.express (.dropTable d) .dropTableMultiple [] else []) ++
    names (t.droppedTables d) ++ draftDropAction d.action

theorem quiet_dropSteps (t : Target) (d : DropTable) : Quiet (t.dropSteps d) := by
  have hexists : Quiet (if d.ifExists.isTrue then
      t.express (.dropTable d) .dropTableIfExists (keyword "if exists ") else []) :=
    .ite (quiet_express (quiet_keyword _)) quiet_nil
  have hmany : Quiet (if 1 < (textsOf d.tableNames).length then
      t.express (.dropTable d) .dropTableMultiple [] else []) :=
    .ite (quiet_express quiet_nil) quiet_nil
  have haction : Quiet (draftDropAction d.action) := by
    cases d.action <;> simp [draftDropAction]
  simp [dropSteps, hexists, hmany, haction]

/-- A table drop is announced at its end, unless its names are refused. -/
theorem draftDropTable_of_named (ht : t ∈ builtin) {d : DropTable} (h : ¬ Unnamed d.tableNames) :
    t.draftDropTable d = t.dropSteps d ++ [.announceDrop (t.droppedTables d)] := by
  rw [draftDropTable_builtin ht, withNames_of_named h, dropSteps, droppedTables_eq h]

theorem draftDropTable_of_unnamed (ht : t ∈ builtin) {d : DropTable} (h : Unnamed d.tableNames) :
    ∃ x, t.draftDropTable d = [.reject x] := by
  obtain ⟨cause, hcause⟩ := Option.ne_none_iff_exists'.1
    (mt (NameList.droppedTables.cause?_eq_none_iff d.tableNames).1 (not_not_intro h))
  rw [draftDropTable_builtin ht, withNames_eq, hcause]
  exact ⟨_, rfl⟩

/-- Reading the draft of a node on a built-in target notes what it leaves out and, if it comes to its
end, the tables that are dropped. -/
theorem announces_draft (ht : t ∈ builtin) (n : Node) (p : Position) :
    Announces (t.draft n p) (t.announced? n p) := by
  by_cases h : n.Stands p
  · cases h with
    | createTable c => exact (quiet_draftCreateTable ht c).announces
    | dropTable d =>
      show Announces (t.draftDropTable d) (some (t.droppedTables d))
      by_cases hnames : Unnamed d.tableNames
      · obtain ⟨x, hx⟩ := draftDropTable_of_unnamed ht hnames
        rw [hx]
        exact announces_reject x _
      · rw [draftDropTable_of_named ht hnames]
        exact (t.quiet_dropSteps d).announces_concat _
    | bareStatement serial =>
      show Announces (t.draftBareStatement serial) none
      rw [draftBareStatement_builtin ht]
      exact Quiet.announces (by simp [missing, Step.isQuiet])
    | tableConstraint c => exact (quiet_draftTableConstraint ht c).announces
    | columnConstraint c => exact (quiet_draftColumnConstraint ht c).announces
    | column c => exact (quiet_draftColumn ht c).announces
    | action a => exact (quiet_draftAction ht a).announces
  · rw [draft_of_not_stands h]
    exact announces_reject _ _

/-- The text of a table drop is the template of the drop that the target can express. -/
theorem sql_dropSteps (t : Target) (s : Strategy) (d : DropTable) :
    Draft.sql s (t.dropSteps d) = (t.pruneDropTable d).sql s := by
  have hlack (f : Feature) : Draft.sql s (t.lack (.dropTable d) f) = "" := rfl
  have haction : Draft.sql s (draftDropAction d.action) = DropAction.sqlClause s d.action :=
    sql_draftDropAction d.action
  have hexists : Draft.sql s (if d.ifExists.isTrue then
      t.express (.dropTable d) .dropTableIfExists (keyword "if exists ") else []) =
      if (t.pruneDropTable d).ifExists.isTrue then s.formatKeyword "if exists " else "" := by
    have hreset : (Value.bool false).isTrue = false := rfl
    rw [pruneDropTable, express]
    cases hgiven : d.ifExists.isTrue <;> cases t.expresses .dropTableIfExists <;>
      simp [hgiven, hlack, hreset]
  have hmany : Draft.sql s (if 1 < (textsOf d.tableNames).length then
      t.express (.dropTable d) .dropTableMultiple [] else []) = "" := by
    rw [express]
    cases t.expresses .dropTableMultiple <;> simp [hlack, apply_ite (Draft.sql s)]
  simp only [dropSteps, sql_append, sql_keyword, sql_names, hexists, hmany, haction,
    String.append_empty]
  rw [DropTable.sql_eq, Strategy.nameList]
  rfl

end Target

/-! ### The log -/

/-- The warning that something is left out: what the target lacks, and the target. -/
def omissionRecord (o : Omission) : LogRecord where
  level := .warning
  logger := "makeru.dialects"
  message := "Omitting unsupported fragment: " ++ o.gap.description ++ " (" ++ o.engine ++ " " ++
    o.version.text ++ ")"

/-- The warning that tables are dropped. -/
def dropRecord (tables : List String) : LogRecord where
  level := .warning
  logger := "makeru.dialects.standard"
  message := "DROP TABLE rendered for " ++ String.intercalate ", " tables ++
    "; confirm destructive migration before applying."

namespace Target

/-- The record of a node that was rendered. -/
def renderedRecord (t : Target) (n : Node) : LogRecord where
  level := .debug
  logger := "makeru.dialects"
  message := "Rendered " ++ n.kind.name ++ " for " ++ t.engine.name ++ " " ++ t.version.text

/-- The record of a node that was not rendered, with the message of the failure. -/
def failedRecord (t : Target) (n : Node) (message : String) : LogRecord where
  level := .debug
  logger := "makeru.dialects"
  message := "Render of " ++ n.kind.name ++ " for " ++ t.engine.name ++ " " ++ t.version.text ++
    " failed: " ++ message

end Target

/-- The warnings of what is left out, that of a table drop and the record of the end, if there are
any. -/
def records (omitted : List Omission) (tables? : Option (List String)) (last? : Option LogRecord) :
    List LogRecord :=
  omitted.map omissionRecord ++ tables?.toList.map dropRecord ++ last?.toList

section Records

variable {omitted : List Omission} {tables? : Option (List String)} {last? : Option LogRecord}

theorem mem_records_iff {r : LogRecord} :
    r ∈ records omitted tables? last? ↔
      (∃ o ∈ omitted, omissionRecord o = r) ∨ (∃ tables ∈ tables?, dropRecord tables = r) ∨
        r ∈ last? := by
  simp [records]

theorem omissionRecord_ne_dropRecord (o : Omission) (tables : List String) :
    omissionRecord o ≠ dropRecord tables := by
  intro h
  have hloggers : "makeru.dialects" = "makeru.dialects.standard" := congrArg LogRecord.logger h
  exact absurd hloggers (by decide)

variable (hlast : ∀ r ∈ last?, r.level = .debug)

include hlast

/-- Where nothing is left out, nothing is warned of as left out. -/
theorem omissionRecord_not_mem_records (o : Omission) :
    omissionRecord o ∉ records [] tables? last? := by
  intro h
  rcases mem_records_iff.1 h with ⟨_, hmem, -⟩ | ⟨tables, -, htables⟩ | hmem
  · cases hmem
  · exact omissionRecord_ne_dropRecord o tables htables.symm
  · cases hlast _ hmem

/-- A table drop is warned of exactly if there is one. -/
theorem dropRecord_mem_records_iff :
    (∃ tables, dropRecord tables ∈ records omitted tables? last?) ↔ tables?.isSome = true := by
  constructor
  · rintro ⟨tables, h⟩
    rcases mem_records_iff.1 h with ⟨o, -, ho⟩ | ⟨tables', hmem, -⟩ | hmem
    · exact absurd ho (omissionRecord_ne_dropRecord o tables)
    · exact Option.isSome_of_mem hmem
    · cases hlast _ hmem
  · intro h
    obtain ⟨tables, rfl⟩ := Option.isSome_iff_exists.1 h
    exact ⟨tables, mem_records_iff.2 (.inr (.inl ⟨tables, rfl, rfl⟩))⟩

/-- There is a record below the warnings exactly if there is one of the end. -/
theorem debug_mem_records_iff :
    (∃ r ∈ records omitted tables? last?, r.level = .debug) ↔ last? ≠ none := by
  rw [Option.ne_none_iff_exists']
  constructor
  · rintro ⟨r, h, hdebug⟩
    rcases mem_records_iff.1 h with ⟨o, -, rfl⟩ | ⟨tables, -, rfl⟩ | hmem
    · cases hdebug
    · cases hdebug
    · exact ⟨r, hmem⟩
  · rintro ⟨r, hmem⟩
    exact ⟨r, mem_records_iff.2 (.inr (.inr hmem)), hlast r hmem⟩

end Records

namespace Visitor

variable {v : Visitor} {n : Node} {p : Position}

/-- How the draft of a node is read in the mode of the strategy. -/
def reading (v : Visitor) (n : Node) (p : Position) : Draft.Reading :=
  (v.target.draft n p).read v.strategy.skipUnsupported

theorem omitted_reading_of_strict (h : v.strategy.skipUnsupported = false) :
    (v.reading n p).omitted = [] := by
  rw [reading, h, Draft.omitted_read_strict]

theorem log_eq (v : Visitor) (n : Node) (p : Position) :
    (v.render n p).log =
      (v.reading n p).notes.map noteRecord ++ (v.conclude (.node n) (v.reading n p)).2 := rfl

theorem successRecord_eq (v : Visitor) (n : Node) :
    v.successRecord (.node n) = v.target.renderedRecord n := by
  simp only [successRecord, record, targetText, Target.renderedRecord, String.append_assoc]
  rfl

theorem failureRecord_eq (v : Visitor) (n : Node) (message : String) :
    v.failureRecord (.node n) message = v.target.failedRecord n message := by
  simp only [failureRecord, record, targetText, Target.failedRecord, String.append_assoc]
  rfl

theorem map_noteRecord_omitted (os : List Omission) :
    (os.map .omitted).map noteRecord = os.map omissionRecord := by
  rw [List.map_map]
  rfl

section Outcomes

variable (hv : v.target ∈ Target.builtin)

include hv

/-- A reading that stops notes what it has left out, and nothing else. -/
theorem log_of_stopped {last? : Option LogRecord} (h : (v.reading n p).ending ≠ .complete)
    (hlast : (v.conclude (.node n) (v.reading n p)).2 = last?.toList) :
    (v.render n p).log = records (v.reading n p).omitted none last? := by
  have hnotes : (v.reading n p).notes = (v.reading n p).omitted.map .omitted :=
    (Target.announces_draft hv n p).stopped _ h
  rw [log_eq, hlast, hnotes, map_noteRecord_omitted, records, Option.toList_none, List.map_nil,
    List.append_nil]

theorem log_of_rendered {sql : String} {os : List Omission}
    (h : (v.render n p).outcome = .rendered sql os) :
    (v.render n p).log =
      records os (v.target.announced? n p) (some (v.target.renderedRecord n)) := by
  rw [render_outcome] at h
  obtain ⟨hcomplete, -, homitted⟩ := outcomeOf_eq_rendered h
  have hnotes := (Target.announces_draft hv n p).complete _ hcomplete
  have hlast : (v.conclude (.node n) (v.reading n p)).2 = [v.target.renderedRecord n] := by
    rw [conclude, reading, hcomplete, successRecord_eq]
  rw [log_eq, hlast, reading, hnotes, homitted, List.map_append, map_noteRecord_omitted,
    List.map_map]
  rfl

theorem log_of_defect {x : Defect} (h : (v.reading n p).ending = .malformed x) :
    (v.render n p).log =
      records (v.reading n p).omitted none (x.message?.map (v.target.failedRecord n)) := by
  refine log_of_stopped hv (by rw [h]; exact nofun) ?_
  rw [conclude, h]
  simp only [funext (failureRecord_eq v n)]

theorem log_of_malformed {x : Defect} (h : (v.render n p).outcome = .malformed x) :
    ∃ message, x.message? = some message ∧
      (v.render n p).log =
        records (v.reading n p).omitted none (some (v.target.failedRecord n message)) := by
  rw [render_outcome] at h
  obtain ⟨hending, hmessage⟩ := outcomeOf_eq_malformed h
  obtain ⟨message, hmessage⟩ := Option.isSome_iff_exists.1 hmessage
  refine ⟨message, hmessage, ?_⟩
  rw [log_of_defect hv hending, hmessage]
  rfl

theorem log_of_unwritable (h : (v.render n p).outcome = .unwritable) :
    (v.render n p).log = records (v.reading n p).omitted none none := by
  rw [render_outcome] at h
  obtain ⟨x, hending, hmessage⟩ := outcomeOf_eq_unwritable_iff.1 h
  rw [log_of_defect hv hending, hmessage]
  rfl

theorem log_of_unsupported {o : Omission} (h : (v.render n p).outcome = .unsupported o) :
    (v.render n p).log = records [] none (some (v.target.failedRecord n o.message)) := by
  rw [render_outcome] at h
  have hending : (v.reading n p).ending = .unsupported o := outcomeOf_eq_unsupported h
  -- only a strict reading ends at an omission
  have hstrict : v.strategy.skipUnsupported = false := by
    refine Bool.eq_false_iff.2 fun hlenient => ?_
    rw [reading, hlenient] at hending
    exact Draft.ending_read_lenient_ne_unsupported _ o hending
  rw [← omitted_reading_of_strict (n := n) (p := p) hstrict]
  refine log_of_stopped hv (by rw [hending]; exact nofun) ?_
  rw [conclude, hending, ← failureRecord_eq]
  rfl

/-- What a table drop is rendered to names the tables that it announces. -/
theorem sql_of_drop_renders {d : DropTable} {sql : String} {os : List Omission}
    (h : (v.render (.dropTable d) .statement).outcome = .rendered sql os) :
    sql = v.strategy.formatKeyword "drop table " ++
      (if (v.target.pruneDropTable d).ifExists.isTrue then v.strategy.formatKeyword "if exists "
        else "") ++
      String.intercalate ", " ((v.target.droppedTables d).map v.strategy.name) ++
      DropAction.sqlClause v.strategy d.action := by
  rw [render_outcome] at h
  have hnames : ¬ Unnamed d.tableNames := fun hunnamed => by
    obtain ⟨x, hx⟩ := Target.draftDropTable_of_unnamed hv hunnamed
    have hmalformed : v.outcome (v.target.draft (.dropTable d) .statement) = .ofDefect x := by
      show v.outcome (v.target.draftDropTable d) = _
      rw [hx]
      rfl
    exact Outcome.ofDefect_ne_rendered (hmalformed.symm.trans h)
  have hannounce : Draft.sql v.strategy [.announceDrop (v.target.droppedTables d)] = "" := rfl
  have htemplate := DropTable.sql_eq (v.target.pruneDropTable d) v.strategy
  rw [v.outcome_eq_rendered h, textOf, Target.quote_of_mem_builtin hv]
  show Draft.sql v.strategy (v.target.draftDropTable d) = _
  rw [Target.draftDropTable_of_named hv hnames, Draft.sql_append, hannounce,
    Target.sql_dropSteps, String.append_empty, htemplate]
  rfl

end Outcomes

/-- What is left out is left out for the target of the visitor. -/
theorem target_of_mem_omitted {o : Omission} (h : o ∈ (v.reading n p).omitted) :
    o.engine = v.target.engine.name ∧ o.version = v.target.version := by
  cases v.target.warranted_draft n p _ (Draft.leaveOut_mem_of_mem_omitted h) with
  | lack construct f => exact ⟨rfl, rfl⟩
  | missing construct hform => exact ⟨rfl, rfl⟩

theorem render_ne_unjoinable (htext : n.hasTextDefaults = true) (p : Position) :
    (v.render n p).outcome ≠ .unjoinable := by
  rw [render_outcome]
  exact outcome_ne_unjoinable_of_plain (v.target.plain_draft htext p)

/-- The tables of a drop are announced at the position of a statement, and no others. -/
theorem announced?_isSome_iff (t : Target) :
    (t.announced? n p).isSome = true ↔ (∃ d, n = .dropTable d) ∧ p = .statement := by
  constructor
  · intro h
    unfold Target.announced? at h
    split at h
    · exact ⟨⟨_, rfl⟩, rfl⟩
    · cases h
  · rintro ⟨⟨d, rfl⟩, rfl⟩
    rfl

/-- The log in any case: nothing is left out in strict mode, only a table drop that is rendered is
announced, and it is a rendering without a result that has no record of its end. -/
theorem exists_log_eq_records (hv : v.target ∈ Target.builtin) (htext : n.hasTextDefaults = true)
    (p : Position) :
    ∃ omitted tables? last?, (v.render n p).log = records omitted tables? last? ∧
      (∀ r ∈ last?, r.level = .debug) ∧ (v.strategy.skipUnsupported = false → omitted = []) ∧
      (tables?.isSome = true ↔ (∃ d, n = .dropTable d) ∧ p = .statement ∧
        ∃ sql os, (v.render n p).outcome = .rendered sql os) ∧
      (last? ≠ none ↔ (v.render n p).outcome ≠ .unwritable) := by
  have hone {last : LogRecord} (hlast : last.level = .debug) :
      ∀ r ∈ some last, r.level = .debug := by
    rintro r ⟨⟩
    exact hlast
  cases houtcome : (v.render n p).outcome with
  | rendered sql os =>
    refine ⟨_, _, _, log_of_rendered hv houtcome, hone rfl, fun hstrict => ?_, ?_, by simp⟩
    · rw [render_outcome] at houtcome
      exact (outcomeOf_eq_rendered houtcome).2.2.symm.trans (omitted_reading_of_strict hstrict)
    · rw [announced?_isSome_iff]
      exact ⟨fun ⟨hdrop, hp⟩ => ⟨hdrop, hp, sql, os, rfl⟩, fun ⟨hdrop, hp, _⟩ => ⟨hdrop, hp⟩⟩
  | malformed x =>
    obtain ⟨message, -, hlog⟩ := log_of_malformed hv houtcome
    exact ⟨_, none, _, hlog, hone rfl, omitted_reading_of_strict, ⟨nofun, nofun⟩, by simp⟩
  | unsupported o =>
    exact ⟨[], none, _, log_of_unsupported hv houtcome, hone rfl, fun _ => rfl, ⟨nofun, nofun⟩,
      by simp⟩
  | unjoinable => exact absurd houtcome (render_ne_unjoinable htext p)
  | unwritable =>
    exact ⟨_, none, none, log_of_unwritable hv houtcome, nofun, omitted_reading_of_strict,
      ⟨nofun, nofun⟩, by simp⟩

/-- **The log of a rendering tells what it came to.**  On a built-in target the log of a rendering is
a warning for each omission, in order, that of the table drop and the record of the end; a rendering
that fails has the record of the failure in the end, and has warned of no drop.  Nothing is warned of
as left out in strict mode, and a table drop is warned of exactly if it is rendered, with the tables
that its text names.

There is a record of the end exactly if the defect at which the visitor stops, if it is one, can be
written; if it cannot, the warnings of what is left out are the whole log. -/
theorem log_of_outcome (hv : v.target ∈ Target.builtin) (htext : n.hasTextDefaults = true)
    (p : Position) :
    (∀ sql os, (v.render n p).outcome = .rendered sql os →
      (v.render n p).log =
        records os (v.target.announced? n p) (some (v.target.renderedRecord n)) ∧
      (∀ o ∈ os, o.engine = v.target.engine.name ∧ o.version = v.target.version) ∧
      ∀ d, n = .dropTable d → p = .statement →
        v.target.announced? n p = some (v.target.droppedTables d) ∧
          sql = v.strategy.formatKeyword "drop table " ++
            (if (v.target.pruneDropTable d).ifExists.isTrue then
              v.strategy.formatKeyword "if exists " else "") ++
            String.intercalate ", " ((v.target.droppedTables d).map v.strategy.name) ++
            DropAction.sqlClause v.strategy d.action) ∧
    (∀ x, (v.render n p).outcome = .malformed x →
      ∃ message, x.message? = some message ∧
        (v.render n p).log =
          records (v.reading n p).omitted none (some (v.target.failedRecord n message))) ∧
    (∀ o, (v.render n p).outcome = .unsupported o →
      (v.render n p).log = records [] none (some (v.target.failedRecord n o.message))) ∧
    ((v.render n p).outcome = .unwritable →
      (v.render n p).log = records (v.reading n p).omitted none none) ∧
    (v.render n p).outcome ≠ .unjoinable ∧
    (v.strategy.skipUnsupported = false → ∀ o, omissionRecord o ∉ (v.render n p).log) ∧
    ((∃ tables, dropRecord tables ∈ (v.render n p).log) ↔
      (∃ d, n = .dropTable d) ∧ p = .statement ∧
        ∃ sql os, (v.render n p).outcome = .rendered sql os) ∧
    ((∃ r ∈ (v.render n p).log, r.level = .debug) ↔
      ∀ d, (n.hurdles p).find? v.isStoppedBy = some (.defect d) → d.message?.isSome = true) := by
  obtain ⟨omitted, tables?, last?, hlog, hlast, hnone, hdrop, hend⟩ :=
    exists_log_eq_records hv htext p
  refine ⟨fun sql os h => ⟨log_of_rendered hv h, fun o ho => ?_, ?_⟩, fun x => log_of_malformed hv,
    fun o => log_of_unsupported hv, log_of_unwritable hv, render_ne_unjoinable htext p,
    fun hstrict o => ?_, ?_, ?_⟩
  · rw [render_outcome] at h
    have homitted : (v.reading n p).omitted = os := (outcomeOf_eq_rendered h).2.2
    exact target_of_mem_omitted (homitted ▸ ho)
  · rintro d rfl rfl
    exact ⟨rfl, sql_of_drop_renders hv h⟩
  · rw [hlog, hnone hstrict]
    exact omissionRecord_not_mem_records hlast o
  · rw [hlog, dropRecord_mem_records_iff hlast, hdrop]
  · rw [hlog, debug_mem_records_iff hlast, hend]
    exact render_ne_unwritable_iff hv (render_ne_unjoinable htext p)

/-- SQLite drops the first of two tables: the other one is warned of as left out, and the drop is
announced for the first one. -/
theorem log_of_drop_sqlite :
    let v : Visitor := ⟨⟨.sqlite, ⟨[3]⟩⟩, { skipUnsupported := true }⟩
    let d : DropTable := { tableNames := [.text "a", .text "b"] }
    let o : Omission :=
      ⟨.dropTable d, .feature .dropTableMultiple, "sqlite", ⟨[3]⟩, none⟩
    v.target ∈ Target.builtin ∧
      (v.render (.dropTable d) .statement).outcome = .rendered "drop table a" [o] ∧
      (v.render (.dropTable d) .statement).log =
        [omissionRecord o, dropRecord ["a"], v.target.renderedRecord (.dropTable d)] := by
  intro v d o
  have hv : v.target ∈ Target.builtin := Target.sqlite_mem_builtin (by decide)
  have houtcome : (v.render (.dropTable d) .statement).outcome = .rendered "drop table a" [o] :=
    rfl
  exact ⟨hv, houtcome, ((log_of_outcome hv rfl .statement).1 _ _ houtcome).1⟩

/-- There are integers of too many digits to be written. -/
theorem exists_shown?_int_eq_none : ∃ i : Int, (Value.int i).shown? = none := by
  have hlarge (n : Nat) : ∃ i : Int, ¬ i.natAbs < n :=
    ⟨n, by rw [Int.natAbs_natCast]; exact Nat.lt_irrefl n⟩
  obtain ⟨i, hi⟩ := hlarge (Nat.pow 10 Text.maxDigits)
  refine ⟨i, ?_⟩
  rw [Value.shown?, Text.decimalInt?, if_neg hi]

/-- Not every rendering of a node that can be built leaves a record of its end: a column of a primary
key is named by an integer of too many digits to be written. -/
theorem not_log_has_end_of_build :
    ¬ ∀ (serial : Nat) (kind : NodeKind) (args : Arguments) (n : Node),
      Node.build serial kind args = .ok n → n.hasTextDefaults = true →
        ∀ (engine version : Value) (s : Strategy) (v : Visitor),
          Visitor.find engine version s = .ok v →
            ∀ p : Position, ∃ r ∈ (v.render n p).log, r.level = .debug := by
  intro hall
  obtain ⟨i, hi⟩ := exists_shown?_int_eq_none
  have hbuild : Node.build 0 .primaryKey [("column_names", .tuple [.int i])] =
      .ok (.constraint (.primaryKey { columnNames := [.int i] })) := rfl
  have hfind : Visitor.find (.text "sqlite") (.text "3") {} = .ok ⟨⟨.sqlite, ⟨[3]⟩⟩, {}⟩ := rfl
  have hlog : ((⟨⟨.sqlite, ⟨[3]⟩⟩, {}⟩ : Visitor).render
      (.constraint (.primaryKey { columnNames := [.int i] })) .table).log = [] := by
    have hmessage : Defect.message? ⟨.node (.constraint (.primaryKey { columnNames := [.int i] })),
        .blankName (.int i)⟩ = none :=
      Defect.message?_eq_none_iff.2 ⟨_, rfl, hi⟩
    have hreading : reading ⟨⟨.sqlite, ⟨[3]⟩⟩, {}⟩
        (.constraint (.primaryKey { columnNames := [.int i] })) .table =
        { ending := .malformed ⟨_, .blankName (.int i)⟩ } := rfl
    rw [log_eq, hreading, conclude]
    simp only [hmessage]
    rfl
  obtain ⟨r, hr, -⟩ := hall _ _ _ _ hbuild rfl _ _ _ _ hfind .table
  rw [hlog] at hr
  cases hr

end Visitor

end SqlDialect
