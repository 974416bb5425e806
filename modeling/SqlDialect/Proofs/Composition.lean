import SqlDialect.Proofs.Template

/-!
# Rendering by parts

A table creation renders to what its columns and constraints render to, each of them in a rendering
of its own, and a column to what its constraints render to (`render_compositional`).  This holds in
either mode, and for any engine that writes tables and columns in the common forms, whatever else
its layers are made of.

`Outcome.compose` says what parts come to as a whole: the first of their failures, or their texts
joined, with their omissions one after the other.  Reading a draft follows it from left to right
(`Draft.read_append`), so drafts in a row come to the composition of what each comes to
(`outcome_flatMap`, `outcome_commaSeparated`).  A comma is decided on before anything is formatted;
that no part becomes empty or stops being so when it is formatted is `isEmptyText_iff`.
-/

namespace SqlDialect

/-! ### Outcomes of parts -/

namespace Outcome

/-- The text of a rendering; a failure has none. -/
def sql : Outcome → String
  | rendered sql _ => sql
  | _ => ""

/-- What a rendering has left out; a failure has no list of it. -/
def omitted : Outcome → List Omission
  | rendered _ omitted => omitted
  | _ => []

/-- Whether an outcome is no rendering. -/
def isFailure : Outcome → Bool
  | rendered _ _ => false
  | _ => true

/-- What parts come to as a whole: the first of their failures, or what `join` makes of their texts,
with all that they leave out, in order. -/
def compose (parts : List Outcome) (join : List String → String) : Outcome :=
  match parts.find? isFailure with
  | some failure => failure
  | none => .rendered (join (parts.map sql)) (parts.flatMap omitted)

/-- An outcome followed by another one: the first failure, or both texts and both lists. -/
def andThen : Outcome → Outcome → Outcome
  | .rendered sql os, .rendered sql' os' => .rendered (sql ++ sql') (os ++ os')
  | .rendered _ _, failure => failure
  | failure, _ => failure

@[simp] theorem andThen_rendered (sql sql' : String) (os os' : List Omission) :
    andThen (.rendered sql os) (.rendered sql' os') = .rendered (sql ++ sql') (os ++ os') := rfl

theorem sql_ofDefect (d : Defect) : (ofDefect d).sql = "" := by
  obtain ⟨-, hd⟩ | ⟨-, hd⟩ := ofDefect_cases d <;> rw [hd] <;> rfl

theorem isFailure_ofDefect (d : Defect) : (ofDefect d).isFailure = true := by
  obtain ⟨-, hd⟩ | ⟨-, hd⟩ := ofDefect_cases d <;> rw [hd] <;> rfl

theorem andThen_of_isFailure {p : Outcome} (h : p.isFailure = true) (q : Outcome) :
    p.andThen q = p := by
  cases p with
  | rendered sql os => exact absurd h Bool.false_ne_true
  | malformed d => rfl
  | unsupported o => rfl
  | unjoinable => rfl
  | unwritable => rfl

theorem compose_cons_of_isFailure {p : Outcome} (h : p.isFailure = true) (ps : List Outcome)
    (join : List String → String) : compose (p :: ps) join = p := by
  rw [compose, List.find?_cons_of_pos h]

/-- After a rendering, it is the failure that counts. -/
theorem rendered_andThen_of_isFailure (sql : String) (os : List Omission) {q : Outcome}
    (h : q.isFailure = true) : (rendered sql os).andThen q = q := by
  cases q with
  | rendered sql' os' => exact absurd h Bool.false_ne_true
  | malformed d => rfl
  | unsupported o => rfl
  | unjoinable => rfl
  | unwritable => rfl

/-- A rendering in front of other parts adds to the text what `join` makes of it. -/
theorem compose_cons_rendered {sql opening : String} {os : List Omission} {ps : List Outcome}
    {join join' : List String → String} (h : ∀ texts, join (sql :: texts) = opening ++ join' texts) :
    compose (.rendered sql os :: ps) join = (rendered opening os).andThen (compose ps join') := by
  have hpass : ¬ (rendered sql os).isFailure = true := Bool.false_ne_true
  unfold compose
  rw [List.find?_cons_of_neg hpass]
  cases hfind : ps.find? isFailure with
  | some failure => exact (rendered_andThen_of_isFailure _ _ (List.find?_some hfind)).symm
  | none =>
    show rendered (join (sql :: ps.map Outcome.sql)) (os ++ ps.flatMap omitted) = _
    rw [h]
    rfl

/-- A text in front of the parts is a text in front of what they come to. -/
theorem rendered_andThen_compose (opening : String) (parts : List Outcome)
    (join : List String → String) :
    (rendered opening []).andThen (compose parts join) =
      compose parts fun texts => opening ++ join texts := by
  unfold compose
  cases hfind : parts.find? isFailure with
  | some failure => exact rendered_andThen_of_isFailure _ _ (List.find?_some hfind)
  | none => rfl

/-- A text behind the parts is a text behind what they come to. -/
theorem compose_andThen_rendered (parts : List Outcome) (join : List String → String)
    (closing : String) :
    (compose parts join).andThen (.rendered closing []) =
      compose parts fun texts => join texts ++ closing := by
  unfold compose
  cases hfind : parts.find? isFailure with
  | some failure => exact andThen_of_isFailure (List.find?_some hfind) _
  | none => rw [andThen_rendered, List.append_nil]

end Outcome

/-! ### Reading drafts in a row -/

namespace Draft

/-- A reading followed by another one; a reading that has stopped stays as it is. -/
def Reading.andThen (r r' : Reading) : Reading :=
  match r.ending with
  | .complete =>
    { segments := r.segments ++ r'.segments
      joinable := r.joinable && r'.joinable
      omitted := r.omitted ++ r'.omitted
      notes := r.notes ++ r'.notes
      ending := r'.ending }
  | _ => r

/-- A draft is read from left to right. -/
theorem read_append (lenient : Bool) (a b : Draft) :
    read lenient (a ++ b) = (read lenient a).andThen (read lenient b) := by
  -- a step that does not stop the reading adds to that of the rest, however that one ends
  induction a with
  | nil => rfl
  | cons step rest ih =>
    cases step with
    | emit s =>
      rw [List.cons_append, read, read, ih]
      generalize read lenient rest = r
      obtain ⟨segments, joinable, omitted, notes, ending⟩ := r
      cases ending <;> rfl
    | emitValue v =>
      rw [List.cons_append, read, read, ih]
      generalize read lenient rest = r
      obtain ⟨segments, joinable, omitted, notes, ending⟩ := r
      cases ending <;> rfl
    | leaveOut o =>
      cases lenient with
      | true =>
        rw [List.cons_append, read, read, ih]
        generalize read true rest = r
        obtain ⟨segments, joinable, omitted, notes, ending⟩ := r
        cases ending <;> rfl
      | false => rfl
    | reject d => rfl
    | announceDrop tables =>
      rw [List.cons_append, read, read, ih]
      generalize read lenient rest = r
      obtain ⟨segments, joinable, omitted, notes, ending⟩ := r
      cases ending <;> rfl
    | failJoin => rfl

/-- A draft without a text names nothing: an empty name would be no text either, but in quotes it
would become one. -/
def Evident (d : Draft) : Prop :=
  isEmptyText d = true → ∀ name, Step.emit (.identifier name) ∉ d

theorem evident_of_isEmptyText_eq_false {d : Draft} (h : isEmptyText d = false) : Evident d :=
  fun hempty => absurd (h.symm.trans hempty) Bool.false_ne_true

theorem evident_keyword (text : String) : Evident (keyword text) := by
  intro _ name hmem
  exact absurd (List.mem_singleton.mp hmem) nofun

/-- Texts with commas between those that are not empty; `started` says whether one came before. -/
def listed (started : Bool) : List String → String
  | [] => ""
  | text :: rest =>
    if text = "" then listed started rest
    else (if started then ", " else "") ++ (text ++ listed true rest)

theorem listed_cons_of_eq_empty (started : Bool) (rest : List String) :
    listed started ("" :: rest) = listed started rest := rfl

theorem listed_cons_of_ne_empty {text : String} (h : text ≠ "") (started : Bool)
    (rest : List String) :
    listed started (text :: rest) = (if started then ", " else "") ++ text ++ listed true rest := by
  rw [listed, if_neg h, String.append_assoc]

theorem append_listed (text : String) (rest : List String) :
    text ++ listed true rest = String.intercalate ", " (text :: rest.filter (· ≠ "")) := by
  induction rest generalizing text with
  | nil => simp [listed]
  | cons next rest ih =>
    by_cases hnext : next = ""
    · rw [hnext, listed_cons_of_eq_empty, List.filter_cons_of_neg (by simp), ih]
    · rw [listed_cons_of_ne_empty hnext, List.filter_cons_of_pos (by simp [hnext]),
        String.intercalate_cons_cons, ← ih next]
      simp [String.append_assoc]

theorem listed_eq_intercalate (texts : List String) :
    listed false texts = String.intercalate ", " (texts.filter (· ≠ "")) := by
  induction texts with
  | nil => rfl
  | cons text rest ih =>
    by_cases htext : text = ""
    · rw [htext, listed_cons_of_eq_empty, List.filter_cons_of_neg (by simp), ih]
    · rw [listed_cons_of_ne_empty htext, List.filter_cons_of_pos (by simp [htext]),
        ← append_listed]
      simp

end Draft

/-! ### Which parts have a text -/

namespace Target

open Draft

variable (t : Target)

theorem evident_missing (construct : Node) (slot : Slot) : Evident (t.missing construct slot) := by
  intro _ name hmem
  exact absurd (List.mem_singleton.mp hmem) nofun

theorem evident_withNames {construct : Node} {list : NameList} {names : List Value}
    {k : List String → Draft} (hk : ∀ texts, Evident (k texts)) :
    Evident (withNames construct list names k) := by
  rw [withNames_eq]
  split
  · intro _ name hmem
    exact absurd (List.mem_singleton.mp hmem) nofun
  · exact hk _

/-- A draft that starts with a keyword has a text. -/
theorem evident_keyword_append {text : String} (h : text ≠ "") (d : Draft) :
    Evident (keyword text ++ d) :=
  evident_of_isEmptyText_eq_false (by simp [isEmptyText_append, isEmptyText_keyword h])

theorem evident_draftTableConstraint (c : Constraint) : Evident (t.draftTableConstraint c) := by
  cases c with
  | check c =>
    simp only [draftTableConstraint, draftTableCheck]
    split
    · exact t.evident_missing _ _
    · exact evident_keyword _
    · rw [List.append_assoc]
      exact evident_keyword_append (by decide) _
  | foreignKey f =>
    simp only [draftTableConstraint, draftTableForeignKey]
    split
    · exact t.evident_missing _ _
    · exact evident_keyword _
    · refine evident_withNames fun columns => evident_withNames fun _ => ?_
      rw [List.append_assoc, List.append_assoc]
      exact evident_keyword_append (by decide) _
  | primaryKey p =>
    simp only [draftTableConstraint, draftTablePrimaryKey]
    split
    · exact t.evident_missing _ _
    · exact evident_keyword _
    · refine evident_withNames fun columns => ?_
      rw [List.append_assoc]
      exact evident_keyword_append (by decide) _
  | unique u =>
    simp only [draftTableConstraint, draftTableUnique]
    split
    · exact t.evident_missing _ _
    · exact evident_keyword _
    all_goals
      refine evident_withNames fun columns => ?_
      rw [List.append_assoc]
      exact evident_keyword_append (by decide) _

/-- What stands between the name of a column and its constraints keeps it from being empty. -/
theorem evident_draftColumn (c : Column) : Evident (t.draftColumn c) := by
  unfold draftColumn
  split
  · exact t.evident_missing _ _
  · exact evident_keyword _
  · exact evident_of_isEmptyText_eq_false
      (by simp [isEmptyText_append, isEmptyText_blank_append])

/-- The parts of a table creation are plain, so each of them is its own fragment. -/
theorem fragments_eq {c : CreateTable} (h : c.columns.all Column.hasTextDefault = true) :
    c.columns.map (fun column => fragment (t.draftColumn column)) ++
        c.constraints.map (fun k => fragment (t.draftTableConstraint k)) =
      c.columns.map t.draftColumn ++ c.constraints.map t.draftTableConstraint := by
  congr 1
  · refine List.map_congr_left fun column hmem => ?_
    exact (t.plain_draftColumn (List.all_eq_true.mp h column hmem)).fragment_eq
  · refine List.map_congr_left fun k _ => ?_
    exact (t.plain_draftTableConstraint k).fragment_eq

end Target

/-! ### What drafts come to -/

namespace Strategy

theorem formatKeyword_eq_empty_iff (s : Strategy) {text : String} :
    s.formatKeyword text = "" ↔ text = "" := by
  unfold formatKeyword
  cases s.keywordCase with
  | lower => exact Text.lower_eq_empty_iff
  | upper => exact Text.upper_eq_empty_iff

/-- A name that is not empty has a text, in quotes or not. -/
theorem formatIdentifier_ne_empty (s : Strategy) (quote? : Option QuoteStyle) {name : String}
    (h : name ≠ "") : s.formatIdentifier quote? name ≠ "" := by
  unfold formatIdentifier
  split
  · rename_i q
    split
    · cases q <;> simp [QuoteStyle.quote, h]
    · exact h
  · exact h

end Strategy

namespace Visitor

open Draft

variable (v : Visitor)

/-- The text of all the pieces of a draft. -/
def textOf (d : Draft) : String :=
  v.strategy.formatAll (some v.target.engine.quote) d.pieces

/-- What a draft comes to when it is read in the mode of the strategy. -/
def outcome (d : Draft) : Outcome :=
  v.outcomeOf (d.read v.strategy.skipUnsupported)

theorem render_outcome (n : Node) (p : Position) :
    (v.render n p).outcome = v.outcome (v.target.draft n p) :=
  v.conclude_fst (.node n) _

@[simp] theorem textOf_append (a b : Draft) : v.textOf (a ++ b) = v.textOf a ++ v.textOf b := by
  simp [textOf, pieces, Strategy.formatAll]

theorem textOf_cons_emit (s : Segment) (d : Draft) :
    v.textOf (.emit s :: d) = v.strategy.format (some v.target.engine.quote) s ++ v.textOf d := by
  simp [textOf, pieces, Strategy.formatAll]

theorem outcome_eq_rendered {d : Draft} {sql : String} {os : List Omission}
    (h : v.outcome d = .rendered sql os) : sql = v.textOf d := by
  obtain ⟨hcomplete, hsql, -⟩ := outcomeOf_eq_rendered h
  rw [← hsql, sqlOf, segments_of_complete hcomplete]
  rfl

/-- Whether a draft has a text does not depend on how its pieces are formatted. -/
theorem isEmptyText_iff {d : Draft} (hplain : Plain d) (hevident : Evident d) :
    isEmptyText d = true ↔ v.textOf d = "" := by
  constructor
  · intro hempty
    have hnone := hevident hempty
    clear hevident hplain
    induction d with
    | nil => rfl
    | cons step rest ih =>
      simp only [isEmptyText, List.all_cons, Bool.and_eq_true] at hempty
      have hrest := ih hempty.2 fun name hmem => hnone name (List.mem_cons_of_mem _ hmem)
      cases step with
      | emit s =>
        rw [textOf_cons_emit, hrest, String.append_empty]
        cases s with
        | keyword text =>
          exact v.strategy.formatKeyword_eq_empty_iff.mpr (of_decide_eq_true hempty.1)
        | identifier name => exact absurd List.mem_cons_self (hnone name)
        | verbatim text => exact of_decide_eq_true hempty.1
      | emitValue x => exact absurd hempty.1 Bool.false_ne_true
      | leaveOut o => exact hrest
      | reject x => exact hrest
      | announceDrop tables => exact hrest
      | failJoin => exact hrest
  · intro htext
    clear hevident
    induction d with
    | nil => rfl
    | cons step rest ih =>
      rw [plain_cons] at hplain
      simp only [isEmptyText, List.all_cons, Bool.and_eq_true]
      cases step with
      | emit s =>
        rw [textOf_cons_emit, String.append_eq_empty_iff] at htext
        refine ⟨?_, ih hplain.2 htext.2⟩
        cases s with
        | keyword text =>
          exact decide_eq_true (v.strategy.formatKeyword_eq_empty_iff.mp htext.1)
        | identifier name =>
          refine decide_eq_true ?_
          by_contra hne
          exact v.strategy.formatIdentifier_ne_empty (some v.target.engine.quote) hne htext.1
        | verbatim text => exact decide_eq_true htext.1
      | emitValue x => exact absurd hplain.1 Bool.false_ne_true
      | leaveOut o => exact ⟨rfl, ih hplain.2 htext⟩
      | reject x => exact ⟨rfl, ih hplain.2 htext⟩
      | announceDrop tables => exact ⟨rfl, ih hplain.2 htext⟩
      | failJoin => exact absurd hplain.1 Bool.false_ne_true

@[simp] theorem outcome_nil : v.outcome [] = .rendered "" [] := rfl

theorem outcome_emit (s : Segment) :
    v.outcome [.emit s] = .rendered (v.strategy.format (some v.target.engine.quote) s) [] := by
  show Outcome.rendered (String.join [v.strategy.format _ s]) [] = _
  rw [String.join_cons, String.join_nil, String.append_empty]

@[simp] theorem outcome_keyword (text : String) :
    v.outcome (keyword text) = .rendered (v.strategy.formatKeyword text) [] :=
  v.outcome_emit _

@[simp] theorem outcome_identifier (name : String) :
    v.outcome (identifier name) =
      .rendered (v.strategy.formatIdentifier (some v.target.engine.quote) name) [] :=
  v.outcome_emit _

@[simp] theorem outcome_verbatim (text : String) : v.outcome (verbatim text) = .rendered text [] :=
  v.outcome_emit _

/-- A plain draft in front of another one fails first or renders first. -/
theorem outcome_append {a b : Draft} (ha : Plain a) (hb : Plain b) :
    v.outcome (a ++ b) = (v.outcome a).andThen (v.outcome b) := by
  obtain ⟨hjoin, hend⟩ := ha.read v.strategy.skipUnsupported
  obtain ⟨hjoin', hend'⟩ := hb.read v.strategy.skipUnsupported
  -- neither reading fails to join, so the endings alone tell the outcomes
  unfold outcome
  rw [read_append]
  generalize read _ a = r at hjoin hend ⊢
  generalize read _ b = r' at hjoin' hend' ⊢
  unfold Reading.andThen outcomeOf sqlOf
  cases he : r.ending with
  | complete =>
    cases he' : r'.ending with
    | malformed d =>
      simp [hjoin, Outcome.rendered_andThen_of_isFailure _ _ (Outcome.isFailure_ofDefect d)]
    | _ => simp [hjoin, hjoin', Strategy.formatAll, Outcome.andThen]
  | malformed d => simp [he, Outcome.andThen_of_isFailure (Outcome.isFailure_ofDefect d)]
  | unsupported o => simp [he, Outcome.andThen]
  | unjoinable => exact absurd he hend

/-- Drafts in a row come to what each of them comes to, their texts one after the other. -/
theorem outcome_flatMap {α : Type} {xs : List α} {f : α → Draft} (h : ∀ x ∈ xs, Plain (f x)) :
    v.outcome (xs.flatMap f) = .compose (xs.map fun x => v.outcome (f x)) String.join := by
  induction xs with
  | nil => rfl
  | cons x rest ih =>
    obtain ⟨hx, hrest⟩ := List.forall_mem_cons.mp h
    rw [List.flatMap_cons, v.outcome_append hx (plain_flatMap hrest), ih hrest, List.map_cons]
    cases hout : v.outcome (f x) with
    | rendered sql os => exact (Outcome.compose_cons_rendered fun texts => String.join_cons).symm
    | _ =>
      rw [Outcome.andThen_of_isFailure rfl, Outcome.compose_cons_of_isFailure rfl]

/-- Drafts with commas between them come to what each of them comes to, with commas between the
texts that are not empty. -/
theorem outcome_commaSeparated {ds : List Draft} (hplain : ∀ d ∈ ds, Plain d)
    (hevident : ∀ d ∈ ds, Evident d) (started : Bool) :
    v.outcome (commaSeparated started ds) =
      .compose (ds.map v.outcome) (listed started) := by
  induction ds generalizing started with
  | nil => rfl
  | cons d rest ih =>
    obtain ⟨hd, hrest⟩ := List.forall_mem_cons.mp hplain
    obtain ⟨hde, hreste⟩ := List.forall_mem_cons.mp hevident
    -- the comma is decided on by the draft, and `listed` decides by the text
    have hempty := v.isEmptyText_iff hd hde
    have hseparator : Plain (if started then comma else []) := by
      cases started <;> simp [comma]
    have hseparated : v.outcome (if started then comma else []) =
        .rendered (if started then ", " else "") [] := by
      cases started
      · rfl
      · exact v.outcome_verbatim _
    rw [commaSeparated, List.map_cons]
    split
    · -- nothing is written for this part, and nothing for a comma
      rw [v.outcome_append hd (plain_commaSeparated _ hrest), ih hrest hreste]
      cases hout : v.outcome d with
      | rendered sql os =>
        have hsql : sql = "" := by
          rw [v.outcome_eq_rendered hout]
          exact hempty.mp ‹_›
        rw [hsql]
        exact (Outcome.compose_cons_rendered fun texts => by
          rw [listed_cons_of_eq_empty, String.empty_append]).symm
      | _ =>
        rw [Outcome.andThen_of_isFailure rfl, Outcome.compose_cons_of_isFailure rfl]
    · rw [v.outcome_append ((plain_append _ _).mpr ⟨hseparator, hd⟩)
          (plain_commaSeparated _ hrest),
        v.outcome_append hseparator hd, hseparated, ih hrest hreste]
      cases hout : v.outcome d with
      | rendered sql os =>
        have hsql : sql ≠ "" := by
          rw [v.outcome_eq_rendered hout]
          exact fun htext => ‹¬ _› (hempty.mpr htext)
        rw [Outcome.andThen_rendered, List.nil_append]
        exact (Outcome.compose_cons_rendered (listed_cons_of_ne_empty hsql started)).symm
      | _ =>
        rw [Outcome.compose_cons_of_isFailure rfl]
        rfl

/-! ### Columns and tables -/

end Visitor

/-- `<name> <type>[ not null][ default <raw>]`, what a column has before its constraints. -/
def Column.sqlDefinition (c : Column) (s : Strategy) (q : QuoteStyle) : String :=
  s.formatIdentifier (some q) c.name ++ " " ++ c.dataType ++
    (if c.nullable.isTrue then "" else s.formatKeyword " not null") ++
    match c.default.text? with
    | none => ""
    | some raw => s.formatKeyword " default " ++ raw

/-- `create table [if not exists ]<name> (`, what a table creation has before its columns. -/
def CreateTable.sqlHeader (c : CreateTable) (s : Strategy) (q : QuoteStyle) : String :=
  s.formatKeyword "create table " ++
    (if c.ifNotExists.isTrue then s.formatKeyword "if not exists " else "") ++
    s.formatIdentifier (some q) c.tableName ++ " ("

namespace Visitor

open Draft

variable (v : Visitor)

theorem outcome_draftDefault {c : Column} (h : c.hasTextDefault = true) :
    v.outcome (Target.draftDefault c.default) =
      .rendered
        (match c.default.text? with
          | none => ""
          | some raw => v.strategy.formatKeyword " default " ++ raw) [] := by
  rw [Target.draftDefault_of_hasTextDefault h]
  cases c.default.text? with
  | none => rfl
  | some raw =>
    rw [v.outcome_append (plain_keyword _) (plain_verbatim _), outcome_keyword, outcome_verbatim,
      Outcome.andThen_rendered, List.nil_append]

/-- What a column in the common form comes to. -/
theorem outcome_draftColumn (hform : v.target.form? .column = some .column) {c : Column}
    (h : c.hasTextDefault = true) :
    v.outcome (v.target.draftColumn c) =
      .compose (c.constraints.map fun k => v.outcome (v.target.draftColumnConstraint k))
        fun texts => c.sqlDefinition v.strategy v.target.engine.quote ++ String.join texts := by
  have hnull : v.outcome (if c.nullable.isTrue then [] else keyword " not null") =
      .rendered (if c.nullable.isTrue then "" else v.strategy.formatKeyword " not null") [] := by
    split
    · rfl
    · exact v.outcome_keyword _
  have hplainNull : Plain (if c.nullable.isTrue then [] else keyword " not null") := by
    split <;> simp
  have hplainDefault : Plain (Target.draftDefault c.default) :=
    Target.plain_draftDefault ((Bool.or_eq_true _ _).mp h)
  have hplain : ∀ k ∈ c.constraints, Plain (v.target.draftColumnConstraint k) :=
    fun k _ => v.target.plain_draftColumnConstraint k
  rw [Target.draftColumn, hform]
  dsimp only
  rw [v.outcome_append (by simp [hplainNull, hplainDefault]) (plain_flatMap hplain),
    v.outcome_append (by simp [hplainNull]) hplainDefault,
    v.outcome_append (by simp) hplainNull,
    v.outcome_append (plain_identifier _) (plain_verbatim _), outcome_identifier,
    outcome_verbatim, hnull, v.outcome_draftDefault h, v.outcome_flatMap hplain]
  simp only [Outcome.andThen_rendered, List.append_nil, Outcome.rendered_andThen_compose,
    Column.sqlDefinition, String.append_assoc]

/-- What a table creation in the common form comes to. -/
theorem outcome_draftCreateTable (hform : v.target.form? .createTable = some .createTable)
    {c : CreateTable} (h : c.columns.all Column.hasTextDefault = true) :
    v.outcome (v.target.draftCreateTable c) =
      .compose
        (c.columns.map (fun column => v.outcome (v.target.draftColumn column)) ++
          c.constraints.map fun k => v.outcome (v.target.draftTableConstraint k))
        fun texts => c.sqlHeader v.strategy v.target.engine.quote ++
          String.intercalate ", " (texts.filter (· ≠ "")) ++ ")" := by
  have hplain : ∀ d ∈ c.columns.map v.target.draftColumn ++
      c.constraints.map v.target.draftTableConstraint, Plain d := by
    intro d hd
    rw [List.mem_append, List.mem_map, List.mem_map] at hd
    rcases hd with ⟨column, hmem, rfl⟩ | ⟨k, -, rfl⟩
    · exact v.target.plain_draftColumn (List.all_eq_true.mp h column hmem)
    · exact v.target.plain_draftTableConstraint k
  have hevident : ∀ d ∈ c.columns.map v.target.draftColumn ++
      c.constraints.map v.target.draftTableConstraint, Evident d := by
    intro d hd
    rw [List.mem_append, List.mem_map, List.mem_map] at hd
    rcases hd with ⟨column, -, rfl⟩ | ⟨k, -, rfl⟩
    · exact v.target.evident_draftColumn column
    · exact v.target.evident_draftTableConstraint k
  have hexists : v.outcome (if c.ifNotExists.isTrue then keyword "if not exists " else []) =
      .rendered (if c.ifNotExists.isTrue then v.strategy.formatKeyword "if not exists " else "")
        [] := by
    split
    · exact v.outcome_keyword _
    · rfl
  have hplainExists :
      Plain (if c.ifNotExists.isTrue then keyword "if not exists " else []) := by
    split <;> simp
  have hplainItems := plain_commaSeparated false hplain
  rw [Target.draftCreateTable, hform]
  dsimp only
  rw [v.target.fragments_eq h,
    v.outcome_append (by simp [hplainExists, hplainItems]) (plain_verbatim _),
    v.outcome_append (by simp [hplainExists]) hplainItems,
    v.outcome_append (by simp [hplainExists]) (plain_verbatim _),
    v.outcome_append (by simp [hplainExists]) (plain_identifier _),
    v.outcome_append (plain_keyword _) hplainExists, outcome_keyword, hexists,
    outcome_identifier, outcome_verbatim, outcome_verbatim,
    v.outcome_commaSeparated hplain hevident]
  simp only [Outcome.andThen_rendered, List.append_nil, Outcome.rendered_andThen_compose,
    Outcome.compose_andThen_rendered, listed_eq_intercalate, CreateTable.sqlHeader,
    List.map_append, List.map_map, Function.comp_def, String.append_assoc]

/-- **A part renders on its own as it does inside its parent.**  Where tables and columns have the
common forms, a table creation comes to what its columns at clause position and its constraints at
table position come to in renderings of their own: the first failure among them, or the header, their
texts that are not empty with commas between them, and a parenthesis.  A column comes to what its
constraints at column position come to, after a text of its own.  In either case the omissions are
those of the parts in order. -/
theorem render_compositional (v : Visitor)
    (htable : v.target.form? .createTable = some .createTable)
    (hcolumn : v.target.form? .column = some .column) :
    (∀ c : CreateTable, (Node.createTable c).hasTextDefaults = true →
      (v.render (.createTable c) .statement).outcome =
        .compose
          (c.columns.map (fun column => (v.render (.column column) .clause).outcome) ++
            c.constraints.map fun k => (v.render (.constraint k) .table).outcome)
          fun texts => c.sqlHeader v.strategy v.target.engine.quote ++
            String.intercalate ", " (texts.filter (· ≠ "")) ++ ")") ∧
    ∀ c : Column, (Node.column c).hasTextDefaults = true →
      (v.render (.column c) .clause).outcome =
        .compose (c.constraints.map fun k => (v.render (.constraint k) .column).outcome)
          fun texts => c.sqlDefinition v.strategy v.target.engine.quote ++ String.join texts := by
  constructor
  · intro c h
    simp only [render_outcome]
    exact v.outcome_draftCreateTable htable h
  · intro c h
    simp only [render_outcome]
    exact v.outcome_draftColumn hcolumn h

/-- An engine that quotes in brackets and has no form for primary keys: what it leaves out of the
column and of the table comes to the same list as in the parts. -/
theorem render_compositional_custom_engine :
    let engine : Engine :=
      ⟨"custom", [Layer.standard.restrict [.createTable, .column, .tableUnique]], [⟨[1]⟩], .bracket,
        fun _ => 1⟩
    let v : Visitor := ⟨⟨engine, ⟨[1]⟩⟩, ⟨true, .upper, true⟩⟩
    let check : Constraint := .check ⟨"a > 0"⟩
    let key : Constraint := .primaryKey { columnNames := [.text "a"] }
    let column : Column :=
      { name := "a", dataType := "int", default := .text "0", constraints := [check] }
    let c : CreateTable :=
      { tableName := "t", columns := [column]
        constraints := [key, .unique { columnNames := [.text "a"] }] }
    v.target.form? .createTable = some .createTable ∧ v.target.form? .column = some .column ∧
      (Node.createTable c).hasTextDefaults = true ∧
      (v.render (.createTable c) .statement).outcome =
        .rendered "CREATE TABLE [t] ([a] int DEFAULT 0, UNIQUE ([a]))"
          [⟨.constraint check, .form .columnCheck, "custom", ⟨[1]⟩, none⟩,
            ⟨.constraint key, .form .tablePrimaryKey, "custom", ⟨[1]⟩, none⟩] := by
  intro engine v check key column c
  refine ⟨rfl, rfl, rfl, ?_⟩
  rw [(render_compositional v rfl rfl).1 c rfl]
  rfl

end Visitor

end SqlDialect
