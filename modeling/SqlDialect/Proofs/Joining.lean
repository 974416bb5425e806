import SqlDialect.Node.Build
import SqlDialect.Proofs.Acceptance
import SqlDialect.Proofs.Releases
import SqlDialect.Proofs.Undated

/-!
# Which nodes render to a result

Two kinds of nodes have none.  The default of a column is raw SQL that is kept as given.  One that
is no text is found out only when the pieces of its column are joined, and there it is no error of
the renderer.  And a name that is refused is shown in the refusal, which fails if there is an
integer of too many digits in it.

`render_isResult_iff` says which nodes have a result.  The first column on which the rendering stops
saves the columns after it from being joined, so what counts are the defaults of the columns before
that one; and of the names only the one at which the rendering stops is shown.
-/

namespace SqlDialect

/-- A rendering has a result: a text, or an error that says what is wrong with the node. -/
def Outcome.IsResult : Outcome → Prop
  | .unjoinable | .unwritable => False
  | _ => True

theorem Outcome.isResult_iff (o : Outcome) :
    o.IsResult ↔ o ≠ .unjoinable ∧ o ≠ .unwritable := by
  cases o <;> simp [IsResult]

/-- Whether a hurdle that a target meets stops the reading of a draft. -/
def Hurdle.stops (lenient : Bool) : Hurdle → Bool
  | .defect _ => true
  | .gap _ _ => !lenient

/-- Whether a visitor for a built-in target stops at a hurdle. -/
def Visitor.isStoppedBy (v : Visitor) (h : Hurdle) : Bool :=
  v.target.blocks h && h.stops v.strategy.skipUnsupported

/-- Whether a visitor for a built-in target renders a column without stopping in it. -/
def Visitor.passes (v : Visitor) (c : Column) : Bool :=
  !c.hurdles.any v.isStoppedBy

/-- The columns that a node writes at a position. -/
def Node.columnsAt (n : Node) (p : Position) : List Column :=
  match n, p with
  | .column c, .clause => [c]
  | .createTable c, .statement => c.columns
  | _, _ => []

namespace Draft

/-! ### Drafts in which nothing is joined -/

/-- Nothing in a draft is joined. -/
def Loose (d : Draft) : Prop :=
  Step.failJoin ∉ d

theorem Plain.loose {d : Draft} (hd : Plain d) : Loose d :=
  fun hmem => Bool.false_ne_true (hd _ hmem)

theorem loose_append {a b : Draft} (ha : Loose a) (hb : Loose b) : Loose (a ++ b) :=
  fun hmem => (List.mem_append.mp hmem).elim ha hb

namespace Loose

variable {d : Draft} (hd : Loose d) (lenient : Bool)

include hd

theorem ending_ne_unjoinable : (read lenient d).ending ≠ .unjoinable := by
  induction d with
  | nil => exact nofun
  | cons step rest ih =>
    have hrest := ih fun hmem => hd (List.mem_cons_of_mem step hmem)
    cases step with
    | emit s => exact hrest
    | emitValue x => exact hrest
    | leaveOut o =>
      cases lenient with
      | true => exact hrest
      | false => exact nofun
    | reject x => exact nofun
    | announceDrop tables => exact hrest
    | failJoin => exact absurd List.mem_cons_self hd

/-- Such a draft is read to its end exactly if no hurdle stops the reading. -/
theorem complete_iff :
    (read lenient d).ending = .complete ↔ (hurdles d).any (Hurdle.stops lenient) = false := by
  induction d with
  | nil => exact iff_of_true rfl rfl
  | cons step rest ih =>
    have hrest := ih fun hmem => hd (List.mem_cons_of_mem step hmem)
    cases step with
    | emit s => exact hrest
    | emitValue x => exact hrest
    | leaveOut o =>
      cases lenient with
      | true => exact hrest
      | false => exact iff_of_false nofun nofun
    | reject x => exact iff_of_false nofun nofun
    | announceDrop tables => exact hrest
    | failJoin => exact absurd List.mem_cons_self hd

/-- Joining it fails exactly if it is read to its end and emits something that is no text. -/
theorem unjoinable_fragment_iff :
    (read lenient (fragment d)).ending = .unjoinable ↔
      (read lenient d).ending = .complete ∧ emitsValue d = true := by
  rw [fragment]
  cases hvalue : emitsValue d with
  | false => exact iff_of_false (hd.ending_ne_unjoinable lenient) fun h => Bool.false_ne_true h.2
  | true =>
    rw [if_pos rfl, read_append]
    by_cases hcomplete : (read lenient d).ending = .complete
    · rw [Alike.andThen_of_complete hcomplete]
      exact iff_of_true rfl ⟨hcomplete, rfl⟩
    · rw [Alike.andThen_of_stopped hcomplete]
      exact iff_of_false (hd.ending_ne_unjoinable lenient) fun h => hcomplete h.1

end Loose

/-! ### Joins that fail -/

variable {lenient : Bool}

/-- Unless a join fails, it is the first hurdle at which the reading stops that is refused. -/
theorem malformed_iff {d : Draft} {x : Defect} (hjoin : (read lenient d).ending ≠ .unjoinable) :
    (read lenient d).ending = .malformed x ↔
      (hurdles d).find? (Hurdle.stops lenient) = some (.defect x) := by
  induction d with
  | nil => exact iff_of_false nofun nofun
  | cons step rest ih =>
    cases step with
    | emit s => exact ih hjoin
    | emitValue y => exact ih hjoin
    | leaveOut o =>
      cases lenient with
      | true => exact ih hjoin
      | false => exact iff_of_false nofun (by simp [hurdles, Step.hurdle?, Hurdle.stops])
    | reject y => simp [read, hurdles, Step.hurdle?, Hurdle.stops]
    | announceDrop tables => exact ih hjoin
    | failJoin => exact absurd rfl hjoin

/-- A join in two drafts fails in the first one, or in the second one if that is reached. -/
theorem unjoinable_append_iff (a b : Draft) :
    (read lenient (a ++ b)).ending = .unjoinable ↔
      (read lenient a).ending = .unjoinable ∨
        (read lenient a).ending = .complete ∧ (read lenient b).ending = .unjoinable := by
  rw [read_append]
  by_cases hcomplete : (read lenient a).ending = .complete
  · rw [Alike.andThen_of_complete hcomplete, hcomplete]
    simp
  · rw [Alike.andThen_of_stopped hcomplete]
    simp [hcomplete]

/-- What stands around a draft without being a hurdle is no reason why a join fails. -/
theorem unjoinable_between_iff {a b : Draft} (d : Draft)
    (ha : (read lenient a).ending = .complete) (hb : (read lenient b).ending = .complete) :
    (read lenient (a ++ d ++ b)).ending = .unjoinable ↔
      (read lenient d).ending = .unjoinable := by
  rw [unjoinable_append_iff, unjoinable_append_iff, ha, hb]
  simp

/-- The comma in front of a fragment does not matter. -/
theorem unjoinable_commaSeparated_cons_iff (lenient started : Bool) (d : Draft) (ds : List Draft) :
    ∃ next, (read lenient (commaSeparated started (d :: ds))).ending = .unjoinable ↔
      (read lenient d).ending = .unjoinable ∨ (read lenient d).ending = .complete ∧
        (read lenient (commaSeparated next ds)).ending = .unjoinable := by
  rw [commaSeparated]
  split
  · exact ⟨started, unjoinable_append_iff _ _⟩
  · refine ⟨true, ?_⟩
    have hcomma : (read lenient (if started then comma else [])).ending = .complete := by
      cases started <;> rfl
    rw [List.append_assoc, unjoinable_append_iff, unjoinable_append_iff, hcomma]
    simp

theorem ending_commaSeparated_ne_unjoinable {ds : List Draft} (hloose : ∀ d ∈ ds, Loose d)
    (started : Bool) : (read lenient (commaSeparated started ds)).ending ≠ .unjoinable := by
  induction ds generalizing started with
  | nil => exact nofun
  | cons d ds ih =>
    obtain ⟨hd, hds⟩ := List.forall_mem_cons.mp hloose
    obtain ⟨next, hiff⟩ := unjoinable_commaSeparated_cons_iff lenient started d ds
    rw [ne_eq, hiff, not_or]
    exact ⟨hd.ending_ne_unjoinable lenient, fun h => ih hds next h.2⟩

/-- Among fragments that are followed by drafts without a join, a join fails exactly if one of the
fragments that are reached before the reading stops emits something that is no text. -/
theorem unjoinable_fragments_iff {α : Type} {xs : List α} {f : α → Draft} {ds : List Draft}
    (hloose : ∀ x ∈ xs, Loose (f x)) (hds : ∀ d ∈ ds, Loose d) (passes : α → Bool)
    (hpasses : ∀ x ∈ xs, (read lenient (f x)).ending = .complete ↔ passes x = true)
    (started : Bool) :
    (read lenient (commaSeparated started (xs.map (fun x => fragment (f x)) ++ ds))).ending =
        .unjoinable ↔
      ∃ x ∈ xs.takeWhile passes, emitsValue (f x) = true := by
  induction xs generalizing started with
  | nil => exact iff_of_false (ending_commaSeparated_ne_unjoinable hds started) nofun
  | cons x xs ih =>
    obtain ⟨hx, hxs⟩ := List.forall_mem_cons.mp hloose
    obtain ⟨hpass, hpasses⟩ := List.forall_mem_cons.mp hpasses
    obtain ⟨next, hiff⟩ := unjoinable_commaSeparated_cons_iff lenient started (fragment (f x))
      (xs.map (fun x => fragment (f x)) ++ ds)
    rw [List.map_cons, List.cons_append, hiff, ih hxs hpasses next, hx.unjoinable_fragment_iff,
      complete_fragment_iff]
    by_cases hcomplete : (read lenient (f x)).ending = .complete
    · -- the reading gets past this one, unless it is here that the join fails
      rw [List.takeWhile_cons_of_pos (hpass.mp hcomplete), emitsValue_of_complete hcomplete,
        List.exists_mem_cons_iff, emitsValue_of_complete hcomplete]
      cases (read lenient (f x)).joinable <;> simp [hcomplete]
    · rw [List.takeWhile_cons_of_neg (mt hpass.mpr hcomplete)]
      simp [hcomplete]

/-! ### Drafts that join their values -/

/-- All the pieces of a draft that is read to its end are texts. -/
def Solid (lenient : Bool) (d : Draft) : Prop :=
  (read lenient d).ending = .complete → (read lenient d).joinable = true

theorem Plain.solid {d : Draft} (hd : Plain d) : Solid lenient d :=
  fun _ => (hd.read lenient).1

theorem solid_append {a b : Draft} (ha : Solid lenient a) (hb : Solid lenient b) :
    Solid lenient (a ++ b) := by
  intro hcomplete
  obtain ⟨hca, hcb⟩ := complete_append_iff.mp hcomplete
  rw [read_append, Alike.andThen_of_complete hca]
  show ((read lenient a).joinable && (read lenient b).joinable) = true
  rw [ha hca, hb hcb]
  rfl

theorem solid_fragment (d : Draft) : Solid lenient (fragment d) := by
  unfold fragment
  cases hvalue : emitsValue d with
  | true => exact fun hcomplete => nomatch (complete_append_iff.mp hcomplete).2
  | false =>
    intro hcomplete
    have hjoin := emitsValue_of_complete hcomplete
    rw [if_neg Bool.false_ne_true, hvalue] at hjoin
    simpa using hjoin.symm

theorem solid_commaSeparated {ds : List Draft} (h : ∀ d ∈ ds, Solid lenient d) (started : Bool) :
    Solid lenient (commaSeparated started ds) := by
  induction ds generalizing started with
  | nil => exact fun _ => rfl
  | cons d ds ih =>
    obtain ⟨hd, hds⟩ := List.forall_mem_cons.mp h
    rw [commaSeparated]
    split
    · exact solid_append hd (ih hds started)
    · refine solid_append (solid_append ?_ hd) (ih hds true)
      cases started <;> exact fun _ => rfl

end Draft

/-! ### Columns and tables -/

namespace Visitor

open Draft

variable {v : Visitor}

/-- A draft cannot be joined exactly if a join in it fails, or the last one, of all its pieces. -/
theorem outcome_eq_unjoinable_iff (d : Draft) :
    v.outcome d = .unjoinable ↔
      (read v.strategy.skipUnsupported d).ending = .unjoinable ∨
        (read v.strategy.skipUnsupported d).ending = .complete ∧ emitsValue d = true := by
  unfold outcome outcomeOf
  cases hending : (read v.strategy.skipUnsupported d).ending with
  | complete =>
    rw [emitsValue_of_complete hending]
    cases (read v.strategy.skipUnsupported d).joinable <;> simp
  | malformed x => simp [Outcome.ofDefect_ne_unjoinable]
  | unsupported o => simp
  | unjoinable => simp

theorem outcome_ne_unjoinable_of_plain {d : Draft} (hd : Plain d) : v.outcome d ≠ .unjoinable := by
  intro hunjoinable
  rcases (outcome_eq_unjoinable_iff d).mp hunjoinable with hending | ⟨hcomplete, hvalue⟩
  · exact (hd.read _).2 hending
  · rw [emitsValue_of_complete hcomplete, (hd.read _).1] at hvalue
    exact Bool.noConfusion hvalue

theorem emitsValue_draftDefault (c : Column) :
    emitsValue (Target.draftDefault c.default) = !c.hasTextDefault := by
  unfold Target.draftDefault Column.hasTextDefault
  cases c.default.isNull with
  | true => rfl
  | false => cases c.default.text? <;> rfl

theorem loose_draftDefault (x : Value) : Loose (Target.draftDefault x) := by
  unfold Target.draftDefault
  split
  · exact nofun
  · cases x.text? <;> simp [Loose, keyword, verbatim]

section

variable (hv : v.target ∈ Target.builtin)

include hv

theorem emitsValue_draftColumn (c : Column) :
    emitsValue (v.target.draftColumn c) = !c.hasTextDefault := by
  have hconstraints :
      emitsValue (c.constraints.flatMap v.target.draftColumnConstraint) = false := by
    rw [emitsValue, List.any_eq_false]
    intro step hmem hvalue
    have hstep := plain_flatMap (fun k _ => v.target.plain_draftColumnConstraint k) step hmem
    cases step with
    | emitValue x => exact Bool.false_ne_true hstep
    | _ => exact Bool.false_ne_true hvalue
  have hdefault := emitsValue_draftDefault c
  rw [Target.draftColumn_builtin hv]
  unfold emitsValue at hdefault hconstraints ⊢
  rw [List.any_append, List.any_append, hdefault, hconstraints, Bool.or_false]
  cases c.nullable.isTrue <;> rfl

theorem loose_draftColumn (c : Column) : Loose (v.target.draftColumn c) := by
  have hopening : Plain (identifier c.name ++ verbatim (" " ++ c.dataType) ++
      (if c.nullable.isTrue then [] else keyword " not null")) := by
    cases c.nullable.isTrue <;> simp
  have hconstraints : Plain (c.constraints.flatMap v.target.draftColumnConstraint) :=
    plain_flatMap fun k _ => v.target.plain_draftColumnConstraint k
  rw [Target.draftColumn_builtin hv]
  exact loose_append (loose_append hopening.loose (loose_draftDefault _)) hconstraints.loose

theorem complete_draftColumn_iff (c : Column) :
    (read v.strategy.skipUnsupported (v.target.draftColumn c)).ending = .complete ↔
      v.passes c = true := by
  rw [(loose_draftColumn hv c).complete_iff, Target.hurdles_draftColumn hv, List.any_filter, passes,
    Bool.not_eq_true']
  rfl

/-- A column cannot be joined exactly if its default is no text and nothing stops the visitor. -/
theorem draftColumn_unjoinable_iff (c : Column) :
    v.outcome (v.target.draftColumn c) = .unjoinable ↔
      v.passes c = true ∧ c.hasTextDefault = false := by
  have hending := (loose_draftColumn hv c).ending_ne_unjoinable v.strategy.skipUnsupported
  rw [outcome_eq_unjoinable_iff, complete_draftColumn_iff hv, emitsValue_draftColumn hv,
    Bool.not_eq_true']
  exact or_iff_right hending

/-- A table creation cannot be joined exactly if the visitor gets to the end of a column whose
default is no text. -/
theorem draftCreateTable_unjoinable_iff (c : CreateTable) :
    v.outcome (v.target.draftCreateTable c) = .unjoinable ↔
      ∃ column ∈ c.columns.takeWhile v.passes, column.hasTextDefault = false := by
  have hconstraints : ∀ d ∈ c.constraints.map fun k => fragment (v.target.draftTableConstraint k),
      Loose d := by
    intro d hd
    obtain ⟨k, -, rfl⟩ := List.mem_map.mp hd
    have hplain := v.target.plain_draftTableConstraint k
    rw [hplain.fragment_eq]
    exact hplain.loose
  have hcolumns : ∀ column ∈ c.columns, Loose (v.target.draftColumn column) :=
    fun column _ => loose_draftColumn hv column
  have hparts := unjoinable_fragments_iff hcolumns hconstraints v.passes
    (fun column _ => complete_draftColumn_iff hv column) false
  -- every value of a column is joined in the fragment of the column
  have hsolid : Solid v.strategy.skipUnsupported (v.target.draftCreateTable c) := by
    have hopening : Plain (keyword "create table " ++
        (if c.ifNotExists.isTrue then keyword "if not exists " else []) ++
        identifier c.tableName ++ verbatim " (") := by
      cases c.ifNotExists.isTrue <;> simp
    rw [Target.draftCreateTable_builtin hv]
    refine solid_append (solid_append hopening.solid (solid_commaSeparated ?_ _)) fun _ => rfl
    intro d hd
    rw [List.mem_append, List.mem_map, List.mem_map] at hd
    rcases hd with ⟨column, -, rfl⟩ | ⟨k, -, rfl⟩
    · exact solid_fragment _
    · exact solid_fragment _
  have hvalue : ¬ ((read v.strategy.skipUnsupported (v.target.draftCreateTable c)).ending =
      .complete ∧ emitsValue (v.target.draftCreateTable c) = true) := by
    rintro ⟨hcomplete, hvalue⟩
    rw [emitsValue_of_complete hcomplete, hsolid hcomplete] at hvalue
    exact Bool.noConfusion hvalue
  simp only [emitsValue_draftColumn hv, Bool.not_eq_true'] at hparts
  rw [outcome_eq_unjoinable_iff, or_iff_left hvalue, Target.draftCreateTable_builtin hv,
    unjoinable_between_iff _ ?_ rfl, hparts]
  cases c.ifNotExists.isTrue <;> rfl

/-- A node can be joined exactly if the default of every column that stands before the first one on
which the visitor stops is a text or missing. -/
theorem render_ne_unjoinable_iff (n : Node) (p : Position) :
    (v.render n p).outcome ≠ .unjoinable ↔
      ∀ c ∈ (n.columnsAt p).takeWhile v.passes, c.hasTextDefault = true := by
  -- a node that writes no column is plain
  have hplain (hcolumns : n.columnsAt p = []) (hd : Plain (v.target.draft n p)) :
      v.outcome (v.target.draft n p) ≠ .unjoinable ↔
        ∀ c ∈ (n.columnsAt p).takeWhile v.passes, c.hasTextDefault = true := by
    rw [hcolumns]
    exact iff_of_true (outcome_ne_unjoinable_of_plain hd) nofun
  rw [render_outcome]
  by_cases hstands : n.Stands p
  · cases hstands with
    | createTable c =>
      refine (not_congr (draftCreateTable_unjoinable_iff hv c)).trans ?_
      simp [Node.columnsAt]
    | column c =>
      refine (not_congr (draftColumn_unjoinable_iff hv c)).trans ?_
      cases hpass : v.passes c <;> simp [Node.columnsAt, hpass]
    | dropTable d => exact hplain rfl (v.target.plain_draft rfl _)
    | bareStatement serial => exact hplain rfl (v.target.plain_draft rfl _)
    | tableConstraint c => exact hplain rfl (v.target.plain_draft rfl _)
    | columnConstraint c => exact hplain rfl (v.target.plain_draft rfl _)
    | action a => exact hplain rfl (v.target.plain_draft rfl _)
  · have hreject : v.target.draft n p = [.reject ⟨.node n, .misplaced p⟩] :=
      Target.draft_of_not_stands hstands
    refine hplain ?_ ?_
    · unfold Node.columnsAt
      split
      · exact absurd (.column _) hstands
      · exact absurd (.createTable _) hstands
      · rfl
    · rw [hreject]
      simp [Step.isPlain]

/-- A node that can be joined is refused without words exactly if the visitor stops at a defect that
cannot be written. -/
theorem render_ne_unwritable_iff {n : Node} {p : Position}
    (hjoin : (v.render n p).outcome ≠ .unjoinable) :
    (v.render n p).outcome ≠ .unwritable ↔
      ∀ d, (n.hurdles p).find? v.isStoppedBy = some (.defect d) → d.message?.isSome = true := by
  rw [render_outcome, ne_eq, outcome_eq_unjoinable_iff, not_or] at hjoin
  have hstop (d : Defect) :
      (read v.strategy.skipUnsupported (v.target.draft n p)).ending = .malformed d ↔
        (n.hurdles p).find? v.isStoppedBy = some (.defect d) := by
    rw [malformed_iff hjoin.1, Target.hurdles_draft hv, Target.hurdles, List.find?_filter]
    simp only [Bool.decide_and, Bool.decide_eq_true]
    rfl
  rw [render_outcome, outcome, ne_eq, outcomeOf_eq_unwritable_iff]
  simp only [hstop, not_exists, not_and, Option.isSome_iff_ne_none, ne_eq]

end

/-- **Which nodes render to a result.**  On a built-in engine, in any strategy, a rendering ends in
a text or in an error that says what is wrong exactly if two things hold: the default of every
column that stands before the first one on which the visitor stops is a text or missing, and if it
is a defect at which the visitor stops, then its message can be written. -/
theorem render_isResult_iff {engine version : Value} {s : Strategy}
    (hv : Visitor.find engine version s = .ok v) (n : Node) (p : Position) :
    (v.render n p).outcome.IsResult ↔
      (∀ c ∈ (n.columnsAt p).takeWhile v.passes, c.hasTextDefault = true) ∧
        ∀ d, (n.hurdles p).find? v.isStoppedBy = some (.defect d) → d.message?.isSome = true := by
  have hbuiltin := Target.mem_builtin_of_find (Visitor.of_find hv).1
  rw [Outcome.isResult_iff, ← render_ne_unjoinable_iff hbuiltin]
  exact and_congr_right fun hjoin => render_ne_unwritable_iff hbuiltin hjoin

/-- A strict rendering on SQLite has a result although a default is a number: it stops at the column
before, whose unique constraint says that nulls are not distinct. -/
theorem render_isResult_of_stop :
    let v : Visitor := ⟨⟨.sqlite, ⟨[3]⟩⟩, {}⟩
    let a : Column :=
      { name := "a", dataType := "int", constraints := [.unique { nullsDistinct := .bool false }] }
    let b : Column := { name := "b", dataType := "int", default := .int 0 }
    let n : Node := .createTable { tableName := "t", columns := [a, b] }
    Visitor.find (.text "sqlite") (.text "3") {} = .ok v ∧
      (v.render n .statement).outcome.IsResult := by
  intro v a b n
  have hv : Visitor.find (.text "sqlite") (.text "3") {} = .ok v := rfl
  have hstops : ¬ v.passes a = true := by decide
  have hfirst : (n.hurdles .statement).find? v.isStoppedBy =
      some (.gap (.constraint (.unique { nullsDistinct := .bool false }))
        (.feature .uniqueNullsNotDistinct)) := rfl
  refine ⟨hv, ?_⟩
  rw [render_isResult_iff hv n .statement]
  constructor
  · show ∀ c ∈ [a, b].takeWhile v.passes, c.hasTextDefault = true
    rw [List.takeWhile_cons_of_neg hstops]
    exact nofun
  · rw [hfirst]
    exact nofun

/-- Not every node that can be built renders to a result: a column keeps a number as its default. -/
theorem not_render_isResult_of_build :
    ¬ ∀ (serial : Nat) (kind : NodeKind) (args : Arguments) (n : Node),
      Node.build serial kind args = .ok n →
        ∀ (engine version : Value) (s : Strategy) (v : Visitor),
          Visitor.find engine version s = .ok v →
            ∀ p : Position, (v.render n p).outcome.IsResult := by
  intro hall
  let column : Column := { name := "a", dataType := "int", default := .int 0 }
  have hbuild : Node.build 0 .createTable
      [("table_name", .text "t"), ("columns", .tuple [column.toValue])] =
        .ok (.createTable { tableName := "t", columns := [column] }) := rfl
  have hfind : Visitor.find (.text "sqlite") (.text "3") {} =
      .ok ⟨⟨.sqlite, ⟨[3]⟩⟩, {}⟩ := rfl
  exact hall _ _ _ _ hbuild _ _ _ _ hfind .statement

end Visitor

end SqlDialect
