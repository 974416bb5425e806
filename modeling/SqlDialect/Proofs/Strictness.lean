import SqlDialect.Proofs.Reading
import SqlDialect.Render

/-!
# Strict rendering, from lenient rendering

The two modes of a visitor (`Visitor.strict`, `Visitor.lenient`) write the same draft of a node and
differ in how they read it, so what the strict one comes to can be told from the lenient one alone
(`strict_outcome_of_lenient`), on any engine, whatever its layers are made of.

A column default that is no text is raw SQL of no kind: joining it with the rest fails in either
mode.  `Node.hasTextDefaults` excludes it; the drafts of such nodes are plain (`Target.plain_draft`).
A malformed node is refused in either mode too, unless the name in the refusal cannot be written;
`Outcome.ofDefect` is what it comes to then and otherwise.
-/

namespace SqlDialect

/-- Whether the default of a column is a text, or there is none. -/
def Column.hasTextDefault (c : Column) : Bool :=
  c.default.isNull || c.default.text?.isSome

/-- Whether every column default in a node is a text, where there is one. -/
def Node.hasTextDefaults : Node → Bool
  | .column c => c.hasTextDefault
  | .createTable t => t.columns.all Column.hasTextDefault
  | _ => true

/-! ### Plain drafts of nodes -/

namespace Target

open Draft

variable (t : Target)

@[simp] theorem plain_lack (construct : Node) (f : Feature) : Plain (t.lack construct f) := by
  simp [lack, Step.isPlain]

@[simp] theorem plain_missing (construct : Node) (slot : Slot) :
    Plain (t.missing construct slot) := by
  simp [missing, Step.isPlain]

@[simp] theorem plain_inParentheses (ns : List String) : Plain (inParentheses ns) := by
  simp [inParentheses]

theorem plain_withNames {construct : Node} {list : NameList} {names : List Value}
    {k : List String → Draft} (hk : ∀ texts, Plain (k texts)) :
    Plain (withNames construct list names k) := by
  unfold withNames
  split
  · simp [Step.isPlain]
  · split
    · exact hk _
    · simp [Step.isPlain]

theorem plain_draftAction (a : ReferentialAction) : Plain (t.draftAction a) := by
  unfold draftAction
  dsimp only
  split
  · exact t.plain_missing _ _
  · exact plain_keyword _
  · refine (plain_append _ _).mpr ⟨plain_keyword _, ?_⟩
    split
    · exact plain_nil
    · exact plain_withNames fun _ => t.plain_lack _ _
  · refine (plain_append _ _).mpr ⟨plain_keyword _, ?_⟩
    split
    · exact plain_nil
    · refine plain_withNames fun columns => ?_
      split <;> simp

theorem plain_draftClause (words : String) (a : Option ReferentialAction) :
    Plain (t.draftClause words a) := by
  cases a with
  | none => exact plain_nil
  | some a => exact (plain_append _ _).mpr ⟨plain_keyword _, t.plain_draftAction a⟩

theorem plain_draftReferences (f : ForeignKey) : Plain (t.draftReferences f) :=
  plain_withNames fun columns => by simp [plain_draftClause]

theorem plain_draftTableConstraint (c : Constraint) : Plain (t.draftTableConstraint c) := by
  cases c with
  | check c =>
    simp only [draftTableConstraint, draftTableCheck]
    split <;> simp
  | foreignKey f =>
    simp only [draftTableConstraint, draftTableForeignKey]
    split
    · exact t.plain_missing _ _
    · exact plain_keyword _
    · exact plain_withNames fun columns => plain_withNames fun _ => by
        simp [plain_draftReferences]
  | primaryKey p =>
    simp only [draftTableConstraint, draftTablePrimaryKey]
    split
    · exact t.plain_missing _ _
    · exact plain_keyword _
    · exact plain_withNames fun columns => by simp
  | unique u =>
    simp only [draftTableConstraint, draftTableUnique]
    split
    · exact t.plain_missing _ _
    · exact plain_keyword _
    · exact plain_withNames fun columns => by split <;> simp
    · exact plain_withNames fun columns => by split <;> simp

theorem plain_draftColumnConstraint (c : Constraint) : Plain (t.draftColumnConstraint c) := by
  cases c with
  | check c =>
    simp only [draftColumnConstraint, draftColumnCheck]
    split <;> simp
  | foreignKey f =>
    simp only [draftColumnConstraint, draftColumnForeignKey]
    split <;> simp [plain_draftReferences]
  | primaryKey p =>
    simp only [draftColumnConstraint, draftColumnPrimaryKey]
    split <;> simp
  | unique u =>
    simp only [draftColumnConstraint, draftColumnUnique]
    split
    · exact t.plain_missing _ _
    · exact plain_keyword _
    · split <;> simp
    · split <;> simp

theorem plain_draftDefault {v : Value} (h : v.isNull = true ∨ v.text?.isSome = true) :
    Plain (draftDefault v) := by
  unfold draftDefault
  split
  · exact plain_nil
  · rename_i hnull
    obtain ⟨sql, hsql⟩ := Option.isSome_iff_exists.mp (h.resolve_left hnull)
    simp [hsql]

theorem plain_draftColumn {c : Column} (h : c.hasTextDefault = true) :
    Plain (t.draftColumn c) := by
  unfold draftColumn
  split
  · exact t.plain_missing _ _
  · exact plain_keyword _
  · have hdefault : Plain (draftDefault c.default) :=
      plain_draftDefault ((Bool.or_eq_true _ _).mp h)
    have hconstraints : Plain (c.constraints.flatMap t.draftColumnConstraint) :=
      plain_flatMap fun k _ => t.plain_draftColumnConstraint k
    simp only [plain_append, plain_identifier, plain_verbatim, hdefault, hconstraints, and_true,
      true_and]
    split <;> simp

theorem plain_draftCreateTable {c : CreateTable} (h : c.columns.all Column.hasTextDefault = true) :
    Plain (t.draftCreateTable c) := by
  unfold draftCreateTable
  split
  · exact t.plain_missing _ _
  · exact plain_keyword _
  · have hparts : ∀ d ∈ c.columns.map (fun column => fragment (t.draftColumn column)) ++
        c.constraints.map (fun k => fragment (t.draftTableConstraint k)), Plain d := by
      intro d hd
      rw [List.mem_append, List.mem_map, List.mem_map] at hd
      -- a plain draft is its own fragment
      rcases hd with ⟨column, hmem, rfl⟩ | ⟨k, -, rfl⟩
      · have hp := t.plain_draftColumn (List.all_eq_true.mp h column hmem)
        rw [hp.fragment_eq]
        exact hp
      · rw [(t.plain_draftTableConstraint k).fragment_eq]
        exact t.plain_draftTableConstraint k
    simp only [plain_append, plain_keyword, plain_identifier, plain_verbatim, and_true, true_and]
    refine ⟨?_, plain_commaSeparated _ hparts⟩
    split <;> simp

theorem plain_draftDropTable (d : DropTable) : Plain (t.draftDropTable d) := by
  have haction : Plain (draftDropAction d.action) := by
    cases d.action <;> simp [draftDropAction]
  unfold draftDropTable
  dsimp only
  split
  · exact t.plain_missing _ _
  · exact plain_keyword _
  · refine plain_withNames fun tables => ?_
    simp only [plain_append, plain_keyword, plain_names, haction, and_true, true_and]
    refine ⟨⟨?_, ?_⟩, by simp [Step.isPlain]⟩
    · split <;> simp
    · split <;> simp
  · refine plain_withNames fun tables => ?_
    simp only [plain_append, plain_keyword, plain_names, haction, and_true, true_and]
    refine ⟨?_, by simp [Step.isPlain]⟩
    split <;> simp

/-- The draft of a node whose column defaults are texts is plain, on every target. -/
theorem plain_draft {n : Node} (h : n.hasTextDefaults = true) (p : Position) :
    Plain (t.draft n p) := by
  unfold draft
  split
  · exact t.plain_draftCreateTable h
  · exact t.plain_draftDropTable _
  · unfold draftBareStatement
    split <;> simp
  · exact t.plain_draftTableConstraint _
  · exact t.plain_draftColumnConstraint _
  · exact t.plain_draftColumn h
  · exact t.plain_draftAction _
  · simp [Step.isPlain]

end Target

/-! ### Outcomes of malformed nodes -/

/-- The only defect that cannot be written is a name that cannot. -/
theorem Defect.message?_eq_none_iff {d : Defect} :
    d.message? = none ↔ ∃ given, d.cause = .blankName given ∧ given.shown? = none := by
  obtain ⟨construct, cause⟩ := d
  cases cause with
  | blankName given => simp [Defect.message?]
  | noName names => simp [Defect.message?]
  | misplaced position => simp [Defect.message?]

namespace Outcome

variable {d : Defect}

/-- The refusal of a malformed node is written, or it is not. -/
theorem ofDefect_cases (d : Defect) :
    d.message?.isSome = true ∧ ofDefect d = .malformed d ∨
      d.message? = none ∧ ofDefect d = .unwritable := by
  unfold ofDefect
  cases d.message? with
  | none => exact .inr ⟨rfl, rfl⟩
  | some message => exact .inl ⟨rfl, rfl⟩

theorem ofDefect_of_isSome (h : d.message?.isSome = true) : ofDefect d = .malformed d :=
  if_pos h

theorem ofDefect_of_none (h : d.message? = none) : ofDefect d = .unwritable := by
  rw [ofDefect, h]
  rfl

theorem ofDefect_eq_malformed {x : Defect} (h : ofDefect d = .malformed x) :
    d = x ∧ x.message?.isSome = true := by
  obtain ⟨hmessage, hd⟩ | ⟨-, hd⟩ := ofDefect_cases d
  · obtain rfl : d = x := Outcome.malformed.inj (hd.symm.trans h)
    exact ⟨rfl, hmessage⟩
  · exact absurd (hd.symm.trans h) nofun

theorem ofDefect_eq_unwritable (h : ofDefect d = .unwritable) : d.message? = none := by
  obtain ⟨-, hd⟩ | ⟨hmessage, -⟩ := ofDefect_cases d
  · exact absurd (hd.symm.trans h) nofun
  · exact hmessage

theorem ofDefect_ne_rendered {sql : String} {os : List Omission} :
    ofDefect d ≠ .rendered sql os := by
  obtain ⟨-, hd⟩ | ⟨-, hd⟩ := ofDefect_cases d <;> exact hd ▸ nofun

theorem ofDefect_ne_unsupported {o : Omission} : ofDefect d ≠ .unsupported o := by
  obtain ⟨-, hd⟩ | ⟨-, hd⟩ := ofDefect_cases d <;> exact hd ▸ nofun

theorem ofDefect_ne_unjoinable : ofDefect d ≠ .unjoinable := by
  obtain ⟨-, hd⟩ | ⟨-, hd⟩ := ofDefect_cases d <;> exact hd ▸ nofun

end Outcome

/-! ### Visitors in the two modes -/

namespace Visitor

/-- The visitor that leaves out what its target cannot express. -/
def lenient (v : Visitor) : Visitor :=
  { v with strategy := { v.strategy with skipUnsupported := true } }

/-- The visitor that refuses what its target cannot express. -/
def strict (v : Visitor) : Visitor :=
  { v with strategy := { v.strategy with skipUnsupported := false } }

/-- What the lenient rendering of a node has left out when it ends, in order. -/
def leftOut (v : Visitor) (n : Node) (p : Position) : List Omission :=
  ((v.target.draft n p).read true).omitted

/-- The text of a draft that was read. -/
def sqlOf (v : Visitor) (r : Draft.Reading) : String :=
  v.strategy.formatAll (some v.target.engine.quote) r.segments

/-- What a draft that was read comes to. -/
def outcomeOf (v : Visitor) (r : Draft.Reading) : Outcome :=
  match r.ending with
  | .complete => if r.joinable then .rendered (v.sqlOf r) r.omitted else .unjoinable
  | .malformed d => .ofDefect d
  | .unsupported o => .unsupported o
  | .unjoinable => .unjoinable

theorem conclude_fst (v : Visitor) (s : Subject) (r : Draft.Reading) :
    (v.conclude s r).1 = v.outcomeOf r := by
  unfold conclude outcomeOf
  cases r.ending <;> rfl

/-- The outcome of a lenient rendering.  The mode is no part of how the text is formatted. -/
theorem lenient_outcome (v : Visitor) (n : Node) (p : Position) :
    (v.lenient.render n p).outcome = v.outcomeOf ((v.target.draft n p).read true) :=
  v.lenient.conclude_fst (.node n) _

/-- The outcome of a strict rendering. -/
theorem strict_outcome (v : Visitor) (n : Node) (p : Position) :
    (v.strict.render n p).outcome = v.outcomeOf ((v.target.draft n p).read false) :=
  v.strict.conclude_fst (.node n) _

variable {v : Visitor} {r : Draft.Reading}

theorem outcomeOf_complete (he : r.ending = .complete) (hj : r.joinable = true) :
    v.outcomeOf r = .rendered (v.sqlOf r) r.omitted := by
  rw [outcomeOf, he, hj]; rfl

theorem outcomeOf_malformed {d : Defect} (he : r.ending = .malformed d) :
    v.outcomeOf r = .ofDefect d := by
  rw [outcomeOf, he]

theorem outcomeOf_unsupported {o : Omission} (he : r.ending = .unsupported o) :
    v.outcomeOf r = .unsupported o := by
  rw [outcomeOf, he]

theorem outcomeOf_eq_rendered {sql : String} {os : List Omission}
    (h : v.outcomeOf r = .rendered sql os) :
    r.ending = .complete ∧ v.sqlOf r = sql ∧ r.omitted = os := by
  unfold outcomeOf at h
  split at h
  · rename_i he
    split at h
    · injection h with hsql hos
      exact ⟨he, hsql, hos⟩
    · exact absurd h nofun
  · exact absurd h Outcome.ofDefect_ne_rendered
  all_goals exact absurd h nofun

theorem outcomeOf_eq_malformed {d : Defect} (h : v.outcomeOf r = .malformed d) :
    r.ending = .malformed d ∧ d.message?.isSome = true := by
  unfold outcomeOf at h
  split at h
  · split at h <;> exact absurd h nofun
  · rename_i he
    obtain ⟨rfl, hmessage⟩ := Outcome.ofDefect_eq_malformed h
    exact ⟨he, hmessage⟩
  all_goals exact absurd h nofun

theorem outcomeOf_eq_unwritable_iff :
    v.outcomeOf r = .unwritable ↔ ∃ d, r.ending = .malformed d ∧ d.message? = none := by
  constructor
  · intro h
    unfold outcomeOf at h
    split at h
    · split at h <;> exact absurd h nofun
    · exact ⟨_, ‹_›, Outcome.ofDefect_eq_unwritable h⟩
    all_goals exact absurd h nofun
  · rintro ⟨d, hd, hmessage⟩
    exact (outcomeOf_malformed hd).trans (Outcome.ofDefect_of_none hmessage)

theorem outcomeOf_eq_unsupported {o : Omission} (h : v.outcomeOf r = .unsupported o) :
    r.ending = .unsupported o := by
  unfold outcomeOf at h
  split at h
  · split at h <;> exact absurd h nofun
  · exact absurd h Outcome.ofDefect_ne_unsupported
  · rename_i he
    injection h with ho
    rw [he, ho]
  · exact absurd h nofun

theorem outcomeOf_eq_unjoinable (h : v.outcomeOf r = .unjoinable) :
    r.joinable = false ∨ r.ending = .unjoinable := by
  unfold outcomeOf at h
  split at h
  · split at h
    · exact absurd h nofun
    · exact .inl (Bool.eq_false_iff.mpr ‹_›)
  · exact absurd h Outcome.ofDefect_ne_unjoinable
  · exact absurd h nofun
  · exact .inr ‹_›

/-! ### What the strict rendering comes to -/

/-- **The lenient rendering determines the strict one.**  With nothing left out the text is the
same; with something left out the strict rendering refuses the first of it; where the lenient one
finds a malformed node the strict one reports that node, or the first part left out before it, and
so it is where the refusal of that node cannot be written.  The lenient rendering itself never
refuses what the target cannot express, and both can be joined. -/
theorem strict_outcome_of_lenient (v : Visitor) (n : Node) (p : Position)
    (h : n.hasTextDefaults = true) :
    (∀ sql os, (v.lenient.render n p).outcome = .rendered sql os → os = v.leftOut n p) ∧
    (∀ sql, (v.lenient.render n p).outcome = .rendered sql [] →
      (v.strict.render n p).outcome = .rendered sql []) ∧
    (∀ sql o rest, (v.lenient.render n p).outcome = .rendered sql (o :: rest) →
      (v.strict.render n p).outcome = .unsupported o) ∧
    (∀ d, (v.lenient.render n p).outcome = .malformed d →
      (v.strict.render n p).outcome =
        match v.leftOut n p with
        | [] => .malformed d
        | o :: _ => .unsupported o) ∧
    ((v.lenient.render n p).outcome = .unwritable →
      (v.strict.render n p).outcome =
        match v.leftOut n p with
        | [] => .unwritable
        | o :: _ => .unsupported o) ∧
    (∀ o, (v.lenient.render n p).outcome ≠ .unsupported o) ∧
    (v.lenient.render n p).outcome ≠ .unjoinable := by
  rw [lenient_outcome, strict_outcome]
  unfold leftOut
  have hplain := (v.target.plain_draft h p).read true
  -- from here on the node does not matter, only the two readings of its draft
  generalize v.target.draft n p = d at hplain ⊢
  have hending := d.ending_read_strict
  refine ⟨?_, ?_, ?_, ?_, ?_, ?_, ?_⟩
  · intro sql os ho
    exact (outcomeOf_eq_rendered ho).2.2.symm
  · intro sql ho
    -- nothing was left out, so both modes read the draft alike
    rw [d.read_strict_of_omitted_nil (outcomeOf_eq_rendered ho).2.2]
    exact ho
  · intro sql o rest ho
    rw [(outcomeOf_eq_rendered ho).2.2] at hending
    exact outcomeOf_unsupported hending
  · intro x hx
    obtain ⟨hx, hmessage⟩ := outcomeOf_eq_malformed hx
    rw [hx] at hending
    cases hleft : (d.read true).omitted with
    | nil =>
      rw [hleft] at hending
      exact (outcomeOf_malformed hending).trans (Outcome.ofDefect_of_isSome hmessage)
    | cons o rest =>
      rw [hleft] at hending
      exact outcomeOf_unsupported hending
  · intro hx
    obtain ⟨x, hx, hmessage⟩ := outcomeOf_eq_unwritable_iff.mp hx
    rw [hx] at hending
    cases hleft : (d.read true).omitted with
    | nil =>
      rw [hleft] at hending
      exact (outcomeOf_malformed hending).trans (Outcome.ofDefect_of_none hmessage)
    | cons o rest =>
      rw [hleft] at hending
      exact outcomeOf_unsupported hending
  · intro o ho
    exact d.ending_read_lenient_ne_unsupported o (outcomeOf_eq_unsupported ho)
  · intro ho
    rcases outcomeOf_eq_unjoinable ho with hj | he
    · exact Bool.false_ne_true (hj.symm.trans hplain.1)
    · exact hplain.2 he

/-- On an engine of its own layers, the strict rendering refuses a part that stands before the
primary key at which the lenient one fails. -/
theorem strict_outcome_custom_engine :
    let v : Visitor :=
      ⟨⟨⟨"custom", [.standard, Layer.columnConstraints.withLiteral .columnCheck " checked"],
        [⟨[1]⟩], .bracket, fun _ => 1⟩, ⟨[1]⟩⟩, {}⟩
    let u : Unique := { columnNames := [.text "a"], nullsDistinct := .bool false }
    let n : Node := .createTable
      { tableName := "t"
        columns := [{ name := "a", dataType := "int", default := .text "0"
                      constraints := [.check ⟨"a > 0"⟩] }]
        constraints := [.unique u, .primaryKey {}] }
    n.hasTextDefaults = true ∧
      (v.lenient.render n .statement).outcome =
        .malformed ⟨.node (.constraint (.primaryKey {})), .noName .primaryKeyColumns⟩ ∧
      (v.strict.render n .statement).outcome =
        .unsupported ⟨.constraint (.unique u), .feature .uniqueNullsNotDistinct, "custom",
          ⟨[1]⟩, none⟩ :=
  ⟨rfl, rfl, (strict_outcome_of_lenient _ _ _ rfl).2.2.2.1 _ rfl⟩

end Visitor

end SqlDialect
